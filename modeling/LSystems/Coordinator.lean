import LSystems.Figure
import LSystems.Growth
import LSystems.RenderEvent
import LSystems.Surface

namespace LSystems

/-- A scale with what it was chosen for: a generation, the size of the surface, and
how often that had been changed. -/
structure KeptScale (α : Type) where
  generation : Nat
  size : Size α
  resizes : Nat
  scale : Scale α

/-- Lets a system grow and renders its word. The box of the generation measured
last and the scale of the generation and size drawn last are kept; the outcomes of
jobs stay until they are waited for. -/
structure Coordinator (α : Type) where
  system : LSystem
  interpreter : Interpreter α
  base : α
  surface : Surface α
  measured : Option (Nat × Box α)
  passes : Nat
  scaled : Option (KeptScale α)
  stage : Stage
  isOpen : Bool
  jobs : List (Option Fault)

/-- The events of a part of a job, the coordinator after it, and its result. -/
structure Part (α β : Type) where
  events : List Event
  coordinator : Coordinator α
  outcome : Except Fault β

/-- A part of a job followed by another one that needs its result. -/
def Part.andThen {α β γ : Type} (first : Part α β)
    (next : Coordinator α → β → Part α γ) : Part α γ :=
  match first.outcome with
  | .error e => ⟨first.events, first.coordinator, .error e⟩
  | .ok b =>
    let second := next first.coordinator b
    ⟨first.events ++ second.events, second.coordinator, second.outcome⟩

namespace Coordinator

variable {α : Type} [Scalar α]

/-- A coordinator that has done nothing yet. -/
def start (system : LSystem) (interpreter : Interpreter α) (base : α) (size : Size α) :
    Coordinator α where
  system := system
  interpreter := interpreter
  base := base
  surface := .blank size
  measured := none
  passes := 0
  scaled := none
  stage := .idle
  isOpen := true
  jobs := []

/-- The generation whose box is kept. -/
def measuredGeneration (c : Coordinator α) : Option Nat :=
  c.measured.map Prod.fst

/-- The scale used last. -/
def lastScale (c : Coordinator α) : Option (Scale α) :=
  c.scaled.map KeptScale.scale

/-- The box kept for the current generation. -/
def keptBox? (c : Coordinator α) : Option (Box α) :=
  match c.measured with
  | some (generation, box) => if generation = c.system.generation then some box else none
  | none => none

/-- The scale kept for the current generation and the size of the surface, which has
not been changed since or has the same value again. -/
def keptScale? (c : Coordinator α) : Option (Scale α) :=
  match c.scaled with
  | some kept =>
    if kept.generation = c.system.generation
        ∧ (kept.resizes = c.surface.resizes ∨ kept.size.sameValue c.surface.size) then some kept.scale
    else none
  | none => none

/-- Measures the current generation unless its box is kept. -/
def measure (c : Coordinator α) : Part α (Box α) :=
  match c.keptBox? with
  | some box => ⟨[], c, .ok box⟩
  | none =>
    let measured := c.interpreter.measure c.base ⟨0, 0⟩ c.system.word
    let events := .stage .measuring :: .status .measuring :: measured.progress.map .progress
    let c := { c with stage := .measuring }
    match measured.outcome with
    | .error e => ⟨events, c, .error e⟩
    | .ok box =>
      ⟨events ++ [.status .measured],
        { c with measured := some (c.system.generation, box), passes := c.passes + 1 }, .ok box⟩

/-- Fits a box to the surface unless the scale is kept. -/
def fit (c : Coordinator α) (box : Box α) : Part α (Scale α) :=
  let events := [.stage .scaling]
  let c := { c with stage := .scaling }
  match c.keptScale? with
  | some scale => ⟨events, c, .ok scale⟩
  | none =>
    match Scale.fit box c.surface.size c.base with
    | .error e => ⟨events, c, .error e⟩
    | .ok scale =>
      let kept := ⟨c.system.generation, c.surface.size, c.surface.resizes, scale⟩
      ⟨events, { c with scaled := some kept }, .ok scale⟩

/-- Draws the current generation at a scale. -/
def draw (c : Coordinator α) (scale : Scale α) : Part α Unit :=
  let events := [.progress 100, .stage .drawing]
  let c := { c with stage := .drawing }
  match scale.origin with
  | .error e => ⟨events, c, .error e⟩
  | .ok origin =>
    let drawn := c.interpreter.draw scale.distance origin c.system.word
    let events := events ++ drawn.progress.map .progress
    match drawn.outcome with
    | .error e => ⟨events, c, .error e⟩
    | .ok strokes =>
      let (outcome, surface) := c.surface.draw strokes
      let c := { c with surface := surface }
      match outcome with
      | .error e => ⟨events, c, .error e⟩
      | .ok () => ⟨events ++ [.status .rendered], c, .ok ()⟩

/-- Measures, fits and draws the current generation. -/
def pipeline (c : Coordinator α) : Part α Unit :=
  (c.measure.andThen fit).andThen draw

/-- The events that report a fault. -/
def failureEvents (fault : Fault) : List Event :=
  [.stage .error, .error fault.report, .status (.failed fault.report), .stage .idle]

/-- Renders the current generation. A fault is reported, and only an unexpected
one is kept for those who wait. -/
def renderJob (c : Coordinator α) : List Event × Coordinator α :=
  let part := c.pipeline
  let c := { part.coordinator with stage := .idle }
  match part.outcome with
  | .ok () => (part.events ++ [.stage .idle, .rendered], { c with jobs := c.jobs ++ [none] })
  | .error fault =>
    (part.events ++ failureEvents fault,
      { c with jobs := c.jobs ++ [if fault.isExpected then none else some fault] })

/-- Lets the system grow by one generation, which makes the kept box void. Those
who watch a closed coordinator are told nothing, and its box stays. -/
def grow (c : Coordinator α) : List Event × Coordinator α × Option Fault :=
  let next := c.system.iterate
  match next.outcome with
  | .error fault => ([], c, some fault)
  | .ok system =>
    if c.isOpen then
      (next.progress.map .growing ++ [.grown system.generation],
        { c with system := system, measured := none }, none)
    else ([], { c with system := system }, none)

/-- Grows as a job, whose fault is kept for those who wait. -/
def growJob (c : Coordinator α) : List Event × Coordinator α :=
  let (events, c, fault) := c.grow
  (events, { c with jobs := c.jobs ++ [fault] })

/-- Waits until the first fault of a job or the end of all jobs; the jobs up to
there are done with. -/
def wait (c : Coordinator α) : Option Fault × Coordinator α :=
  match c.jobs.dropWhile Option.isNone with
  | fault :: rest => (fault, { c with jobs := rest })
  | [] => (none, { c with jobs := [] })

/-- Waits again and again until no fault is left; the faults in order. -/
def drain (c : Coordinator α) : List Fault × Coordinator α :=
  (c.jobs.filterMap id, { c with jobs := [] })

end Coordinator

/-- What can be asked of a coordinator or done to what it works on. -/
inductive Request (α : Type)
  | grow (times : Nat)
  | growAndRender (times : Nat)
  | render
  | growDirectly
  | resize (size : Size α)
  | setAngle (angle : α)
  | setStep (step : Int)
  | setBase (base : α)
  | failNext (fault : SurfaceFault)
  | shutdown

/-- Why a request itself fails: a closed coordinator takes no jobs, and a direct
rewrite passes its fault on. -/
inductive Refusal
  | closed
  | fault (fault : Fault)
deriving DecidableEq

/-- The text of a refusal. -/
def Refusal.message : Refusal → String
  | closed => "cannot schedule new futures after shutdown"
  | fault f => f.message

/-- The events of a request, the coordinator after it, and why it was refused. -/
structure Reply (α : Type) where
  events : List Event
  coordinator : Coordinator α
  refusal : Option Refusal

namespace Coordinator

variable {α : Type} [Scalar α]

/-- Asks for a render. -/
def render (c : Coordinator α) : Reply α :=
  if c.isOpen then
    let (events, c) := c.renderJob
    ⟨events, c, none⟩
  else ⟨[], c, some .closed⟩

/-- Asks for a number of generations. -/
def growTimes (c : Coordinator α) : Nat → Reply α
  | 0 => ⟨[], c, none⟩
  | n + 1 =>
    if c.isOpen then
      let (events, c) := c.growJob
      let rest := c.growTimes n
      ⟨events ++ rest.events, rest.coordinator, rest.refusal⟩
    else ⟨[], c, some .closed⟩

/-- Carries out a request, all jobs to their end. -/
def perform (c : Coordinator α) : Request α → Reply α
  | .grow times => c.growTimes times
  | .growAndRender times =>
    let grown := c.growTimes times
    match grown.refusal with
    | some refusal => ⟨grown.events, grown.coordinator, some refusal⟩
    | none =>
      let rendered := grown.coordinator.render
      ⟨grown.events ++ rendered.events, rendered.coordinator, rendered.refusal⟩
  | .render => c.render
  | .growDirectly =>
    let (events, c, fault) := c.grow
    ⟨events, c, fault.map .fault⟩
  | .resize size => ⟨[], { c with surface := c.surface.resize size }, none⟩
  | .setAngle angle => ⟨[], { c with interpreter := { c.interpreter with turnAngle := angle } }, none⟩
  | .setStep step => ⟨[], { c with interpreter := { c.interpreter with step := step } }, none⟩
  | .setBase base => ⟨[], { c with base := base }, none⟩
  | .failNext fault =>
    ⟨[], { c with surface := { c.surface with pending := c.surface.pending ++ [fault] } }, none⟩
  | .shutdown => ⟨[], { c with isOpen := false }, none⟩

/-- The coordinator after a run of requests, each waited for. -/
def run (c : Coordinator α) (requests : List (Request α)) : Coordinator α :=
  requests.foldl (fun c request => (c.perform request).coordinator.drain.2) c

end Coordinator

end LSystems
