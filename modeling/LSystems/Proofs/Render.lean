import LSystems.Coordinator
import Mathlib.Tactic.SplitIfs

namespace LSystems

theorem Surface.draw_cases {α : Type} (s : Surface α) (strokes : List (Segment α)) :
    (s.pending = [] ∧
      s.draw strokes = (.ok (), { s with strokes := strokes, draws := s.draws + 1 })) ∨
    ∃ fault rest, s.pending = fault :: rest ∧
      s.draw strokes = (.error (.surface fault), { s with pending := rest }) := by
  unfold draw
  cases s.pending with
  | nil => exact .inl ⟨rfl, rfl⟩
  | cons fault rest => exact .inr ⟨fault, rest, rfl, rfl⟩

theorem Surface.draw_size {α : Type} (s : Surface α) (strokes : List (Segment α)) :
    (s.draw strokes).2.size = s.size := by
  obtain ⟨-, drawn⟩ | ⟨fault, rest, -, drawn⟩ := s.draw_cases strokes
  · rw [drawn]
  · rw [drawn]

theorem Surface.draw_resizes {α : Type} (s : Surface α) (strokes : List (Segment α)) :
    (s.draw strokes).2.resizes = s.resizes := by
  obtain ⟨-, drawn⟩ | ⟨fault, rest, -, drawn⟩ := s.draw_cases strokes
  · rw [drawn]
  · rw [drawn]

/-- A surface that is to be drawn on meets the first failure that awaits it. -/
theorem Surface.draw_pending {α : Type} (s : Surface α) (strokes : List (Segment α)) :
    (s.draw strokes).2.pending = s.pending.tail := by
  obtain ⟨unhindered, drawn⟩ | ⟨fault, rest, pending, drawn⟩ := s.draw_cases strokes
  · rw [drawn, unhindered]
    rfl
  · rw [drawn, pending]
    rfl

namespace Part

variable {α β γ : Type}

theorem andThen_of_ok {first : Part α β} {next : Coordinator α → β → Part α γ} {b : β}
    (h : first.outcome = .ok b) :
    first.andThen next = ⟨first.events ++ (next first.coordinator b).events,
      (next first.coordinator b).coordinator, (next first.coordinator b).outcome⟩ := by
  unfold andThen
  rw [h]

theorem andThen_of_error {first : Part α β} {next : Coordinator α → β → Part α γ} {e : Fault}
    (h : first.outcome = .error e) :
    first.andThen next = ⟨first.events, first.coordinator, .error e⟩ := by
  unfold andThen
  rw [h]

theorem not_mem_andThen {first : Part α β} {next : Coordinator α → β → Part α γ} {e : Event}
    (h : e ∉ first.events) (h' : ∀ b, e ∉ (next first.coordinator b).events) :
    e ∉ (first.andThen next).events := by
  unfold andThen
  cases first.outcome with
  | error fault => exact h
  | ok b => exact fun mem => (List.mem_append.mp mem).elim h (h' b)

end Part

namespace Coordinator

variable {α : Type} (c : Coordinator α)

/-- The coordinator at another stage. -/
def atStage (stage : Stage) : Coordinator α :=
  { c with stage := stage }

/-- The coordinator with another surface. -/
def onto (surface : Surface α) : Coordinator α :=
  { c with surface := surface }

/-- The coordinator with its box: one measured anew is kept and counted. -/
def withBox (box : Box α) : Coordinator α :=
  if c.keptBox?.isSome then c
  else { c with measured := some (c.system.generation, box), passes := c.passes + 1 }

/-- Coordinators with the same work, the same settings and the same things kept. -/
structure Alike (d : Coordinator α) : Prop where
  system : c.system = d.system
  interpreter : c.interpreter = d.interpreter
  base : c.base = d.base
  size : c.surface.size = d.surface.size
  resizes : c.surface.resizes = d.surface.resizes
  measured : c.measured = d.measured
  scaled : c.scaled = d.scaled
  isOpen : c.isOpen = d.isOpen

/-- The coordinator when a job is done. -/
def done (jobs : List (Option Fault)) : Coordinator α :=
  { c with stage := .idle, jobs := jobs }

theorem withBox_system (box : Box α) : (c.withBox box).system = c.system := by
  unfold withBox
  split <;> rfl

theorem withBox_surface (box : Box α) : (c.withBox box).surface = c.surface := by
  unfold withBox
  split <;> rfl

theorem alike_done (jobs : List (Option Fault)) : Alike (c.done jobs) c :=
  ⟨rfl, rfl, rfl, rfl, rfl, rfl, rfl, rfl⟩

theorem alike_drawn (jobs : List (Option Fault)) {surface : Surface α} {strokes : List (Segment α)}
    (h : c.surface = surface) : Alike ((c.onto (surface.draw strokes).2).done jobs) c := by
  subst h
  have size : (c.surface.draw strokes).2.size = c.surface.size := Surface.draw_size _ _
  have resizes : (c.surface.draw strokes).2.resizes = c.surface.resizes := Surface.draw_resizes _ _
  exact ⟨rfl, rfl, rfl, size, resizes, rfl, rfl, rfl⟩

section
variable {c} {d : Coordinator α}

theorem measured_of_keptBox {box : Box α} (h : c.keptBox? = some box) :
    c.measured = some (c.system.generation, box) := by
  unfold keptBox? at h
  split at h
  next generation kept eq =>
    split_ifs at h with same
    cases h
    rw [eq, same]
  next => cases h

theorem keptBox_of_measured {box : Box α} (h : c.measured = some (c.system.generation, box)) :
    c.keptBox? = some box := by
  unfold keptBox?
  rw [h]
  exact if_pos rfl

theorem Alike.keptBox (h : Alike c d) : c.keptBox? = d.keptBox? := by
  unfold keptBox?
  rw [h.measured, h.system]

end

variable [Scalar α]

/-- The box that measuring the current generation gives. -/
def figure : Except Fault (Box α) :=
  (c.interpreter.measure c.base ⟨0, 0⟩ c.system.word).outcome

/-- The box that a render works with, kept or measured. -/
def boxInUse : Except Fault (Box α) :=
  match c.keptBox? with
  | some box => .ok box
  | none => c.figure

/-- The scale that a render draws a box with, kept or fitted. -/
def scaleInUse (box : Box α) : Except Fault (Scale α) :=
  match c.keptScale? with
  | some scale => .ok scale
  | none => Scale.fit box c.surface.size c.base

/-- The strokes that the current generation makes at a scale. -/
def strokesAt (scale : Scale α) : Except Fault (List (Segment α)) :=
  match scale.origin with
  | .error e => .error e
  | .ok origin => (c.interpreter.draw scale.distance origin c.system.word).outcome

theorem strokesAt_eq_ok_iff {c : Coordinator α} {scale : Scale α} {strokes : List (Segment α)} :
    c.strokesAt scale = .ok strokes ↔ ∃ origin, scale.origin = .ok origin ∧
      (c.interpreter.draw scale.distance origin c.system.word).outcome = .ok strokes := by
  unfold strokesAt
  cases scale.origin with
  | error e => exact ⟨nofun, nofun⟩
  | ok origin =>
    constructor
    · exact fun drawn => ⟨origin, rfl, drawn⟩
    · rintro ⟨_, ⟨⟩, drawn⟩
      exact drawn

/-- The coordinator with its scale: one fitted anew is kept. -/
def withScale (scale : Scale α) : Coordinator α :=
  if c.keptScale?.isSome then c
  else { c with scaled := some ⟨c.system.generation, c.surface.size, c.surface.resizes, scale⟩ }

theorem measure_cases :
    (∃ e, c.boxInUse = .error e ∧ c.measure.outcome = .error e ∧
      c.measure.coordinator = c.atStage .measuring) ∨
    ∃ box stage, c.boxInUse = .ok box ∧ c.measure.outcome = .ok box ∧
      c.measure.coordinator = (c.withBox box).atStage stage := by
  unfold measure boxInUse withBox
  cases c.keptBox? with
  | some box => exact .inr ⟨box, c.stage, rfl, rfl, rfl⟩
  | none =>
    dsimp only [figure]
    cases (c.interpreter.measure c.base ⟨0, 0⟩ c.system.word).outcome with
    | error e => exact .inl ⟨e, rfl, rfl, rfl⟩
    | ok box => exact .inr ⟨box, .measuring, rfl, rfl, rfl⟩

theorem fit_cases (box : Box α) :
    (∃ e, c.scaleInUse box = .error e ∧ (c.fit box).outcome = .error e ∧
      (c.fit box).coordinator = c.atStage .scaling) ∨
    ∃ scale, c.scaleInUse box = .ok scale ∧ (c.fit box).outcome = .ok scale ∧
      (c.fit box).coordinator = (c.withScale scale).atStage .scaling := by
  have same : ({ c with stage := .scaling } : Coordinator α).keptScale? = c.keptScale? := rfl
  unfold fit scaleInUse withScale
  simp only [same]
  cases c.keptScale? with
  | some scale => exact .inr ⟨scale, rfl, rfl, rfl⟩
  | none =>
    dsimp only
    cases Scale.fit box c.surface.size c.base with
    | error e => exact .inl ⟨e, rfl, rfl, rfl⟩
    | ok scale => exact .inr ⟨scale, rfl, rfl, rfl⟩

theorem draw_cases (scale : Scale α) :
    (∃ e, c.strokesAt scale = .error e ∧ (c.draw scale).outcome = .error e ∧
      (c.draw scale).coordinator = c.atStage .drawing) ∨
    ∃ strokes, c.strokesAt scale = .ok strokes ∧
      (c.draw scale).outcome = (c.surface.draw strokes).1 ∧
      (c.draw scale).coordinator = (c.onto (c.surface.draw strokes).2).atStage .drawing := by
  unfold draw strokesAt
  cases scale.origin with
  | error e => exact .inl ⟨e, rfl, rfl, rfl⟩
  | ok origin =>
    dsimp only
    cases (c.interpreter.draw scale.distance origin c.system.word).outcome with
    | error e => exact .inl ⟨e, rfl, rfl, rfl⟩
    | ok strokes =>
      refine .inr ⟨strokes, rfl, ?_⟩
      dsimp only
      generalize c.surface.draw strokes = drawn
      obtain ⟨outcome, surface⟩ := drawn
      cases outcome with
      | error e => exact ⟨rfl, rfl⟩
      | ok done => exact ⟨rfl, rfl⟩

theorem withBox_scaleInUse (box box' : Box α) :
    (c.withBox box).scaleInUse box' = c.scaleInUse box' := by
  unfold withBox
  split <;> rfl

theorem withScale_system (scale : Scale α) : (c.withScale scale).system = c.system := by
  unfold withScale
  split <;> rfl

theorem atStage_withScale (stage : Stage) (scale : Scale α) :
    (c.atStage stage).withScale scale = (c.withScale scale).atStage stage := by
  have same : (c.atStage stage).keptScale? = c.keptScale? := rfl
  unfold withScale
  rw [same]
  cases c.keptScale? <;> rfl

theorem withBox_withScale_strokesAt (box : Box α) (scale : Scale α) (stage : Stage) :
    (((c.withBox box).withScale scale).atStage stage).strokesAt = c.strokesAt := by
  unfold withBox withScale
  split <;> split <;> rfl

theorem withBox_withScale_surface (box : Box α) (scale : Scale α) :
    ((c.withBox box).withScale scale).surface = c.surface := by
  unfold withBox withScale
  split <;> split <;> rfl

/-- How far a render comes before it draws, and what it keeps on the way. -/
theorem prepare_cases :
    (∃ e, c.boxInUse = .error e ∧ (c.measure.andThen fit).outcome = .error e ∧
      (c.measure.andThen fit).coordinator = c.atStage .measuring) ∨
    (∃ box e, c.boxInUse = .ok box ∧ c.scaleInUse box = .error e ∧
      (c.measure.andThen fit).outcome = .error e ∧
      (c.measure.andThen fit).coordinator = (c.withBox box).atStage .scaling) ∨
    ∃ box scale, c.boxInUse = .ok box ∧ c.scaleInUse box = .ok scale ∧
      (c.measure.andThen fit).outcome = .ok scale ∧
      (c.measure.andThen fit).coordinator = ((c.withBox box).withScale scale).atStage .scaling := by
  obtain ⟨e, inUse, failed, left⟩ | ⟨box, stage, inUse, found, left⟩ := c.measure_cases
  · rw [Part.andThen_of_error failed]
    exact .inl ⟨e, inUse, rfl, left⟩
  rw [Part.andThen_of_ok found, left]
  refine .inr ?_
  obtain ⟨e, fits, failed, left⟩ | ⟨scale, fits, found, left⟩ :=
    ((c.withBox box).atStage stage).fit_cases box
  · have same := (c.withBox_scaleInUse box box).symm.trans fits
    exact .inl ⟨box, e, inUse, same, failed, left⟩
  · have same := (c.withBox_scaleInUse box box).symm.trans fits
    rw [atStage_withScale] at left
    exact .inr ⟨box, scale, inUse, same, found, left⟩

/-- How a render ends, and what it leaves. -/
theorem pipeline_cases :
    (∃ e, c.boxInUse = .error e ∧ c.pipeline.outcome = .error e ∧
      c.pipeline.coordinator = c.atStage .measuring) ∨
    (∃ box e, c.boxInUse = .ok box ∧ c.scaleInUse box = .error e ∧ c.pipeline.outcome = .error e ∧
      c.pipeline.coordinator = (c.withBox box).atStage .scaling) ∨
    (∃ box scale e, c.boxInUse = .ok box ∧ c.scaleInUse box = .ok scale ∧
      c.strokesAt scale = .error e ∧ c.pipeline.outcome = .error e ∧
      c.pipeline.coordinator = ((c.withBox box).withScale scale).atStage .drawing) ∨
    ∃ box scale strokes, c.boxInUse = .ok box ∧ c.scaleInUse box = .ok scale ∧
      c.strokesAt scale = .ok strokes ∧ c.pipeline.outcome = (c.surface.draw strokes).1 ∧
      c.pipeline.coordinator
        = (((c.withBox box).withScale scale).onto (c.surface.draw strokes).2).atStage .drawing := by
  unfold pipeline
  obtain ⟨e, inUse, failed, left⟩ | ⟨box, e, inUse, fits, failed, left⟩ |
    ⟨box, scale, inUse, fits, found, left⟩ := c.prepare_cases
  · rw [Part.andThen_of_error failed]
    exact .inl ⟨e, inUse, rfl, left⟩
  · rw [Part.andThen_of_error failed]
    exact .inr (.inl ⟨box, e, inUse, fits, rfl, left⟩)
  rw [Part.andThen_of_ok found, left]
  refine .inr (.inr ?_)
  have same := c.withBox_withScale_strokesAt box scale .scaling
  have surface : (((c.withBox box).withScale scale).atStage .scaling).surface = c.surface :=
    c.withBox_withScale_surface box scale
  obtain ⟨e, draws, failed, left⟩ | ⟨strokes, draws, drawn, left⟩ :=
    (((c.withBox box).withScale scale).atStage .scaling).draw_cases scale
  · rw [same] at draws
    exact .inl ⟨box, scale, e, inUse, fits, draws, failed, left⟩
  · rw [same] at draws
    rw [surface] at drawn left
    exact .inr ⟨box, scale, strokes, inUse, fits, draws, drawn, left⟩

theorem rendered_not_mem_pipeline : Event.rendered ∉ c.pipeline.events := by
  have measure (d : Coordinator α) : Event.rendered ∉ d.measure.events := by
    unfold Coordinator.measure
    cases d.keptBox? with
    | some box => simp
    | none =>
      dsimp only
      cases (d.interpreter.measure d.base ⟨0, 0⟩ d.system.word).outcome <;> simp
  have fit (d : Coordinator α) (box : Box α) : Event.rendered ∉ (d.fit box).events := by
    unfold Coordinator.fit
    dsimp only
    split
    · simp
    · cases Scale.fit box d.surface.size d.base <;> simp
  have draw (d : Coordinator α) (scale : Scale α) : Event.rendered ∉ (d.draw scale).events := by
    unfold Coordinator.draw
    cases scale.origin with
    | error e => simp
    | ok origin =>
      dsimp only
      split
      · simp
      · split <;> simp
  unfold pipeline
  refine Part.not_mem_andThen (Part.not_mem_andThen (measure c) fun box => ?_) fun scale => ?_
  · exact fit _ box
  · exact draw _ scale

variable {c}

theorem render_eq (isOpen : c.isOpen = true) :
    ∃ events jobs, c.render = ⟨events, c.pipeline.coordinator.done jobs, none⟩ ∧
      (Event.rendered ∈ events ↔ c.pipeline.outcome = .ok ()) := by
  have silent := c.rendered_not_mem_pipeline
  unfold render renderJob
  rw [if_pos isOpen]
  dsimp only
  cases c.pipeline.outcome with
  | error e => exact ⟨_, _, rfl, by simp [silent, failureEvents]⟩
  | ok _ => exact ⟨_, _, rfl, by simp⟩

/-- How far a render comes, and what it leaves. -/
theorem render_cases (isOpen : c.isOpen = true) : ∃ jobs,
    (∃ e, c.boxInUse = .error e ∧ Event.rendered ∉ c.render.events ∧
      c.render.coordinator = c.done jobs) ∨
    (∃ box e, c.boxInUse = .ok box ∧ c.scaleInUse box = .error e ∧
      Event.rendered ∉ c.render.events ∧ c.render.coordinator = (c.withBox box).done jobs) ∨
    (∃ box scale e, c.boxInUse = .ok box ∧ c.scaleInUse box = .ok scale ∧
      c.strokesAt scale = .error e ∧ Event.rendered ∉ c.render.events ∧
      c.render.coordinator = ((c.withBox box).withScale scale).done jobs) ∨
    ∃ box scale strokes, c.boxInUse = .ok box ∧ c.scaleInUse box = .ok scale ∧
      c.strokesAt scale = .ok strokes ∧
      (Event.rendered ∈ c.render.events ↔ (c.surface.draw strokes).1 = .ok ()) ∧
      c.render.coordinator
        = (((c.withBox box).withScale scale).onto (c.surface.draw strokes).2).done jobs := by
  obtain ⟨events, jobs, rendered, told⟩ := render_eq isOpen
  rw [rendered]
  refine ⟨jobs, ?_⟩
  dsimp only
  rw [told]
  obtain ⟨e, inUse, failed, left⟩ | ⟨box, e, inUse, fits, failed, left⟩ |
    ⟨box, scale, e, inUse, fits, draws, failed, left⟩ |
    ⟨box, scale, strokes, inUse, fits, draws, ends, left⟩ := c.pipeline_cases
  · rw [failed, left]
    exact .inl ⟨e, inUse, nofun, rfl⟩
  · rw [failed, left]
    exact .inr (.inl ⟨box, e, inUse, fits, nofun, rfl⟩)
  · rw [failed, left]
    exact .inr (.inr (.inl ⟨box, scale, e, inUse, fits, draws, nofun, rfl⟩))
  · rw [ends, left]
    exact .inr (.inr (.inr ⟨box, scale, strokes, inUse, fits, draws, Iff.rfl, rfl⟩))

/-- What a render leaves. -/
theorem render_alike (isOpen : c.isOpen = true) :
    (∃ e, c.boxInUse = .error e ∧ Alike c.render.coordinator c) ∨
    (∃ box e, c.boxInUse = .ok box ∧ c.scaleInUse box = .error e ∧
      Alike c.render.coordinator (c.withBox box)) ∨
    ∃ box scale, c.boxInUse = .ok box ∧ c.scaleInUse box = .ok scale ∧
      Alike c.render.coordinator ((c.withBox box).withScale scale) := by
  obtain ⟨jobs, ⟨e, inUse, -, left⟩ | ⟨box, e, inUse, fits, -, left⟩ |
    ⟨box, scale, e, inUse, fits, -, -, left⟩ | ⟨box, scale, strokes, inUse, fits, -, -, left⟩⟩ :=
    render_cases isOpen
  · rw [left]
    exact .inl ⟨e, inUse, c.alike_done jobs⟩
  · rw [left]
    exact .inr (.inl ⟨box, e, inUse, fits, alike_done _ jobs⟩)
  · rw [left]
    exact .inr (.inr ⟨box, scale, inUse, fits, alike_done _ jobs⟩)
  · rw [left]
    have surface := c.withBox_withScale_surface box scale
    exact .inr (.inr ⟨box, scale, inUse, fits, alike_drawn _ jobs surface⟩)

/-- What a render works out that nothing stops. -/
structure Draws (c : Coordinator α) (box : Box α) (scale : Scale α) (strokes : List (Segment α)) :
    Prop where
  isOpen : c.isOpen = true
  inUse : c.boxInUse = .ok box
  fits : c.scaleInUse box = .ok scale
  draws : c.strokesAt scale = .ok strokes
  unhindered : c.surface.pending = []

/-- A first render measures, fits and draws by itself. -/
theorem draws_start {system : LSystem} {i : Interpreter α} {base : α} {size : Size α} {box : Box α}
    {scale : Scale α} {origin : Point α} {strokes : List (Segment α)}
    (measured : (i.measure base ⟨0, 0⟩ system.word).outcome = .ok box)
    (fitted : Scale.fit box size base = .ok scale) (starts : scale.origin = .ok origin)
    (drawn : (i.draw scale.distance origin system.word).outcome = .ok strokes) :
    (start system i base size).Draws box scale strokes :=
  ⟨rfl, measured, fitted, strokesAt_eq_ok_iff.mpr ⟨origin, starts, drawn⟩, rfl⟩

/-- What a render works out before the surface takes it or refuses it. -/
structure Reaches (c : Coordinator α) (box : Box α) (scale : Scale α) (strokes : List (Segment α)) :
    Prop where
  isOpen : c.isOpen = true
  inUse : c.boxInUse = .ok box
  fits : c.scaleInUse box = .ok scale
  draws : c.strokesAt scale = .ok strokes

/-- A render that comes to the surface ends as the surface has it. -/
theorem Reaches.render {box : Box α} {scale : Scale α} {strokes : List (Segment α)}
    (h : c.Reaches box scale strokes) : ∃ jobs,
    (Event.rendered ∈ c.render.events ↔ (c.surface.draw strokes).1 = .ok ()) ∧
    c.render.coordinator
      = (((c.withBox box).withScale scale).onto (c.surface.draw strokes).2).done jobs := by
  obtain ⟨jobs, ⟨e, inUse, -, -⟩ | ⟨box', e, inUse, fits, -, -⟩ |
    ⟨box', scale', e, inUse, fits, draws, -, -⟩ |
    ⟨box', scale', strokes', inUse, fits, draws, told, left⟩⟩ := render_cases h.isOpen
  · cases h.inUse.symm.trans inUse
  · cases h.inUse.symm.trans inUse
    cases h.fits.symm.trans fits
  · cases h.inUse.symm.trans inUse
    cases h.fits.symm.trans fits
    cases h.draws.symm.trans draws
  · cases h.inUse.symm.trans inUse
    cases h.fits.symm.trans fits
    cases h.draws.symm.trans draws
    exact ⟨jobs, told, left⟩

theorem draws_iff_reaches {box : Box α} {scale : Scale α} {strokes : List (Segment α)} :
    c.Draws box scale strokes ↔ c.Reaches box scale strokes ∧ c.surface.pending = [] := by
  constructor
  · intro drawn
    exact ⟨⟨drawn.isOpen, drawn.inUse, drawn.fits, drawn.draws⟩, drawn.unhindered⟩
  · rintro ⟨reached, unhindered⟩
    exact ⟨reached.isOpen, reached.inUse, reached.fits, reached.draws, unhindered⟩

theorem Alike.keptScale {d : Coordinator α} (h : Alike c d) : c.keptScale? = d.keptScale? := by
  unfold keptScale?
  rw [h.scaled, h.system, h.size, h.resizes]

theorem withBox_keptBox {box : Box α} (inUse : c.boxInUse = .ok box) :
    (c.withBox box).keptBox? = some box := by
  unfold boxInUse at inUse
  unfold withBox
  cases found : c.keptBox? with
  | some kept =>
    rw [found] at inUse
    cases inUse
    exact found
  | none => exact keptBox_of_measured rfl

theorem withScale_keptBox (scale : Scale α) : (c.withScale scale).keptBox? = c.keptBox? := by
  unfold withScale
  split <;> rfl

theorem withBox_keptScale (box : Box α) : (c.withBox box).keptScale? = c.keptScale? := by
  unfold withBox
  split <;> rfl

theorem scaled_of_keptScale {scale : Scale α} (h : c.keptScale? = some scale) :
    ∃ kept, c.scaled = some kept ∧ kept.scale = scale ∧ kept.generation = c.system.generation ∧
      (kept.resizes = c.surface.resizes ∨ kept.size.sameValue c.surface.size) := by
  unfold keptScale? at h
  split at h
  next kept eq =>
    split_ifs at h with fresh
    cases h
    exact ⟨kept, eq, rfl, fresh⟩
  next => cases h

theorem lastScale_of_keptScale {scale : Scale α} (h : c.keptScale? = some scale) :
    c.lastScale = some scale := by
  obtain ⟨kept, scaled, rfl, -, -⟩ := scaled_of_keptScale h
  unfold lastScale
  rw [scaled]
  rfl

theorem withScale_keptScale {box : Box α} {scale : Scale α} (fits : c.scaleInUse box = .ok scale) :
    (c.withScale scale).keptScale? = some scale := by
  unfold scaleInUse at fits
  unfold withScale
  cases found : c.keptScale? with
  | some kept =>
    rw [found] at fits
    cases fits
    exact found
  | none => exact if_pos ⟨rfl, .inl rfl⟩

namespace Draws

variable {box : Box α} {scale : Scale α} {strokes : List (Segment α)}

theorem reaches (h : c.Draws box scale strokes) : c.Reaches box scale strokes :=
  (draws_iff_reaches.mp h).1

theorem drawn (h : c.Draws box scale strokes) : c.surface.draw strokes
    = (.ok (), { c.surface with strokes := strokes, draws := c.surface.draws + 1 }) := by
  unfold Surface.draw
  simp only [h.unhindered]

theorem render_strokes (h : c.Draws box scale strokes) :
    c.render.coordinator.surface.strokes = strokes := by
  obtain ⟨jobs, -, left⟩ := h.reaches.render
  rw [left, h.drawn]
  rfl

theorem alike (h : c.Draws box scale strokes) :
    Alike c.render.coordinator ((c.withBox box).withScale scale) := by
  obtain ⟨jobs, -, left⟩ := h.reaches.render
  rw [left]
  exact alike_drawn _ jobs (c.withBox_withScale_surface box scale)

theorem render_keptScale (h : c.Draws box scale strokes) :
    c.render.coordinator.keptScale? = some scale := by
  rw [h.alike.keptScale]
  exact withScale_keptScale ((c.withBox_scaleInUse box box).trans h.fits)

theorem render_lastScale (h : c.Draws box scale strokes) :
    c.render.coordinator.lastScale = some scale :=
  lastScale_of_keptScale h.render_keptScale

theorem render_system (h : c.Draws box scale strokes) : c.render.coordinator.system = c.system := by
  rw [h.alike.system, withScale_system, withBox_system]

theorem render_size (h : c.Draws box scale strokes) :
    c.render.coordinator.surface.size = c.surface.size := by
  rw [h.alike.size, withBox_withScale_surface]

end Draws

/-- A render tells of its success when nothing stops it. -/
theorem rendered_iff :
    Event.rendered ∈ c.render.events ↔ ∃ box scale strokes, c.Draws box scale strokes := by
  constructor
  · intro told
    have isOpen : c.isOpen = true := by
      cases closed : c.isOpen with
      | true => rfl
      | false =>
        unfold render at told
        rw [closed] at told
        exact (List.not_mem_nil told).elim
    obtain ⟨jobs, ⟨e, -, silent, -⟩ | ⟨box, e, -, -, silent, -⟩ |
      ⟨box, scale, e, -, -, -, silent, -⟩ |
      ⟨box, scale, strokes, inUse, fits, draws, success, -⟩⟩ := render_cases isOpen
    · exact (silent told).elim
    · exact (silent told).elim
    · exact (silent told).elim
    · obtain ⟨unhindered, -⟩ | ⟨fault, rest, -, drawn⟩ := c.surface.draw_cases strokes
      · exact ⟨box, scale, strokes, isOpen, inUse, fits, draws, unhindered⟩
      · have ends := success.mp told
        rw [drawn] at ends
        cases ends
  · rintro ⟨box, scale, strokes, h⟩
    obtain ⟨jobs, success, -⟩ := h.reaches.render
    rw [success, h.drawn]

end Coordinator

end LSystems
