import LSystems.Coordinator

namespace LSystems

/-- What a viewer can be told to do. -/
inductive ViewerCommand
  | nextGeneration
  | render
  | quit
deriving DecidableEq

/-- The name of a command. -/
def ViewerCommand.name : ViewerCommand → String
  | nextGeneration => "next_generation"
  | render => "render"
  | quit => "quit"

/-- The commands by name. -/
def ViewerCommand.ofName? (name : String) : Option ViewerCommand :=
  [nextGeneration, render, quit].find? (·.name == name)

/-- What a window reports; keys are told by their codes. -/
inductive WindowEvent
  | quit
  | keyDown (code : Int)
  | keyUp (code : Int)
  | other

/-- The keys that stand for commands: N and the space bar, R, Q and escape. -/
def keyCommands : List (Int × ViewerCommand) :=
  [(110, .nextGeneration), (32, .nextGeneration), (114, .render), (113, .quit), (27, .quit)]

/-- The command of a window event, if it has one. -/
def WindowEvent.command? : WindowEvent → Option ViewerCommand
  | quit => some .quit
  | keyDown code => keyCommands.lookup code
  | keyUp _ => none
  | other => none

/-- What a viewer shows: a message, a percentage, whether a generation is being
grown, and whether a picture is there. -/
structure ViewerStatus where
  message : String
  progress : Int
  busy : Bool
  frameReady : Bool
deriving DecidableEq

namespace ViewerStatus

/-- The status of a viewer that has just been opened. -/
def initial : ViewerStatus :=
  ⟨"Press N to iterate, R to render", 0, false, false⟩

/-- A status with the given fields replaced. -/
def update (s : ViewerStatus) (message : Option String) (progress : Option Int)
    (busy frameReady : Option Bool) : ViewerStatus :=
  ⟨message.getD s.message, progress.getD s.progress, busy.getD s.busy,
    frameReady.getD s.frameReady⟩

/-- Marks a generation as being grown, unless one already is. -/
def beginGrowth (s : ViewerStatus) : Bool × ViewerStatus :=
  if s.busy then (false, s) else (true, { s with busy := true, message := "Iterating..." })

/-- The caption of the window. -/
def caption (s : ViewerStatus) (title : Text) (generation : Int) : Text :=
  title ++ Text.ofString (" - generation " ++ toString generation ++ " - " ++ toString s.progress
    ++ "% - " ++ s.message)

/-- The status after an event of the coordinator. -/
def notice (s : ViewerStatus) : Event → ViewerStatus
  | .status status => { s with message := status.text }
  | .progress p => { s with progress := p }
  | .growing p => { s with progress := p }
  | .grown generation =>
    { s with message := "Iterated to generation " ++ toString generation, busy := false }
  | .rendered => { s with frameReady := true }
  | .stage _ => s
  | .error _ => s

end ViewerStatus

/-- A window on a coordinator. -/
structure Viewer (α : Type) where
  coordinator : Coordinator α
  title : Text
  status : ViewerStatus

namespace Viewer

variable {α : Type} [Scalar α]

/-- A viewer that has just been opened. -/
def start (coordinator : Coordinator α) (title : Text) : Viewer α :=
  ⟨coordinator, title, .initial⟩

/-- Takes up the events and the coordinator of a reply. -/
def absorb (v : Viewer α) (reply : Reply α) : Viewer α :=
  { v with coordinator := reply.coordinator, status := reply.events.foldl .notice v.status }

/-- Renders the current generation. -/
def render (v : Viewer α) : Viewer α :=
  v.absorb v.coordinator.render

/-- Lets the system grow by one generation and renders that, if it has grown. -/
def grow (v : Viewer α) : Viewer α :=
  let reply := v.coordinator.growTimes 1
  let v := v.absorb reply
  if reply.events.any fun | .grown _ => true | _ => false then v.render else v

/-- Carries out a command, all jobs to their end; false for the command to quit. -/
def handle (v : Viewer α) : ViewerCommand → Bool × Viewer α
  | .quit => (false, v)
  | .nextGeneration =>
    match v.status.beginGrowth with
    | (true, status) => (true, { v with status := status }.grow)
    | (false, _) => (true, v)
  | .render => (true, v.render)

/-- Handles all events of a turn, also those after one to quit; false when there
was one to quit. -/
def turn (v : Viewer α) (events : List WindowEvent) : Bool × Viewer α :=
  events.foldl
    (fun (running, v) event =>
      match event.command? with
      | some command =>
        let (goesOn, v) := v.handle command
        (goesOn && running, v)
      | none => (running, v))
    (true, v)

/-- Waits for all jobs; their faults in order. -/
def drain (v : Viewer α) : List Fault × Viewer α :=
  let (faults, coordinator) := v.coordinator.drain
  (faults, { v with coordinator := coordinator })

/-- The caption of the viewer's window. -/
def caption (v : Viewer α) : Text :=
  v.status.caption v.title v.coordinator.system.generation

/-- The turns of a session: each waits for all jobs, shows the viewer with the
faults met, and handles the events; the session ends after a turn with one to quit. -/
def turns (v : Viewer α) : List (List WindowEvent) → List (List Fault × Viewer α) × Viewer α
  | [] => ([], v)
  | events :: rest =>
    let (faults, v) := v.drain
    match v.turn events with
    | (true, after) =>
      let (shown, last) := after.turns rest
      ((faults, v) :: shown, last)
    | (false, after) => ([(faults, v)], after)

/-- A whole session: a first render, then its turns, then the end of all jobs. -/
def session (v : Viewer α) (script : List (List WindowEvent)) :
    List (List Fault × Viewer α) × Viewer α :=
  let (shown, last) := v.render.turns script
  let reply := last.coordinator.perform .shutdown
  (shown, { last with coordinator := reply.coordinator })

end Viewer

end LSystems
