import LSystems.Box
import LSystems.Progress
import LSystems.Word

namespace LSystems

/-- How a word is walked over: the compass, the angle of a turn, and the
percentage points between two reports. -/
structure Interpreter (α : Type) where
  compass : Compass α
  turnAngle : α
  step : Int

/-- The turtle on its way, the turtles saved at open brackets, the last one first,
and what has been recorded of the strokes. -/
structure Walker (α σ : Type) where
  turtle : Turtle α
  saved : List (Turtle α)
  record : σ

namespace Interpreter

variable {α σ : Type} [Scalar α]

/-- Carries out the symbol at an index: `F` makes a stroke, `+` and `-` turn left
and right, `[` saves the turtle and `]` goes back to the one saved last; any other
symbol does nothing. -/
def obey (i : Interpreter α) (note : σ → Segment α → σ) (distance : α) (index : Nat)
    (w : Walker α σ) (c : Symbol) : Except Fault (Walker α σ) :=
  if c = 'F' then
    match w.turtle.forward i.compass distance with
    | .ok t => .ok { w with turtle := t, record := note w.record ⟨w.turtle.position, t.position⟩ }
    | .error e => .error e
  else if c = '+' then .ok { w with turtle := w.turtle.left i.turnAngle }
  else if c = '-' then .ok { w with turtle := w.turtle.right i.turnAngle }
  else if c = '[' then .ok { w with saved := w.turtle :: w.saved }
  else if c = ']' then
    match w.saved with
    | t :: saved => .ok { w with turtle := t, saved := saved }
    | [] => .error (.stackUnderflow index)
  else .ok w

/-- Walks over a word whose first symbol has the given index; a failure tells how
many symbols had been carried out. -/
def walk (i : Interpreter α) (note : σ → Segment α → σ) (distance : α) :
    Nat → Walker α σ → Word → Except (Nat × Fault) (Walker α σ)
  | _, w, [] => .ok w
  | index, w, c :: rest =>
    match i.obey note distance index w c with
    | .ok w => i.walk note distance (index + 1) w rest
    | .error e => .error (index, e)

/-- Walks over a whole word from a fresh turtle and keeps the record; the
percentages tell how much of the word has been carried out. -/
def trace (i : Interpreter α) (note : σ → Segment α → σ) (record : σ) (distance : α)
    (origin : Point α) (w : Word) : Tracked σ :=
  match Throttle.start w.length i.step with
  | .error e => ⟨[], .error e⟩
  | .ok throttle =>
    match i.walk note distance 0 ⟨.facingNorth i.compass origin, [], record⟩ w with
    | .ok walker => ⟨throttle.sentInAll w.length, .ok walker.record⟩
    | .error (count, e) => ⟨(throttle.sentUpTo count).1, .error e⟩

/-- The box of the figure that a word makes, the strokes not kept. -/
def measure (i : Interpreter α) (distance : α) (origin : Point α) (w : Word) : Tracked (Box α) :=
  i.trace (fun box stroke => box.insert stroke.finish) (.ofPoint origin) distance origin w

/-- The strokes that a word makes, in order. -/
def draw (i : Interpreter α) (distance : α) (origin : Point α) (w : Word) :
    Tracked (List (Segment α)) :=
  let drawn := i.trace (fun strokes stroke => stroke :: strokes) [] distance origin w
  ⟨drawn.progress, drawn.outcome.map List.reverse⟩

end Interpreter

/-- What a pass over a word is made for. -/
inductive Mode
  | bounds
  | draw
deriving DecidableEq

/-- The name of a mode as it is published. -/
def Mode.name : Mode → String
  | bounds => "bounds"
  | draw => "draw"

/-- What a pass over a word has found: the number of its symbols, the box of the figure if
it was measured, and the strokes if it was drawn. -/
structure Finding (α : Type) where
  mode : Mode
  symbols : Nat
  bounds : Option (Box α)
  strokes : List (Segment α)
deriving DecidableEq

/-- A whole pass over a word in a mode. -/
def Interpreter.run {α : Type} [Scalar α] (i : Interpreter α) (mode : Mode) (distance : α)
    (origin : Point α) (w : Word) : Tracked (Finding α) :=
  match mode with
  | .bounds =>
    let measured := i.measure distance origin w
    ⟨measured.progress, measured.outcome.map fun box => ⟨.bounds, w.length, some box, []⟩⟩
  | .draw =>
    let drawn := i.draw distance origin w
    ⟨drawn.progress, drawn.outcome.map fun strokes => ⟨.draw, w.length, none, strokes⟩⟩

end LSystems
