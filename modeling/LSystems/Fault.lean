namespace LSystems

/-- A failure that a drawing surface reports. An expected one is a failure of the
drawing itself and not of its surroundings. -/
structure SurfaceFault where
  kind : String
  text : String
  expected : Bool
deriving DecidableEq

/-- A failure of something outside: its kind and what it says. -/
structure HostFault where
  kind : String
  text : String
deriving DecidableEq

/-- Why a word cannot be rewritten, walked over or drawn. -/
inductive Fault
  | stackUnderflow (index : Nat)
  | progressStep
  | negativeGenerations
  | quotientTooLarge
  | integerTooLarge
  | noDirection
  | divisionByZero
  | canvasSize (width height : String)
  | baseDistance (distance : String)
  | surface (fault : SurfaceFault)
deriving DecidableEq

namespace Fault

/-- The text of a fault. -/
def message : Fault → String
  | stackUnderflow index =>
    "cannot pop empty turtle stack (']' at symbol " ++ toString index ++ ")"
  | progressStep => "progress step must be at least 1"
  | negativeGenerations => "generations must be non-negative"
  | quotientTooLarge => "integer division result too large for a float"
  | integerTooLarge => "int too large to convert to float"
  | noDirection => "math domain error"
  | divisionByZero => "float division by zero"
  | canvasSize width height => "canvas size must be positive, got " ++ width ++ "x" ++ height
  | baseDistance distance => "base distance must be positive, got " ++ distance
  | surface fault => fault.text

/-- Whether a fault lies in the drawing itself, so that a render reports it and
does not pass it on. -/
def isExpected : Fault → Bool
  | stackUnderflow _ => true
  | surface fault => fault.expected
  | _ => false

/-- What a render reports of a fault: its text, or its kind when an unexpected
fault has none. -/
def report : Fault → String
  | surface fault => if fault.text = "" ∧ !fault.expected then fault.kind else fault.text
  | fault => fault.message

end Fault

/-- A result together with the percentages reported on the way to it. -/
structure Tracked (β : Type) where
  progress : List Int
  outcome : Except Fault β

end LSystems
