import LSystems.Fault
import LSystems.Numeral
import LSystems.ShortestDecimal

namespace LSystems

/-- The values of the environment variables that are set. -/
abbrev Environment := String → Option String

/-- Why the value of a variable is no setting. -/
inductive SettingFault
  | notInteger (name : String)
  | notFloat (name : String)
  | below (name bound : String)
  | notAbove (name bound : String)
  | above (name bound : String)
deriving DecidableEq

/-- The text of a setting fault. -/
def SettingFault.message : SettingFault → String
  | notInteger name => name ++ " must be an integer"
  | notFloat name => name ++ " must be a float"
  | below name bound => name ++ " must be at least " ++ bound
  | notAbove name bound => name ++ " must be greater than " ++ bound
  | above name bound => name ++ " must be at most " ++ bound

namespace Environment

/-- The words that switch a flag on. -/
def trueWords : List String := ["true", "1", "yes", "on"]

/-- Whether a flag is on; any other word than those for true switches it off. -/
def flag (env : Environment) (name : String) (default : Bool) : Bool :=
  match env name with
  | none => default
  | some value => decide (String.ofList ((strip value.toList).map Char.toLower) ∈ trueWords)

/-- A whole number between bounds, each of which may be missing. -/
def integer (env : Environment) (name : String) (default : Int) (minimum maximum : Option Int) :
    Except SettingFault Int :=
  match env name with
  | none => .ok default
  | some value =>
    match readInteger? value with
    | none => .error (.notInteger name)
    | some n =>
      match minimum.filter (n < ·), maximum.filter (· < n) with
      | some bound, _ => .error (.below name (toString bound))
      | none, some bound => .error (.above name (toString bound))
      | none, none => .ok n

/-- A binary64 number that no bound rules out; an exclusive minimum rules itself out. -/
def float (env : Environment) (name : String) (default : Float) (minimum maximum : Option Float)
    (exclusive : Bool) : Except SettingFault Float :=
  match env name with
  | none => .ok default
  | some value =>
    match readFloat? value with
    | none => .error (.notFloat name)
    | some x =>
      match minimum.filter fun bound => if exclusive then x ≤ bound else x < bound,
        maximum.filter (· < x) with
      | some bound, _ =>
        .error (if exclusive then .notAbove name (floatText bound) else .below name (floatText bound))
      | none, some bound => .error (.above name (floatText bound))
      | none, none => .ok x

/-- The angle of a turn when nothing else gives one. -/
def defaultAngle : Float := 20.0

/-- The angle of a turn. -/
def turnAngle (env : Environment) : Except SettingFault Float :=
  env.float "LINDENMAYER_TURN_ANGLE" defaultAngle none none false

/-- The stroke length of the measuring pass. -/
def baseDistance (env : Environment) : Except SettingFault Float :=
  env.float "LINDENMAYER_BASE_DISTANCE" 10.0 (some 0.0) none true

/-- The percentage points between two reports. -/
def progressStep (env : Environment) : Except SettingFault Int :=
  env.integer "LINDENMAYER_PROGRESS_STEP" 5 (some 1) (some 100)

/-- The width and height of the canvas. -/
def canvasSize (env : Environment) : Except SettingFault (Int × Int) := do
  let width ← env.integer "LINDENMAYER_CANVAS_WIDTH" 800 (some 1) none
  let height ← env.integer "LINDENMAYER_CANVAS_HEIGHT" 600 (some 1) none
  return (width, height)

/-- Whether the axes are painted. -/
def debugAxes (env : Environment) : Bool :=
  env.flag "LINDENMAYER_DEBUG_AXES" false

end Environment

end LSystems
