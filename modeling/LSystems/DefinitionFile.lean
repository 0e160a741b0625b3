import LSystems.Definition
import LSystems.JsonReader
import LSystems.Path

namespace LSystems

/-- Why a definition cannot be taken from where it is looked for: it is malformed,
its angle, another whole number or its nesting is beyond what can be read, or the
file holds no text, has no possible name or is not there. -/
inductive SourceFault
  | definition (fault : DefinitionFault)
  | angleTooLarge
  | numberTooLong (digits : Nat)
  | tooDeep (container : String)
  | notUtf8
  | name (fault : NameFault)
  | file (path : Text) (fault : FileFault)
deriving DecidableEq

/-- The text of a source fault. -/
def SourceFault.message : SourceFault → Text
  | definition fault => fault.message
  | angleTooLarge => Fault.integerTooLarge.message
  | numberTooLong digits =>
    "Exceeds the limit (" ++ toString maxIntegerDigits
      ++ " digits) for integer string conversion: value has " ++ toString digits
      ++ " digits; use sys.set_int_max_str_digits() to increase the limit"
  | tooDeep container =>
    "maximum recursion depth exceeded while decoding a JSON " ++ container
      ++ " from a unicode string"
  | notUtf8 => "text is not UTF-8"
  | name fault => fault.message
  | file path fault => fault.message path

namespace Definition

/-- The seed that a value gives, which is a text and not empty. -/
def seedOf (data : Json) : Except DefinitionFault { w : Word // w ≠ [] } :=
  match data.get? "axiom" with
  | some (.text s) => if h : s ≠ [] then .ok ⟨s, h⟩ else .error .seed
  | _ => .error .seed

/-- The entries of the rules that a value gives, none when it has no rules. -/
def rulesOf (data : Json) : Except DefinitionFault (List (Text × Json)) :=
  match data.get? "rules" with
  | some (.object members) => .ok members
  | none => .ok []
  | some _ => .error .rules

/-- The angle that a value gives, still as it is written. -/
def angleOf (data : Json) : Except DefinitionFault (Int ⊕ Float) :=
  match data.get? "angle" with
  | some (.int n) => .ok (.inl n)
  | some (.float x) => .ok (.inr x)
  | none => .ok (.inr Environment.defaultAngle)
  | some _ => .error .angle

/-- The name that a value gives, or the default one. -/
def nameOf (data : Json) (default : Text) : Except DefinitionFault Text :=
  match data.get? "name" with
  | some (.text s) => .ok s
  | none => .ok default
  | some _ => .error .name

/-- An angle as a binary64 number. -/
def floatAngle : Int ⊕ Float → Except SourceFault Float
  | .inl n =>
    match floatOfInt? n with
    | some x => .ok x
    | none => .error .angleTooLarge
  | .inr x => .ok x

/-- The definition that a value gives. The parts are looked at one after another
and the rules last. -/
def ofJson (data : Json) (default : Text) : Except SourceFault Definition :=
  match data with
  | .object _ => do
    let seed ← (seedOf data).mapError .definition
    let rules ← (rulesOf data).mapError .definition
    let angle ← (angleOf data).mapError .definition
    let name ← (nameOf data default).mapError .definition
    let angle ← floatAngle angle
    let grammar ← (Grammar.ofValues (rules.map fun (symbol, replacement) =>
      (.text symbol, replacement))).mapError fun fault => .definition (.rule fault)
    return ⟨name, seed.val, grammar, angle⟩
  | _ => .error (.definition .notObject)

/-- The definition that the bytes of a file give, for a depth that can be read. -/
def ofBytes (depth : Nat) (path : Path) (bytes : ByteArray) : Except SourceFault Definition :=
  match String.fromUTF8? bytes with
  | none => .error .notUtf8
  | some text =>
    match readJson depth text with
    | .error .invalid => .error (.definition (.invalidJson path.text))
    | .error (.tooLong digits) => .error (.numberTooLong digits)
    | .error (.tooDeep container) => .error (.tooDeep container)
    | .ok data => ofJson data path.stem

/-- The definition in the file of a path, for a way to read files. -/
def load (depth : Nat) (read : Path → Except FileFault ByteArray) (path : Path) :
    Except SourceFault Definition :=
  match path.nameFault? with
  | some fault => .error (.name fault)
  | none =>
    match read path with
    | .error fault => .error (.file path.text fault)
    | .ok bytes => ofBytes depth path bytes

end Definition

end LSystems
