import LSystems.Blank
import LSystems.DecimalDigit
import LSystems.Rounding

namespace LSystems

/-- The most digits an integer numeral may have. -/
def maxIntegerDigits : Nat := 4300

/-- The number with these decimal digits, the first the most significant. -/
def ofDigits (digits : List Nat) : Nat :=
  digits.foldl (fun n d => 10 * n + d) 0

/-- The values of one or more digits, any two neighbours of which may have one
underscore between them. -/
def digitGroup? : List Char → Option (List Nat)
  | [] => none
  | [c] => (digitValue? c).map ([·])
  | c :: '_' :: rest => do
    let d ← digitValue? c
    let ds ← digitGroup? rest
    return d :: ds
  | c :: rest => do
    let d ← digitValue? c
    let ds ← digitGroup? rest
    return d :: ds

/-- The sign of a numeral, true for minus, and what follows it. -/
def splitSign : List Char → Bool × List Char
  | '-' :: rest => (true, rest)
  | '+' :: rest => (false, rest)
  | rest => (false, rest)

/-- The integer written by a numeral with an optional sign and blanks around it. -/
def readInteger? (text : String) : Option Int :=
  let (negative, body) := splitSign (stripWhere isNumeralBlank text.toList)
  match digitGroup? body with
  | none => none
  | some digits =>
    if maxIntegerDigits < digits.length then none
    else some (if negative then -(ofDigits digits : Int) else ofDigits digits)

/-- An unsigned decimal numeral, for a way to read a group of digits: its digits
without the point, and its exponent. -/
def readUnsigned? (group : List Char → Option (List Nat)) (body : List Char) :
    Option (List Nat × Int) :=
  let isMark (c : Char) : Bool := c == 'e' || c == 'E'
  let mantissa := body.takeWhile (!isMark ·)
  let whole := mantissa.takeWhile (· != '.')
  let fraction := (mantissa.dropWhile (· != '.')).drop 1
  let part (digits : List Char) : Option (List Nat) := if digits = [] then some [] else group digits
  let exponent : Option Int :=
    match body.dropWhile (!isMark ·) with
    | [] => some 0
    | _ :: tail =>
      let (negative, digits) := splitSign tail
      (group digits).map fun ds => if negative then -(ofDigits ds : Int) else ofDigits ds
  match part whole, part fraction, exponent with
  | some ws, some fs, some e => if ws ++ fs = [] then none else some (ws ++ fs, e - fs.length)
  | _, _, _ => none

/-- The binary64 number nearest to a decimal numeral with an optional sign, or the
infinity or the not-a-number that a word names. -/
def readSignedFloat? (group : List Char → Option (List Nat)) (text : List Char) : Option Float :=
  let (negative, body) := splitSign text
  let word := String.ofList (body.map Char.toLower)
  if word = "inf" ∨ word = "infinity" then some (infinite negative)
  else if word = "nan" then some (0.0 / 0.0)
  else (readUnsigned? group body).map fun (digits, exponent) =>
    floatOfDecimal negative (ofDigits digits) exponent

/-- The binary64 number written by a numeral or a word with blanks around it. -/
def readFloat? (text : String) : Option Float :=
  readSignedFloat? digitGroup? (stripWhere isNumeralBlank text.toList)

end LSystems
