import LSystems.Numeral

namespace LSystems

/-- The values of one or more ASCII digits. -/
def asciiDigitGroup? (text : List Char) : Option (List Nat) :=
  if text = [] then none else text.mapM asciiDigitValue?

/-- A text with underscores but without them; none when there is none, when one
stands at an end, or when two stand side by side. -/
def withoutUnderscores? (text : List Char) : Option (List Char) :=
  let beside := (text.zip text.tail).any fun (a, b) => a == '_' && b == '_'
  if '_' ∈ text ∧ text.head? ≠ some '_' ∧ text.getLast? ≠ some '_' ∧ !beside then
    some (text.filter (· != '_'))
  else none

/-- A digit other than zero, or a minus sign: what ends a run of leading zeros. -/
def endsZeros (c : Char) : Bool :=
  ('1' ≤ c && c ≤ '9') || c == '-'

/-- What is left of a numeral once its leading zeros and the underscores among them
are dropped, given the last one so far; it stays before a point and at the end. -/
def dropZerosAfter? (last : Char) : List Char → Option (List Char)
  | [] => some [last]
  | c :: rest =>
    if c = '0' ∨ c = '_' then dropZerosAfter? c rest
    else if endsZeros c then some (c :: rest)
    else if c = '.' then some (last :: c :: rest)
    else none

/-- A numeral without its leading zeros; none when it starts with no digit. -/
def dropZeros? : List Char → Option (List Char)
  | [] => none
  | c :: rest =>
    if c = '0' then dropZerosAfter? c rest
    else if isAsciiDigit c then some (c :: rest)
    else none

/-- A numeral without its point when one or more zeros and nothing else follow that. -/
def dropZeroFraction (text : List Char) : List Char :=
  let fraction := (text.dropWhile (· != '.')).drop 1
  if fraction ≠ [] ∧ fraction.all (· == '0') then text.takeWhile (· != '.') else text

/-- The integer of an optional minus sign and ASCII digits, the first of which is
zero only when it is the only one. -/
def plainInteger? (text : List Char) : Option Int :=
  let (negative, digits) :=
    match text with
    | '-' :: rest => (true, rest)
    | _ => (false, text)
  if digits = [] ∨ !digits.all isAsciiDigit ∨ (digits.head? = some '0' ∧ digits ≠ ['0'])
      ∨ maxIntegerDigits < digits.length then none
  else
    let n : Int := ofAsciiDigits digits
    some (if negative then -n else n)

/-- The integer given for an option: leading zeros, single underscores between
digits and a fraction of zeros are left out of account, and a minus sign may stand
before the leading zeros or behind them, but not at both places. -/
def readOptionInteger? (text : String) : Option Int := do
  let (negative, body) := splitSign (stripWhere isNumeralBlank text.toList)
  let digits ← dropZeros? body
  let digits := dropZeroFraction digits
  let digits := (withoutUnderscores? digits).getD digits
  if negative ∧ digits.head? = some '-' then none
  let n ← plainInteger? digits
  return if negative then -n else n

/-- The binary64 number given for an option: a numeral or a word with blanks around
it, or one without blanks whose single underscores are left out of account. -/
def readOptionFloat? (text : String) : Option Float :=
  match readSignedFloat? asciiDigitGroup? (stripWhere isNumeralBlank text.toList) with
  | some x => some x
  | none => (withoutUnderscores? text.toList).bind (readSignedFloat? asciiDigitGroup?)

end LSystems
