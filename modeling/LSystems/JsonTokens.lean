import LSystems.Json
import LSystems.Numeral

namespace LSystems

/-- The lexical parts of a JSON text. A whole number with too many digits is a
token of its own, and so is anything that starts no token. -/
inductive JsonToken
  | openArray
  | closeArray
  | openObject
  | closeObject
  | comma
  | colon
  | atom (value : Json)
  | text (value : Text)
  | tooLong (digits : Nat)
  | invalid

/-- The value of a hexadecimal digit. -/
def hexValue? (c : Char) : Option Nat :=
  if '0' ≤ c ∧ c ≤ '9' then some (c.toNat - '0'.toNat)
  else if 'a' ≤ c ∧ c ≤ 'f' then some (c.toNat - 'a'.toNat + 10)
  else if 'A' ≤ c ∧ c ≤ 'F' then some (c.toNat - 'A'.toNat + 10)
  else none

/-- The character that a one-letter escape stands for. -/
def simpleEscape? (c : Char) : Option Char :=
  match c with
  | '\x22' => some '\x22'
  | '\x5c' => some '\x5c'
  | '/' => some '/'
  | 'b' => some '\x08'
  | 'f' => some '\x0c'
  | 'n' => some '\n'
  | 'r' => some '\r'
  | 't' => some '\t'
  | _ => none

/-- Where a reader of a quoted text stands: between characters, after a
backslash, or inside the four digits of a code unit. -/
inductive QuotePlace
  | between
  | escape
  | unit (left value : Nat)

/-- The code units of a quoted text whose opening quote has been read, and what
follows the closing quote. -/
def scanQuoted : QuotePlace → List Nat → List Char → Option (List Nat × List Char)
  | _, _, [] => none
  | .between, done, c :: rest =>
    if c = '\x22' then some (done.reverse, rest)
    else if c = '\x5c' then scanQuoted .escape done rest
    else if c.toNat < 0x20 then none
    else scanQuoted .between (c.toNat :: done) rest
  | .escape, done, c :: rest =>
    if c = 'u' then scanQuoted (.unit 4 0) done rest
    else
      match simpleEscape? c with
      | some d => scanQuoted .between (d.toNat :: done) rest
      | none => none
  | .unit left value, done, c :: rest =>
    match hexValue? c with
    | none => none
    | some d =>
      if left ≤ 1 then scanQuoted .between ((16 * value + d) :: done) rest
      else scanQuoted (.unit (left - 1) (16 * value + d)) done rest

/-- The code points of a list of units: a high and a low surrogate next to each other are
one character, and any other surrogate stays alone. -/
def joinUnits : List Nat → Text
  | [] => []
  | [u] => [.ofUnit u]
  | u :: v :: rest =>
    if 0xD800 ≤ u ∧ u < 0xDC00 ∧ 0xDC00 ≤ v ∧ v < 0xE000 then
      .char (Char.ofNat (0x10000 + (u - 0xD800) * 0x400 + (v - 0xDC00))) :: joinUnits rest
    else .ofUnit u :: joinUnits (v :: rest)

/-- The fraction digits after a point, when at least one follows. -/
def scanFraction : List Char → Option (List Char × List Char)
  | '.' :: rest =>
    let digits := rest.takeWhile isAsciiDigit
    if digits = [] then none else some (digits, rest.dropWhile isAsciiDigit)
  | _ => none

/-- The exponent after its mark, when at least one digit follows. -/
def scanExponent : List Char → Option (Int × List Char)
  | [] => none
  | c :: rest =>
    if c = 'e' ∨ c = 'E' then
      let (negative, tail) := splitSign rest
      let digits := tail.takeWhile isAsciiDigit
      if digits = [] then none
      else
        let n : Int := ofAsciiDigits digits
        some (if negative then -n else n, tail.dropWhile isAsciiDigit)
    else none

/-- The token of a number whose sign has been read, and what follows it. A number
that starts with zero has no further digit before its point. -/
def scanNumber (negative : Bool) (text : List Char) : JsonToken × List Char :=
  let all := text.takeWhile isAsciiDigit
  let whole := if all.head? = some '0' then ['0'] else all
  let rest := text.drop whole.length
  let fraction := scanFraction rest
  let afterFraction := (fraction.map Prod.snd).getD rest
  let exponent := scanExponent afterFraction
  let afterExponent := (exponent.map Prod.snd).getD afterFraction
  if whole = [] then (.invalid, [])
  else if fraction.isNone && exponent.isNone then
    if maxIntegerDigits < whole.length then (.tooLong whole.length, rest)
    else
      let n : Int := ofAsciiDigits whole
      (.atom (.int (if negative then -n else n)), rest)
  else
    let digits := (fraction.map Prod.fst).getD []
    let value := floatOfDecimal negative (ofAsciiDigits (whole ++ digits))
      ((exponent.map Prod.fst).getD 0 - digits.length)
    (.atom (.float value), afterExponent)

/-- What follows a word, when the text starts with it. -/
def afterWord? (word : String) (text : List Char) : Option (List Char) :=
  if word.toList.isPrefixOf text then some (text.drop word.length) else none

/-- The constants and the words for numbers that digits cannot write. -/
def jsonWords : List (String × Json) :=
  [("null", .null), ("true", .bool true), ("false", .bool false), ("NaN", .float (0.0 / 0.0)),
   ("Infinity", .float (infinite false)), ("-Infinity", .float (infinite true))]

/-- The token at the start of a text that is not blank, and what follows it. -/
def nextToken (c : Char) (rest : List Char) : JsonToken × List Char :=
  match c with
  | '[' => (.openArray, rest)
  | ']' => (.closeArray, rest)
  | '\x7b' => (.openObject, rest)
  | '\x7d' => (.closeObject, rest)
  | ',' => (.comma, rest)
  | ':' => (.colon, rest)
  | '\x22' =>
    match scanQuoted .between [] rest with
    | some (units, rest) => (.text (joinUnits units), rest)
    | none => (.invalid, [])
  | _ =>
    match jsonWords.findSome? fun (word, value) =>
        (afterWord? word (c :: rest)).map fun tail => (JsonToken.atom value, tail) with
    | some found => found
    | none =>
      if c = '-' then scanNumber true rest
      else if isAsciiDigit c then scanNumber false (c :: rest)
      else (.invalid, [])

/-- The blanks between JSON tokens. -/
def isJsonBlank (c : Char) : Bool :=
  c == ' ' || c == '\t' || c == '\n' || c == '\r'

/-- The tokens of a text. Every token takes at least one character, so as many
rounds as the text has characters reach its end. -/
def jsonTokensWithin : Nat → List Char → List JsonToken
  | _, [] => []
  | 0, _ => [.invalid]
  | fuel + 1, c :: rest =>
    if isJsonBlank c then jsonTokensWithin fuel rest
    else
      let (token, tail) := nextToken c rest
      token :: jsonTokensWithin fuel tail

/-- The tokens of a text. -/
def jsonTokens (text : List Char) : List JsonToken :=
  jsonTokensWithin text.length text

end LSystems
