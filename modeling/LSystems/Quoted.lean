import LSystems.Printable
import LSystems.Word

namespace LSystems

/-- The last `count` hexadecimal digits of a number, in lower case. -/
def hexDigits : Nat → Nat → List Char
  | 0, _ => []
  | count + 1, n => hexDigits count (n / 16) ++ [Nat.digitChar (n % 16)]

/-- A character inside quotes: the quote, the backslash and line breaks are
escaped, and an unprintable character is written by its code point. -/
def escapeChar (quote c : Char) : List Char :=
  if c = quote ∨ c = '\x5c' then ['\x5c', c]
  else if c = '\n' then ['\x5c', 'n']
  else if c = '\r' then ['\x5c', 'r']
  else if c = '\t' then ['\x5c', 't']
  else if isPrintable c then [c]
  else if c.toNat < 0x100 then '\x5c' :: 'x' :: hexDigits 2 c.toNat
  else if c.toNat < 0x10000 then '\x5c' :: 'u' :: hexDigits 4 c.toNat
  else '\x5c' :: 'U' :: hexDigits 8 c.toNat

/-- A code point inside quotes; a surrogate is written by its number. -/
def escapeSymbol (quote : Char) : Symbol → List Char
  | .char c => escapeChar quote c
  | .surrogate place => '\x5c' :: 'u' :: hexDigits 4 (Symbol.surrogate place).code

/-- The quote of a text: the single one, unless the text holds it and no double one. -/
def quoteOf (text : Text) : Char :=
  if .char '\x27' ∈ text ∧ .char '\x22' ∉ text then '\x22' else '\x27'

/-- A text between quotes, with what could not be read otherwise escaped. -/
def quoted (text : Text) : String :=
  let quote := quoteOf text
  String.ofList (quote :: (text.flatMap (escapeSymbol quote) ++ [quote]))

/-- Why a text has no bytes: surrogates stand in it from one place to another. -/
structure EncodingFault where
  first : Nat
  last : Nat
  symbol : Symbol
deriving DecidableEq

/-- The text of an encoding fault. -/
def EncodingFault.message (fault : EncodingFault) : String :=
  let found :=
    if fault.first = fault.last then
      "character '" ++ String.ofList (escapeSymbol '\x27' fault.symbol) ++ "' in position "
        ++ toString fault.first
    else "characters in position " ++ toString fault.first ++ "-" ++ toString fault.last
  "'utf-8' codec can't encode " ++ found ++ ": surrogates not allowed"

/-- The first surrogates in a text that stop its encoding, and those right behind them;
the ones that are written as bytes do not. -/
def Text.encodingFault? (t : Text) (isByte : Symbol → Bool) : Option EncodingFault :=
  let before := t.takeWhile fun s => s.char?.isSome || isByte s
  match t.drop before.length with
  | [] => none
  | s :: rest =>
    some ⟨before.length, before.length + (rest.takeWhile (·.char?.isNone)).length, s⟩

end LSystems
