import LSystems.Word

namespace LSystems

/-- The blank characters of Unicode. -/
def isBlank (c : Char) : Bool :=
  let n := c.toNat
  (0x09 ≤ n && n ≤ 0x0D) || (0x1C ≤ n && n ≤ 0x20) || n == 0x85 || n == 0xA0 || n == 0x1680
    || (0x2000 ≤ n && n ≤ 0x200A) || n == 0x2028 || n == 0x2029 || n == 0x202F || n == 0x205F
    || n == 0x3000

/-- The blank characters that may stand around a numeral; the four information
separators are not among them. -/
def isNumeralBlank (c : Char) : Bool :=
  isBlank c && !(0x1C ≤ c.toNat && c.toNat ≤ 0x1F)

/-- A text without what is in a class at its two ends. -/
def stripWhere {σ : Type} (p : σ → Bool) (text : List σ) : List σ :=
  ((text.dropWhile p).reverse.dropWhile p).reverse

/-- Characters without the blanks at their two ends. -/
def strip (text : List Char) : List Char :=
  stripWhere isBlank text

/-- The blank code points, none of which is a surrogate. -/
def Symbol.isBlank : Symbol → Bool
  | char c => LSystems.isBlank c
  | surrogate _ => false

/-- A text without the blanks at its two ends. -/
def Text.strip (t : Text) : Text :=
  stripWhere Symbol.isBlank t

end LSystems
