namespace LSystems

/-- Two to a power. -/
def twoTo (k : Nat) : Nat := Nat.pow 2 k

theorem twoTo_pos (k : Nat) : 0 < twoTo k := Nat.two_pow_pos k

theorem twoTo_add (m n : Nat) : twoTo (m + n) = twoTo m * twoTo n := Nat.pow_add 2 m n

theorem twoTo_le_twoTo {m n : Nat} (h : m ≤ n) : twoTo m ≤ twoTo n :=
  Nat.pow_le_pow_right Nat.two_pos h

/-- Ten to a power. -/
def tenTo (k : Nat) : Nat := Nat.pow 10 k

/-- The integer nearest to `num / den`; a half goes to the even neighbour. -/
def roundHalfEven (num den : Nat) : Nat :=
  let quotient := num / den
  let twice := 2 * (num % den)
  if den < twice ∨ (twice = den ∧ quotient % 2 = 1) then quotient + 1 else quotient

/-- The ratio `num / den` divided by `2 ^ exponent`, again as a ratio. -/
def descale (num den : Nat) (exponent : Int) : Nat × Nat :=
  if 0 ≤ exponent then (num, den * twoTo exponent.toNat) else (num * twoTo (-exponent).toNat, den)

/-- The size `mantissa * 2 ^ exponent` of a finite binary64 number. -/
structure Magnitude where
  mantissa : Nat
  exponent : Int
deriving DecidableEq

namespace Magnitude

/-- The smallest exponent of a binary64 number. -/
def leastExponent : Int := -1074

/-- The exponent of the last bit kept when `num / den` is cut to 53 significant bits;
zero has the smallest exponent. -/
def lastBit (num den : Nat) : Int :=
  if num = 0 then leastExponent else
  let estimate := max leastExponent ((num.log2 : Int) - den.log2 - 53)
  let (n, d) := descale num den estimate
  if n / d < twoTo 53 then estimate else estimate + 1

/-- The binary64 magnitude nearest to `num / den`, ties to even; none when that
is beyond the largest finite one. -/
def nearest? (num den : Nat) : Option Magnitude :=
  let exponent := lastBit num den
  let (n, d) := descale num den exponent
  let mantissa := roundHalfEven n d
  let (mantissa, exponent) :=
    if mantissa = twoTo 53 then (twoTo 52, exponent + 1) else (mantissa, exponent)
  if exponent ≤ 971 then some ⟨mantissa, exponent⟩ else none

/-- The least integer that is not below the magnitude. -/
def ceil (m : Magnitude) : Nat :=
  if 0 ≤ m.exponent then m.mantissa * twoTo m.exponent.toNat
  else (m.mantissa + (twoTo (-m.exponent).toNat - 1)) / twoTo (-m.exponent).toNat

/-- The bits of the nonnegative binary64 number of this size. -/
def toBits (m : Magnitude) : Nat :=
  (m.exponent - leastExponent).toNat * twoTo 52 + m.mantissa

/-- The size of the finite binary64 number with these bits, its sign left out. -/
def ofBits (bits : Nat) : Magnitude :=
  let field : Nat := bits / twoTo 52 % twoTo 11
  let fraction : Nat := bits % twoTo 52
  if field = 0 then ⟨fraction, leastExponent⟩
  else ⟨twoTo 52 + fraction, (field : Int) - 1 + leastExponent⟩

/-- The magnitude as a ratio of natural numbers. -/
def toRatio (m : Magnitude) : Nat × Nat :=
  if 0 ≤ m.exponent then (m.mantissa * twoTo m.exponent.toNat, 1)
  else (m.mantissa, twoTo (-m.exponent).toNat)

/-- The binary64 number with this sign and size. -/
def toFloat (m : Magnitude) (negative : Bool) : Float :=
  Float.ofBits (UInt64.ofNat (m.toBits + if negative then twoTo 63 else 0))

end Magnitude

/-- The binary64 number nearest to an integer; none beyond the largest finite one. -/
def floatOfInt? (n : Int) : Option Float :=
  (Magnitude.nearest? n.natAbs 1).map fun m => m.toFloat (decide (n < 0))

/-- The sign of a finite binary64 number, true for minus, and its size; the
infinities and the not-a-number have none. -/
def finiteParts? (x : Float) : Option (Bool × Magnitude) :=
  let bits := x.toBits.toNat
  if bits / twoTo 52 % twoTo 11 = twoTo 11 - 1 then none
  else some (decide (twoTo 63 ≤ bits), .ofBits bits)

/-- The integer that is left of a finite binary64 number without its fraction. -/
def truncated? (x : Float) : Option Int :=
  (finiteParts? x).map fun (negative, m) =>
    let n : Int := m.toRatio.1 / m.toRatio.2
    if negative then -n else n

/-- The integer that a binary64 number equals exactly. -/
def integerOfFloat? (x : Float) : Option Int :=
  match finiteParts? x with
  | some (_, m) => if m.toRatio.1 % m.toRatio.2 = 0 then truncated? x else none
  | none => none

/-- Positive or negative infinity. -/
def infinite (negative : Bool) : Float :=
  Float.ofBits (UInt64.ofNat ((twoTo 11 - 1) * twoTo 52 + if negative then twoTo 63 else 0))

/-- The binary64 number nearest to the decimal `digits * 10 ^ exponent`; an
exponent far outside the range of the format is cut short. -/
def floatOfDecimal (negative : Bool) (digits : Nat) (exponent : Int) : Float :=
  let span := exponent + (digits.log2 : Int) / 4
  if digits = 0 ∨ exponent + (digits.log2 : Int) < -400 then
    (Magnitude.mk 0 Magnitude.leastExponent).toFloat negative
  else if 400 < span then infinite negative
  else
    let ratio := if 0 ≤ exponent then (digits * tenTo exponent.toNat, 1)
      else (digits, tenTo (-exponent).toNat)
    match Magnitude.nearest? ratio.1 ratio.2 with
    | some m => m.toFloat negative
    | none => infinite negative

end LSystems
