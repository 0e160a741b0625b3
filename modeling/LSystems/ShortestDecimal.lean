import LSystems.Rounding

namespace LSystems

/-- A decimal number `0.d₁d₂… * 10 ^ point` by its significant digits. -/
structure Decimal where
  digits : Nat
  point : Int

/-- Four times the value of a magnitude, and four times the ends of the reals
that round to it, over a common denominator. -/
structure Neighbourhood where
  value : Nat
  low : Nat
  high : Nat
  den : Nat
  closed : Bool

/-- The reals that round to a magnitude; the ends belong to it when its
mantissa is even. -/
def Magnitude.neighbourhood (m : Magnitude) : Neighbourhood :=
  let below := if m.mantissa = twoTo 52 ∧ Magnitude.leastExponent < m.exponent then 1 else 2
  let scale := if 0 ≤ m.exponent then twoTo m.exponent.toNat else 1
  let den := if 0 ≤ m.exponent then 4 else 4 * twoTo (-m.exponent).toNat
  { value := 4 * m.mantissa * scale
    low := (4 * m.mantissa - below) * scale
    high := (4 * m.mantissa + 2) * scale
    den := den
    closed := m.mantissa % 2 == 0 }

/-- The number of decimal digits before the point, counted negatively for the
zeros after it. -/
def Neighbourhood.point (n : Neighbourhood) : Int :=
  ((Nat.toDigits 10 (n.value * tenTo 340 / n.den)).length : Int) - 340

/-- Whether the decimal `digits * 10 ^ exponent` rounds to the magnitude. -/
def Neighbourhood.accepts (n : Neighbourhood) (digits : Nat) (exponent : Int) : Bool :=
  let up := if 0 ≤ exponent then tenTo exponent.toNat else 1
  let down := if 0 ≤ exponent then 1 else tenTo (-exponent).toNat
  let scaled := digits * up * n.den
  if n.closed then n.low * down ≤ scaled && scaled ≤ n.high * down
  else n.low * down < scaled && scaled < n.high * down

/-- The decimal with `count` digits nearest to the magnitude among those that
round to it; none when no such decimal does. -/
def Neighbourhood.withDigits? (n : Neighbourhood) (point : Int) (count : Nat) : Option Nat :=
  let exponent := point - count
  let num := if 0 ≤ exponent then n.value else n.value * tenTo (-exponent).toNat
  let den := if 0 ≤ exponent then n.den * tenTo exponent.toNat else n.den
  let nearest := roundHalfEven num den
  let floor := num / den
  let other := if nearest = floor then floor + 1 else floor
  if n.accepts nearest exponent then some nearest
  else if n.accepts other exponent then some other
  else none

/-- Decimal digits without the zeros at their end. -/
def dropTrailingZeros : Nat → Nat → Nat
  | 0, digits => digits
  | fuel + 1, digits =>
    if digits ≠ 0 ∧ digits % 10 = 0 then dropTrailingZeros fuel (digits / 10) else digits

/-- The fewest digits that read back as the magnitude, the nearest of those. -/
def Magnitude.shortest (m : Magnitude) : Decimal :=
  let n := m.neighbourhood
  let point := n.point
  let found := (List.range 17).findSome? fun i =>
    (n.withDigits? point (i + 1)).map fun digits => (digits, i + 1)
  match found with
  | some (digits, count) =>
    let shift := if digits = tenTo count then 1 else 0
    ⟨dropTrailingZeros 17 digits, point + shift⟩
  | none => ⟨0, 0⟩

/-- An exponent with its sign and at least two digits. -/
def exponentText (exponent : Int) : String :=
  let digits := Nat.repr exponent.natAbs
  (if exponent < 0 then "-" else "+") ++ (if digits.length < 2 then "0" else "") ++ digits

/-- A decimal in positional form, or in exponent form when its exponent is
below -4 or at least 16. -/
def Decimal.text (d : Decimal) : String :=
  let digits := (Nat.repr d.digits).toList
  if -4 < d.point ∧ d.point ≤ 16 then
    if d.point ≤ 0 then
      String.ofList ('0' :: '.' :: (List.replicate (-d.point).toNat '0' ++ digits))
    else
      let before := digits.take d.point.toNat
      let padding := List.replicate (d.point.toNat - digits.length) '0'
      let after := digits.drop d.point.toNat
      String.ofList (before ++ padding ++ '.' :: (if after = [] then ['0'] else after))
  else
    let fraction := digits.drop 1
    String.ofList (digits.take 1 ++ (if fraction = [] then [] else '.' :: fraction))
      ++ "e" ++ exponentText (d.point - 1)

/-- The shortest decimal text that reads back as the number. -/
def floatText (x : Float) : String :=
  if x.isNaN then "nan"
  else
    let bits := x.toBits.toNat
    let sign := if twoTo 63 ≤ bits then "-" else ""
    if x.isInf then sign ++ "inf"
    else
      let m := Magnitude.ofBits bits
      sign ++ if m.mantissa = 0 then "0.0" else m.shortest.text

end LSystems
