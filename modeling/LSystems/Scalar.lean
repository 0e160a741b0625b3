import LSystems.ShortestDecimal

namespace LSystems

/-- The numbers that lengths, positions and headings are measured in. A whole
number beyond their range has no counterpart among them, and only some of them
equal a whole number. -/
class Scalar (α : Type) extends Zero α, Add α, Sub α, Mul α, Neg α, Div α, LT α, LE α where
  decidableEq : DecidableEq α
  decidableLT : DecidableLT α
  decidableLE : DecidableLE α
  ofInt? : Int → Option α
  toInt? : α → Option Int
  text : α → String

attribute [reducible, instance] Scalar.decidableEq Scalar.decidableLT Scalar.decidableLE

/-- Binary64 numbers. -/
instance : Scalar Float where
  zero := 0.0
  decidableEq := inferInstance
  decidableLT := inferInstance
  decidableLE := inferInstance
  ofInt? := floatOfInt?
  toInt? := integerOfFloat?
  text := floatText

/-- Exact rational numbers. -/
instance : Scalar Rat where
  zero := 0
  decidableEq := inferInstance
  decidableLT := inferInstance
  decidableLE := inferInstance
  ofInt? n := some n
  toInt? q := if q.den = 1 then some q.num else none
  text := toString

end LSystems
