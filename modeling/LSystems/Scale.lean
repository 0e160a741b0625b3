import LSystems.Box

namespace LSystems

/-- The length of a side of a canvas: a whole number or a scalar. -/
inductive Dimension (α : Type)
  | whole (n : Int)
  | real (x : α)
deriving DecidableEq

namespace Dimension

variable {α : Type} [Scalar α]

/-- The length as a scalar; a whole number may be out of range. -/
def toScalar? : Dimension α → Option α
  | whole n => Scalar.ofInt? n
  | real x => some x

/-- Whether the length is zero or below. -/
def isNonpositive : Dimension α → Bool
  | whole n => n ≤ 0
  | real x => x ≤ 0

/-- The length as messages show it. -/
def text : Dimension α → String
  | whole n => toString n
  | real x => Scalar.text x

/-- Whether a whole number and a scalar stand for each other without rounding. -/
def agree (n : Int) (x : α) : Bool :=
  Scalar.toInt? x == some n && Scalar.ofInt? n == some x

/-- Whether two lengths have the same value. A scalar that does not compare with itself
has none, and zeros of different signs are told apart: no canvas has a side of zero. -/
def sameValue : Dimension α → Dimension α → Bool
  | whole m, whole n => m == n
  | whole m, real y => agree m y
  | real x, whole n => agree n x
  | real x, real y => x == y && x ≤ x

end Dimension

/-- The size of a canvas. -/
structure Size (α : Type) where
  width : Dimension α
  height : Dimension α
deriving DecidableEq

/-- Whether two sizes have sides of the same values. -/
def Size.sameValue {α : Type} [Scalar α] (s t : Size α) : Bool :=
  s.width.sameValue t.width && s.height.sameValue t.height

/-- A quotient; zero divides nothing. -/
def quotient {α : Type} [Scalar α] (a b : α) : Except Fault α :=
  if b ≤ 0 ∧ 0 ≤ b then .error .divisionByZero else .ok (a / b)

/-- How a figure measured with one stroke length is drawn: the stroke length of
the drawing, and the lower left corner and stroke length of the measured figure. -/
structure Scale (α : Type) where
  distance : α
  offset : Point α
  base : α
deriving DecidableEq

namespace Scale

variable {α : Type} [Scalar α]

/-- How many times longer the drawn strokes are than the measured ones. -/
def factor (s : Scale α) : Except Fault α :=
  quotient s.distance s.base

/-- Where a drawing starts so that its lower left corner is the canvas origin. -/
def origin (s : Scale α) : Except Fault (Point α) := do
  let factor ← s.factor
  return ⟨-s.offset.x * factor, -s.offset.y * factor⟩

/-- The scale at which a figure spans a canvas along its longer side; a figure
without extent keeps the stroke length it was measured with. -/
def fit (box : Box α) (size : Size α) (base : α) : Except Fault (Scale α) :=
  if size.width.isNonpositive || size.height.isNonpositive then
    .error (.canvasSize size.width.text size.height.text)
  else if base ≤ 0 then .error (.baseDistance (Scalar.text base))
  else
    let wide := box.height < box.width
    let extent := if wide then box.width else box.height
    let side := if wide then size.width else size.height
    if extent ≤ 0 then .ok ⟨base, box.corner, base⟩
    else
      match side.toScalar? with
      | none => .error .integerTooLarge
      | some side => do
        let distance ← quotient (side * base) extent
        return ⟨distance, box.corner, base⟩

end Scale

end LSystems
