import LSystems.Turtle

namespace LSystems

/-- A box with sides along the axes. -/
structure Box (α : Type) where
  minX : α
  minY : α
  maxX : α
  maxY : α
deriving DecidableEq

namespace Box

variable {α : Type} [Scalar α]

/-- The box of one point. -/
def ofPoint (p : Point α) : Box α :=
  ⟨p.x, p.y, p.x, p.y⟩

/-- The box moved out to a point; a side moves only past a coordinate that is
strictly beyond it. -/
def insert (b : Box α) (p : Point α) : Box α where
  minX := if p.x < b.minX then p.x else b.minX
  minY := if p.y < b.minY then p.y else b.minY
  maxX := if b.maxX < p.x then p.x else b.maxX
  maxY := if b.maxY < p.y then p.y else b.maxY

/-- The extent along the first axis. -/
def width (b : Box α) : α := b.maxX - b.minX

/-- The extent along the second axis. -/
def height (b : Box α) : α := b.maxY - b.minY

/-- The lower left corner. -/
def corner (b : Box α) : Point α := ⟨b.minX, b.minY⟩

end Box

end LSystems
