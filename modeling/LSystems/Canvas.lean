import LSystems.Scale

namespace LSystems

/-- A colour by its red, green and blue parts as they are given, and its opacity,
which a canvas does not show. -/
structure Colour where
  red : Nat
  green : Nat
  blue : Nat
  opacity : Option Nat
deriving DecidableEq

namespace Colour

def ivory : Colour := ⟨255, 255, 240, none⟩

def black : Colour := ⟨0, 0, 0, none⟩

def scarlet : Colour := ⟨255, 0, 0, none⟩

/-- The parts of a colour as they are given. -/
def parts (c : Colour) : List Nat :=
  [c.red, c.green, c.blue] ++ c.opacity.toList

end Colour

/-- One call to a painter: a fill of the whole canvas, a smooth line between two
points, or a plain line between two pixels. -/
inductive DrawCall (α : Type)
  | fill (colour : Colour)
  | smoothLine (colour : Colour) (start finish : Point α)
  | line (colour : Colour) (start finish : Int × Int)
deriving DecidableEq

/-- How strokes are painted: the two colours, and whether the axes are shown. -/
structure Palette where
  background : Colour
  stroke : Colour
  axes : Bool
deriving DecidableEq

namespace Palette

/-- Black strokes on ivory. -/
def standard (axes : Bool) : Palette :=
  ⟨.ivory, .black, axes⟩

/-- The palette of colours given by their parts, for some strokes and what a canvas makes of
a colour; the colour of the strokes is not looked at when there are none. -/
def ofParts {α : Type} (colour : List Int → Except HostFault Colour) (background stroke : List Int)
    (axes : Bool) (strokes : List (Segment α)) : Except HostFault Palette := do
  let background ← colour background
  let stroke ← if strokes.isEmpty then .ok .black else colour stroke
  return ⟨background, stroke, axes⟩

/-- The point of a canvas whose rows grow downwards. -/
def flipPoint {α : Type} [Scalar α] (height : α) (p : Point α) : Point α :=
  ⟨p.x, height - p.y⟩

/-- A stroke turned over to a canvas whose rows grow downwards. -/
def flip {α : Type} [Scalar α] (height : α) (s : Segment α) : Segment α :=
  ⟨flipPoint height s.start, flipPoint height s.finish⟩

/-- Strokes turned over to a canvas whose rows grow downwards; its height is not
looked at when there are none. -/
def flipAll {α : Type} [Scalar α] (height : Dimension α) (strokes : List (Segment α)) :
    Except Fault (List (Segment α)) :=
  match strokes, height.toScalar? with
  | [], _ => .ok []
  | _, some scaled => .ok (strokes.map (flip scaled))
  | _, none => .error .integerTooLarge

/-- The two axes, each half a side long from the lower left pixel. -/
def axisCalls {α : Type} (width height : Int) : List (DrawCall α) :=
  let corner := (0, height - 1)
  [.line .scarlet corner (width.fdiv 2, height - 1), .line .scarlet corner (0, height.fdiv 2)]

/-- The calls that paint strokes on a fresh canvas: the background, each stroke in
order, and the axes last. -/
def calls {α : Type} [Scalar α] (p : Palette) (width height : Int) (scaled : α)
    (strokes : List (Segment α)) : List (DrawCall α) :=
  .fill p.background :: (strokes.map fun s =>
      let s := flip scaled s
      .smoothLine p.stroke s.start s.finish)
    ++ if p.axes then axisCalls width height else []

end Palette

end LSystems
