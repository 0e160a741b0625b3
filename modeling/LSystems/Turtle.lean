import LSystems.Fault
import LSystems.Scalar

namespace LSystems

/-- A place in the plane, or the step from one place to another. -/
structure Point (α : Type) where
  x : α
  y : α
deriving DecidableEq

/-- A straight stroke. -/
structure Segment (α : Type) where
  start : Point α
  finish : Point α
deriving DecidableEq

/-- How headings are read: the heading that points up, and the step of length one
along a heading; a heading may have none. -/
structure Compass (α : Type) where
  north : α
  step? : α → Option (Point α)

/-- One degree in radians. -/
def radiansPerDegree : Float := 3.141592653589793 / 180.0

/-- Headings in degrees; an infinite heading points nowhere. -/
def Compass.degrees : Compass Float where
  north := 90.0
  step? heading :=
    let angle := heading * radiansPerDegree
    if angle.isInf then none else some ⟨angle.cos, angle.sin⟩

/-- A place and the heading to go on with. -/
structure Turtle (α : Type) where
  position : Point α
  heading : α
deriving DecidableEq

namespace Turtle

variable {α : Type} [Scalar α]

/-- A turtle that looks north. -/
def facingNorth (compass : Compass α) (position : Point α) : Turtle α :=
  ⟨position, compass.north⟩

/-- The turtle a distance further along its heading. -/
def forward (compass : Compass α) (distance : α) (t : Turtle α) : Except Fault (Turtle α) :=
  match compass.step? t.heading with
  | some step =>
    .ok { t with position := ⟨t.position.x + distance * step.x, t.position.y + distance * step.y⟩ }
  | none => .error .noDirection

/-- Headings grow clockwise, so a turn to the left takes the angle away. -/
def left (angle : α) (t : Turtle α) : Turtle α :=
  { t with heading := t.heading - angle }

/-- A turn to the right adds the angle to the heading. -/
def right (angle : α) (t : Turtle α) : Turtle α :=
  { t with heading := t.heading + angle }

/-- Whether two turtles stand at equal places with equal headings, by the order of
the numbers and not by how they are written. -/
def coincides (s t : Turtle α) : Bool :=
  let same (a b : α) : Bool := a ≤ b ∧ b ≤ a
  same s.position.x t.position.x && same s.position.y t.position.y && same s.heading t.heading

/-- A turtle as messages show it. -/
def shown (t : Turtle α) : String :=
  "VirtualTurtle(position=(" ++ Scalar.text t.position.x ++ ", " ++ Scalar.text t.position.y
    ++ "), heading=" ++ Scalar.text t.heading ++ ")"

end Turtle

end LSystems
