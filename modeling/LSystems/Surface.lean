import LSystems.Fault
import LSystems.Scale

namespace LSystems

/-- A surface that keeps the strokes drawn on it last and counts the drawings and
the changes of its size. It meets the pending failures, the first one first,
instead of drawing. -/
structure Surface (α : Type) where
  size : Size α
  resizes : Nat
  strokes : List (Segment α)
  draws : Nat
  pending : List SurfaceFault

namespace Surface

variable {α : Type}

/-- A surface on which nothing has been drawn. -/
def blank (size : Size α) : Surface α :=
  ⟨size, 0, [], 0, []⟩

/-- Gives the surface another size. -/
def resize (s : Surface α) (size : Size α) : Surface α :=
  { s with size := size, resizes := s.resizes + 1 }

/-- Draws strokes, unless a failure is pending, which is then met. -/
def draw (s : Surface α) (strokes : List (Segment α)) : Except Fault Unit × Surface α :=
  match s.pending with
  | fault :: rest => (.error (.surface fault), { s with pending := rest })
  | [] => (.ok (), { s with strokes := strokes, draws := s.draws + 1 })

end Surface

end LSystems
