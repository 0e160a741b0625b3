import LSystems.Canvas

namespace LSystems

/-- The pixels of a canvas, row by row from the top. -/
structure Raster where
  width : Nat
  height : Nat
  pixels : Array Colour

namespace Raster

/-- A canvas of one colour. -/
def filled (width height : Nat) (colour : Colour) : Raster :=
  ⟨width, height, Array.replicate (width * height) colour⟩

/-- One part of a colour moved towards another by `share` of 255. -/
def mixPart (share back front : Nat) : Nat :=
  (back * (255 - share) + front * share) / 255

/-- A colour moved towards another by `share` of 255. -/
def mix (share : Nat) (back front : Colour) : Colour :=
  ⟨mixPart share back.red front.red, mixPart share back.green front.green,
    mixPart share back.blue front.blue, none⟩

/-- Covers a pixel of the canvas by `share` of 255; what lies outside is left out. -/
def cover (r : Raster) (colour : Colour) (share : Nat) (x y : Int) : Raster :=
  if 0 ≤ x ∧ x < r.width ∧ 0 ≤ y ∧ y < r.height then
    { r with pixels := r.pixels.modify (y.toNat * r.width + x.toNat) fun back => mix share back colour }
  else r

/-- The greatest integer that is not above a number, cut to four digits; such
canvases are large enough. -/
def floorOf (x : Float) : Int :=
  (Float.floor (max (-9999.0) (min 9999.0 x)) + 10000.0).toUInt64.toNat - 10000

/-- Covers the two pixels of a row or column that a line meets there. -/
def coverPair (r : Raster) (colour : Colour) (steep : Bool) (major : Int) (minor : Float) : Raster :=
  let low := floorOf minor
  let share := ((minor - Float.floor minor) * 255.0).toUInt64.toNat
  let put (r : Raster) (share : Nat) (minor : Int) : Raster :=
    if steep then r.cover colour share minor major else r.cover colour share major minor
  put (put r (255 - share) low) share (low + 1)

/-- Draws a smooth line: it is followed along its longer side, pixel by pixel. -/
def smoothLine (r : Raster) (colour : Colour) (p q : Point Float) : Raster :=
  let steep := Float.abs (q.x - p.x) < Float.abs (q.y - p.y)
  let (a, b, c, d) := if steep then (p.y, p.x, q.y, q.x) else (p.x, p.y, q.x, q.y)
  let (a, b, c, d) := if c < a then (c, d, a, b) else (a, b, c, d)
  let side := if steep then r.height else r.width
  let first := max 0 (floorOf (a + 0.5))
  let last := min ((side : Int) - 1) (floorOf (c + 0.5))
  let slope := if a < c then (d - b) / (c - a) else 0.0
  (List.range (last - first + 1).toNat).foldl
    (fun r (i : Nat) =>
      let major := first + (i : Int)
      r.coverPair colour steep major (b + (Float.ofInt major - a) * slope)) r

/-- Draws a line between two pixels that lies along an axis. -/
def plainLine (r : Raster) (colour : Colour) (p q : Int × Int) : Raster :=
  let columns := (max p.1 q.1 - min p.1 q.1 + 1).toNat
  let rows := (max p.2 q.2 - min p.2 q.2 + 1).toNat
  (List.range rows).foldl
    (fun r (j : Nat) => (List.range columns).foldl
      (fun r (i : Nat) => r.cover colour 255 (min p.1 q.1 + (i : Int)) (min p.2 q.2 + (j : Int))) r) r

/-- Carries out a draw call. -/
def paint (r : Raster) : DrawCall Float → Raster
  | .fill colour => filled r.width r.height colour
  | .smoothLine colour p q => r.smoothLine colour p q
  | .line colour p q => r.plainLine colour p q

/-- The canvas that some draw calls paint. -/
def ofCalls (width height : Int) (calls : List (DrawCall Float)) : Raster :=
  calls.foldl paint (filled width.toNat height.toNat .black)

end Raster

end LSystems
