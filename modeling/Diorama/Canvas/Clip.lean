import Diorama.Canvas.Basic

/-!
# Clipping

A segment is cut to the part that lies within half a pixel around the pixel centres of the canvas.
The part is described by two parameters between zero and one, which every side of the border
narrows in turn.
-/

namespace Diorama

/-- A segment from one point in space to another. -/
structure Segment (α : Type) where
  start : Vec3 α
  stop : Vec3 α
  deriving DecidableEq

namespace Segment

variable {α : Type} [Scalar α]

/-- A part of a segment between two parameters. -/
structure Part (α : Type) where
  first : α
  last : α

/--
Narrow a part to the parameters `t` with `p * t ≤ q`.  A segment along the side is kept whole or
dropped.
-/
@[specialize]
def narrow
    (part : Part α)
    (side : α × α) :
    Option (Part α) :=
  let (p, q) := side
  if Scalar.same p Scalar.zero then
    if Scalar.less q Scalar.zero then none else some part
  else
    let t := q / p
    if Scalar.less p Scalar.zero then
      if Scalar.less part.last t then none
      else some { part with first := Scalar.larger part.first t }
    else if Scalar.less t part.first then none
    else some { part with last := Scalar.smaller part.last t }

/-- The four sides of the border as bounds `p * t ≤ q` on the parameter. -/
@[specialize]
def sides
    (width height : Nat)
    (s : Segment α) :
    List (α × α) :=
  let dx := s.stop.x - s.start.x
  let dy := s.stop.y - s.start.y
  let half : α := Scalar.half
  [(-dx, s.start.x + half), (dx, Scalar.ofInt width - half - s.start.x),
    (-dy, s.start.y + half), (dy, Scalar.ofInt height - half - s.start.y)]

/-- The point of a segment at a parameter. -/
@[specialize]
def pointAt
    (s : Segment α)
    (t : α) :
    Vec3 α :=
  ⟨s.start.x + t * (s.stop.x - s.start.x),
    s.start.y + t * (s.stop.y - s.start.y),
    s.start.z + t * (s.stop.z - s.start.z)⟩

/-- The part of a segment on a canvas of some size. -/
@[specialize]
def clip
    (width height : Nat)
    (s : Segment α) :
    Option (Segment α) :=
  ((s.sides width height).foldlM narrow ⟨Scalar.zero, Scalar.one⟩).map fun part =>
    ⟨s.pointAt part.first, s.pointAt part.last⟩

end Segment
end Diorama
