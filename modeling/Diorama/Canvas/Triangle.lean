import Diorama.Canvas.Span
import Diorama.Geometry.PointBuffer

/-!
# Filled triangles

A triangle is filled row by row.  Its vertices are sorted by height; in every row the long edge
from the lowest to the highest vertex meets one of the two other edges, and the span between the
two meeting points is drawn.
-/

namespace Diorama

variable {α : Type} [Scalar α]

/-- The vertices from the lowest to the highest; equally high ones keep their order. -/
@[specialize]
def sortByHeight
    (p q r : Vec3 α) :
    Vec3 α × Vec3 α × Vec3 α :=
  if Scalar.less q.y p.y then
    if Scalar.less r.y p.y then
      if Scalar.less r.y q.y then (r, q, p) else (q, r, p)
    else (q, p, r)
  else if Scalar.less r.y q.y then
    if Scalar.less r.y p.y then (r, p, q) else (p, r, q)
  else (p, q, r)

/-- Where an edge meets a row; beyond its ends an edge goes on vertically. -/
@[specialize]
def edgeAt
    (p q : Vec3 α)
    (y : α) :
    SpanEnd α :=
  if Scalar.same q.y p.y then ⟨q.x, q.z⟩
  else
    let t := Scalar.smaller Scalar.one (Scalar.larger Scalar.zero ((y - p.y) / (q.y - p.y)))
    ⟨p.x + (q.x - p.x) * t, p.z + (q.z - p.z) * t⟩

/-- The ends of the span of a triangle with sorted vertices in a row. -/
@[specialize]
def spanEnds
    (bottom middle top : Vec3 α)
    (y : Int) :
    SpanEnd α × SpanEnd α :=
  let row : α := Scalar.ofInt y
  (edgeAt bottom top row,
    if Scalar.less row middle.y then edgeAt bottom middle row else edgeAt middle top row)

/-- The rows of a triangle with sorted vertices on a canvas of some height. -/
@[specialize]
def triangleRows
    (height : Nat)
    (bottom top : Vec3 α) :
    Except Crash (List Int) := do
  let first ← Crash.whole (Scalar.floor (bottom.y + Scalar.half))
  let last ← Crash.whole (Scalar.floor (top.y + Scalar.half))
  return columns (max first 0) (min last (height - 1))

namespace Draw

/-- Fill a triangle. -/
@[specialize]
def triangle
    (p q r : Vec3 α)
    (colour : Colour) :
    Draw α Unit := do
  let (bottom, middle, top) := sortByHeight p q r
  let c ← get
  let height := c.height
  let rows ← lift (triangleRows height bottom top)
  rows.forM fun y =>
    let (a, b) := spanEnds bottom middle top y
    span y a b colour

end Draw

/--
Shade and fill every triangle of a buffer that faces the viewer; returns their number.  How far a
normal points toward the viewer, and the colour of a surface with that normal, are given.
-/
def Draw.shadedTriangles
    (buffer : TriangleBuffer Float)
    (toward : Vec3 Float → Except Crash Float)
    (shade : Vec3 Float → Except Crash Colour) :
    Draw Float Nat :=
  buffer.triangles.foldlM
    (fun drawn (p, q, r) =>
      if p.xyz.isFinite && q.xyz.isFinite && r.xyz.isFinite then do
        let normal := surfaceNormal p.xyz q.xyz r.xyz
        if (← lift (toward normal)) ≤ 0 then return drawn
        else
          let colour ← lift (shade normal)
          triangle p.xyz q.xyz r.xyz colour
          return drawn + 1
      else return drawn)
    0

/-- Shade and fill the triangles of a buffer of one material under one light. -/
def Draw.triangles
    (buffer : TriangleBuffer Float)
    (scene : Lighting (Vec3 Float))
    (material : Material (Vec3 Float)) :
    Draw Float Nat :=
  Draw.shadedTriangles buffer (fun normal => .ok (normal.dot scene.view))
    (fun normal => phong normal scene material)

end Diorama
