import Diorama.Geometry.PointBuffer

/-!
# Meshes

The triangles of boxes, spheres and tori.  A sphere and a torus are a grid of sampled points and
a list of triangles that name the samples by their positions; a box is spanned by its corners.
-/

namespace Diorama

/-- Three positions in a list of samples, counter-clockwise when seen from outside. -/
abbrev Face := Nat × Nat × Nat

/-- The bytes of a sample: three doubles. -/
def sampleBytes : Nat := 24

/-- The bytes of the corners of a triangle: three points of four doubles. -/
def cornerBytes : Nat := 96

/-- The largest number of bytes that an array can have. -/
def maxArrayBytes : Nat := Nat.pow 2 63 - 1

/-- Check that an array can have so many bytes. -/
def checkArray
    (bytes : Nat) :
    Except Crash Unit :=
  if maxArrayBytes < bytes then .error .arrayTooLarge else .ok ()

/-- Check that a surface has enough steps and that an array can hold its samples. -/
def checkSamples
    (minimum : Nat)
    (steps : Int)
    (count : Nat) :
    Except Crash Unit :=
  if steps < minimum then .error (.tooFewSteps minimum)
  else checkArray (sampleBytes * count)

/-- The pairs of two numbers below `rows` and `columns`, row by row. -/
def gridPositions
    (rows columns : Nat) :
    List (Nat × Nat) :=
  (List.range rows).flatMap fun i => (List.range columns).map fun j => (i, j)

/-- The triangles of positions that lie in a list of samples. -/
def faceCorners
    {α : Type}
    (samples : Array (Vec3 α))
    (faces : List Face) :
    List (Vec3 α × Vec3 α × Vec3 α) :=
  faces.filterMap fun (a, b, c) => do
    let p ← samples[a]?
    let q ← samples[b]?
    let r ← samples[c]?
    return (p, q, r)

namespace Sphere

/-- The position of a sample; longitudes repeat. -/
def sampleIndex
    (steps i j : Nat) :
    Nat :=
  i % steps * (steps + 1) + j

/-- The triangles between four neighbouring samples; one that collapses at a pole is left out. -/
def cellFaces
    (steps i j : Nat) :
    List Face :=
  let a := sampleIndex steps i j
  let b := sampleIndex steps i (j + 1)
  let c := sampleIndex steps (i + 1) (j + 1)
  let d := sampleIndex steps (i + 1) j
  (if j + 1 = steps then [] else [(a, b, c)]) ++ (if j = 0 then [] else [(a, c, d)])

/-- All triangles of a sphere. -/
def faces
    (steps : Nat) :
    List Face :=
  (gridPositions steps steps).flatMap fun (i, j) => cellFaces steps i j

/-- A sample: longitude `i` about the x axis, and `j` of `steps` parts of the half turn. -/
def sample
    (center : Vec3 Float)
    (radius : Float)
    (steps i j : Nat) :
    Vec3 Float :=
  let n := Number.ofInt steps
  let theta := 2.0 * pi * Number.ofInt i / n
  let phi := pi * Number.ofInt j / n
  ⟨radius * phi.cos + center.x,
    radius * phi.sin * theta.cos + center.y,
    radius * phi.sin * theta.sin + center.z⟩

/-- All samples, grouped by longitude. -/
def samples
    (center : Vec3 Float)
    (radius : Float)
    (steps : Nat) :
    List (Vec3 Float) :=
  (gridPositions steps (steps + 1)).map fun (i, j) => sample center radius steps i j

/-- The samples of a sphere, which needs two steps at least. -/
def samples?
    (center : Vec3 Float)
    (radius : Float)
    (steps : Int) :
    Except Crash (List (Vec3 Float)) := do
  checkSamples 2 steps (steps.toNat * (steps.toNat + 1))
  return samples center radius steps.toNat

/-- The triangles of a sphere, whose corners have to fit into an array as well. -/
def triangles?
    (center : Vec3 Float)
    (radius : Float)
    (steps : Int) :
    Except Crash (List (Vec3 Float × Vec3 Float × Vec3 Float)) := do
  let samples ← samples? center radius steps
  checkArray (cornerBytes * (2 * steps.toNat * (steps.toNat - 1)))
  return faceCorners samples.toArray (faces steps.toNat)

end Sphere

namespace Torus

/-- The position of a sample; both directions repeat. -/
def sampleIndex
    (steps i j : Nat) :
    Nat :=
  i % steps * steps + j % steps

/-- The two triangles between four neighbouring samples. -/
def cellFaces
    (steps i j : Nat) :
    List Face :=
  let a := sampleIndex steps i j
  let b := sampleIndex steps i (j + 1)
  let c := sampleIndex steps (i + 1) (j + 1)
  let d := sampleIndex steps (i + 1) j
  [(a, d, c), (a, c, b)]

/-- All triangles of a torus. -/
def faces
    (steps : Nat) :
    List Face :=
  (gridPositions steps steps).flatMap fun (i, j) => cellFaces steps i j

/-- A sample: turn `i` of the ring about the y axis, and turn `j` of the tube. -/
def sample
    (center : Vec3 Float)
    (tube ring : Float)
    (steps i j : Nat) :
    Vec3 Float :=
  let n := Number.ofInt steps
  let theta := 2.0 * pi * Number.ofInt i / n
  let phi := 2.0 * pi * Number.ofInt j / n
  let reach := tube * phi.cos + ring
  ⟨theta.cos * reach + center.x,
    tube * phi.sin + center.y,
    -theta.sin * reach + center.z⟩

/-- All samples, grouped by turn of the ring. -/
def samples
    (center : Vec3 Float)
    (tube ring : Float)
    (steps : Nat) :
    List (Vec3 Float) :=
  (gridPositions steps steps).map fun (i, j) => sample center tube ring steps i j

/-- The samples of a torus, which needs three steps at least. -/
def samples?
    (center : Vec3 Float)
    (tube ring : Float)
    (steps : Int) :
    Except Crash (List (Vec3 Float)) := do
  checkSamples 3 steps (steps.toNat * steps.toNat)
  return samples center tube ring steps.toNat

/-- The triangles of a torus, whose corners have to fit into an array as well. -/
def triangles?
    (center : Vec3 Float)
    (tube ring : Float)
    (steps : Int) :
    Except Crash (List (Vec3 Float × Vec3 Float × Vec3 Float)) := do
  let samples ← samples? center tube ring steps
  checkArray (cornerBytes * (2 * steps.toNat * steps.toNat))
  return faceCorners samples.toArray (faces steps.toNat)

end Torus

namespace Box

variable {α : Type}

/-- Which end of the box a corner takes on each axis; `false` is the given corner. -/
abbrev Corner := Bool × Bool × Bool

/-- The six sides, each by its four corners. -/
def sides : List (Corner × Corner × Corner × Corner) :=
  let o := false
  let i := true
  [((o, o, o), (o, i, o), (i, i, o), (i, o, o)),
    ((i, o, i), (i, i, i), (o, i, i), (o, o, i)),
    ((o, o, i), (o, i, i), (o, i, o), (o, o, o)),
    ((i, o, o), (i, i, o), (i, i, i), (i, o, i)),
    ((o, o, i), (o, o, o), (i, o, o), (i, o, i)),
    ((o, i, o), (o, i, i), (i, i, i), (i, i, o))]

/-- The triangles of the sides by their corners. -/
def cornerFaces : List (Corner × Corner × Corner) :=
  sides.flatMap fun (a, b, c, d) => [(a, b, c), (a, c, d)]

variable [Scalar α]

/-- The place of a corner: width goes along +x, height along -y and depth along -z. -/
def cornerPoint
    (corner size : Vec3 α)
    (c : Corner) :
    Vec3 α :=
  ⟨if c.1 then corner.x + size.x else corner.x,
    if c.2.1 then corner.y - size.y else corner.y,
    if c.2.2 then corner.z - size.z else corner.z⟩

/-- The middle of the box. -/
def center
    (corner size : Vec3 α) :
    Vec3 α :=
  let two : α := Scalar.ofInt 2
  ⟨corner.x + size.x / two, corner.y - size.y / two, corner.z - size.z / two⟩

/-- A triangle, turned around if its normal points toward the centre. -/
def outward
    (center : Vec3 α)
    (t : Vec3 α × Vec3 α × Vec3 α) :
    Vec3 α × Vec3 α × Vec3 α :=
  let (p, q, r) := t
  let normal := (q - p).cross (r - p)
  if Scalar.less (normal.dot (p - center)) Scalar.zero then (p, r, q) else (p, q, r)

/-- The triangles of a box. -/
def triangles
    (corner size : Vec3 α) :
    List (Vec3 α × Vec3 α × Vec3 α) :=
  cornerFaces.map fun (a, b, c) =>
    outward (center corner size)
      (cornerPoint corner size a, cornerPoint corner size b, cornerPoint corner size c)

end Box
end Diorama
