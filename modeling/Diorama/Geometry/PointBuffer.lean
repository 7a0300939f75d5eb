import Diorama.Geometry.PointArray

/-!
# Buffers of points

A drawing directive collects its points in a buffer.  Points are grouped: two make an edge, three
a triangle, and a buffer holds whole groups only.
-/

namespace Diorama

/-- Points in groups of `group`. -/
structure PointBuffer (α : Type) (group : Nat) where
  points : List (Point α)
  whole : points.length % group = 0

/-- Two points for each edge. -/
abbrev EdgeBuffer (α : Type) := PointBuffer α 2

/-- Three points for each triangle, counter-clockwise when seen from outside. -/
abbrev TriangleBuffer (α : Type) := PointBuffer α 3

namespace PointBuffer

variable {α : Type} {group : Nat}

/-- The buffer without points. -/
def empty : PointBuffer α group :=
  ⟨[], by simp⟩

/-- The number of groups. -/
def size
    (b : PointBuffer α group) :
    Nat :=
  b.points.length / group

/-- Whether the buffer has no points. -/
def isEmpty
    (b : PointBuffer α group) :
    Bool :=
  b.points.isEmpty

/-- The position of a boundary between points; a negative one is counted from the end. -/
def boundary
    (b : PointBuffer α group)
    (i : Int) :
    Nat :=
  min b.points.length (if i < 0 then i + b.points.length else i).toNat

/-- The points between two boundaries. -/
def slice
    (b : PointBuffer α group)
    (start stop : Int) :
    List (Point α) :=
  (b.points.take (b.boundary stop)).drop (b.boundary start)

/-- Append points if they make whole groups. -/
def append?
    (b : PointBuffer α group)
    (points : List (Point α)) :
    Option (PointBuffer α group) :=
  if h : points.length % group = 0 then
    some ⟨b.points ++ points, by rw [List.length_append, Nat.add_mod, b.whole, h]; simp⟩
  else none

/-- Append the points of a nested array. -/
def extend
    [Scalar α]
    (b : PointBuffer α group)
    (a : PointArray α) :
    Except ShapeError (PointBuffer α group) :=
  match a.points with
  | .error e => .error e
  | .ok points =>
      match b.append? points with
      | some longer => .ok longer
      | none => .error (.notMultipleOf group)

/-- Apply a transform to every point. -/
def transform
    [Scalar α]
    (b : PointBuffer α group)
    (m : Transform α) :
    PointBuffer α group :=
  ⟨b.points.map m.apply, by rw [List.length_map]; exact b.whole⟩

@[simp]
theorem points_empty :
    (empty : PointBuffer α group).points = [] :=
  rfl

@[simp]
theorem points_transform
    [Scalar α]
    (b : PointBuffer α group)
    (m : Transform α) :
    (b.transform m).points = b.points.map m.apply :=
  rfl

end PointBuffer

/-- Consecutive pairs of a list. -/
def pairs {β : Type} : List β → List (β × β)
  | a :: b :: rest => (a, b) :: pairs rest
  | _ => []

/-- Consecutive triples of a list. -/
def triples {β : Type} : List β → List (β × β × β)
  | a :: b :: c :: rest => (a, b, c) :: triples rest
  | _ => []

/-- The members of a list of triples in order. -/
def flattenTriples
    {β : Type}
    (ts : List (β × β × β)) :
    List β :=
  ts.flatMap fun t => [t.1, t.2.1, t.2.2]

theorem length_flattenTriples
    {β : Type}
    (ts : List (β × β × β)) :
    (flattenTriples ts).length = 3 * ts.length := by
  induction ts with
  | nil => rfl
  | cons t rest ih =>
      have hstep : (flattenTriples (t :: rest)).length = 3 + (flattenTriples rest).length := by
        simp [flattenTriples]
        omega
      rw [hstep, ih, List.length_cons]
      omega

theorem triples_append
    {β : Type}
    (ts rest : List β)
    (h : ts.length % 3 = 0) :
    triples (ts ++ rest) = triples ts ++ triples rest := by
  induction ts using triples.induct with
  | case1 a b c more ih =>
      simp only [List.length_cons] at h
      simp only [List.cons_append, triples, ih (by omega)]
  | case2 ts hshort =>
      match ts with
      | [] => rfl
      | [_] => simp at h
      | [_, _] => simp at h
      | a :: b :: c :: more => exact absurd rfl (hshort a b c more)

theorem triples_flattenTriples
    {β : Type}
    (ts : List (β × β × β)) :
    triples (flattenTriples ts) = ts := by
  induction ts with
  | nil => rfl
  | cons t rest ih =>
      have hstep : flattenTriples (t :: rest) = t.1 :: t.2.1 :: t.2.2 :: flattenTriples rest := rfl
      rw [hstep, triples, ih]

/-- The edges of a buffer in order. -/
def EdgeBuffer.edges
    {α : Type}
    (b : EdgeBuffer α) :
    List (Point α × Point α) :=
  pairs b.points

/-- Append an edge. -/
def EdgeBuffer.addEdge
    {α : Type}
    [Scalar α]
    (b : EdgeBuffer α)
    (start stop : Vec3 α) :
    EdgeBuffer α :=
  ⟨b.points ++ [Point.ofVec start, Point.ofVec stop], by
    rw [List.length_append, Nat.add_mod, b.whole]
    simp⟩

/-- The triangles of a buffer in order. -/
def TriangleBuffer.triangles
    {α : Type}
    (b : TriangleBuffer α) :
    List (Point α × Point α × Point α) :=
  triples b.points

/-- Append triangles. -/
def TriangleBuffer.addTriangles
    {α : Type}
    [Scalar α]
    (b : TriangleBuffer α)
    (ts : List (Vec3 α × Vec3 α × Vec3 α)) :
    TriangleBuffer α :=
  ⟨b.points ++ (flattenTriples ts).map Point.ofVec, by
    rw [List.length_append, List.length_map, length_flattenTriples, Nat.add_mod, b.whole]
    simp⟩

end Diorama
