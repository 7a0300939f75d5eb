import Diorama.Geometry.Vec3
import Diorama.Crash
import Diorama.Fault

/-!
# Transforms

A transform is a four by four matrix that acts on points written as rows `(x, y, z, 1)`, so that
in a product the left factor acts first.  Translations, scalings and the rotations about the
three axes are the elementary transforms.
-/

namespace Diorama

/-- A point in homogeneous coordinates, written as a row. -/
structure Point (α : Type) where
  x : α
  y : α
  z : α
  w : α
  deriving DecidableEq

namespace Point

variable {α : Type}

/-- The four coordinates in order. -/
def toList
    (p : Point α) :
    List α :=
  [p.x, p.y, p.z, p.w]

/-- The first three coordinates. -/
def xyz
    (p : Point α) :
    Vec3 α :=
  ⟨p.x, p.y, p.z⟩

/-- A point in space. -/
def ofVec
    [Scalar α]
    (v : Vec3 α) :
    Point α :=
  ⟨v.x, v.y, v.z, Scalar.one⟩

/-- The product with a column, summed from left to right. -/
@[specialize]
def dot
    [Scalar α]
    (p q : Point α) :
    α :=
  p.x * q.x + p.y * q.y + p.z * q.z + p.w * q.w

end Point

/-- A four by four matrix by rows. -/
structure Transform (α : Type) where
  row0 : Point α
  row1 : Point α
  row2 : Point α
  row3 : Point α
  deriving DecidableEq

namespace Transform

variable {α : Type}

/-- The rows in order. -/
def rows
    (m : Transform α) :
    List (Point α) :=
  [m.row0, m.row1, m.row2, m.row3]

/-- The columns as rows. -/
def transpose
    (m : Transform α) :
    Transform α :=
  ⟨⟨m.row0.x, m.row1.x, m.row2.x, m.row3.x⟩,
    ⟨m.row0.y, m.row1.y, m.row2.y, m.row3.y⟩,
    ⟨m.row0.z, m.row1.z, m.row2.z, m.row3.z⟩,
    ⟨m.row0.w, m.row1.w, m.row2.w, m.row3.w⟩⟩

variable [Scalar α]

/-- The transform that changes nothing. -/
def identity : Transform α :=
  let o : α := Scalar.zero
  let i : α := Scalar.one
  ⟨⟨i, o, o, o⟩, ⟨o, i, o, o⟩, ⟨o, o, i, o⟩, ⟨o, o, o, i⟩⟩

/-- Move by an offset. -/
def translate
    (offset : Vec3 α) :
    Transform α :=
  { (identity : Transform α) with row3 := ⟨offset.x, offset.y, offset.z, Scalar.one⟩ }

/-- Stretch along the axes. -/
def scale
    (factors : Vec3 α) :
    Transform α :=
  let o : α := Scalar.zero
  ⟨⟨factors.x, o, o, o⟩, ⟨o, factors.y, o, o⟩, ⟨o, o, factors.z, o⟩, ⟨o, o, o, Scalar.one⟩⟩

/-- Turn about the x axis by the angle with the given cosine and sine. -/
def turnX
    (c s : α) :
    Transform α :=
  let o : α := Scalar.zero
  let i : α := Scalar.one
  ⟨⟨i, o, o, o⟩, ⟨o, c, s, o⟩, ⟨o, -s, c, o⟩, ⟨o, o, o, i⟩⟩

/-- Turn about the y axis by the angle with the given cosine and sine. -/
def turnY
    (c s : α) :
    Transform α :=
  let o : α := Scalar.zero
  let i : α := Scalar.one
  ⟨⟨c, o, -s, o⟩, ⟨o, i, o, o⟩, ⟨s, o, c, o⟩, ⟨o, o, o, i⟩⟩

/-- Turn about the z axis by the angle with the given cosine and sine. -/
def turnZ
    (c s : α) :
    Transform α :=
  let o : α := Scalar.zero
  let i : α := Scalar.one
  ⟨⟨c, s, o, o⟩, ⟨-s, c, o, o⟩, ⟨o, o, i, o⟩, ⟨o, o, o, i⟩⟩

/-- The image of a point. -/
@[specialize]
def apply
    (m : Transform α)
    (p : Point α) :
    Point α :=
  let t := m.transpose
  ⟨p.dot t.row0, p.dot t.row1, p.dot t.row2, p.dot t.row3⟩

/-- The transform `first` followed by `second`. -/
def compose
    (first second : Transform α) :
    Transform α :=
  ⟨second.apply first.row0, second.apply first.row1, second.apply first.row2,
    second.apply first.row3⟩

end Transform

/-- An axis of rotation. -/
inductive Axis
  | x
  | y
  | z
  deriving DecidableEq

namespace Axis

/-- The axis of a name. -/
def ofName? : Text → Option Axis
  | [.char 'x'] => some x
  | [.char 'y'] => some y
  | [.char 'z'] => some z
  | _ => none

/-- Turn about an axis by the angle with the given cosine and sine. -/
def turn
    {α : Type}
    [Scalar α] :
    Axis → α → α → Transform α
  | x => Transform.turnX
  | y => Transform.turnY
  | z => Transform.turnZ

end Axis

/-- The ratio of a circle's circumference to its diameter. -/
def pi : Float := 3.141592653589793

/-- An angle in radians. -/
def radians
    (degrees : Float) :
    Float :=
  degrees * (pi / 180.0)

/-- The cosine and the sine of an angle; an infinite angle has none. -/
def cosineSine
    (degrees : Float) :
    Except Crash (Float × Float) :=
  let theta := radians degrees
  if theta.isInf then .error .infiniteAngle
  else .ok (theta.cos, theta.sin)

/-- The counter-clockwise rotation about an axis, looking down it toward the origin. -/
def Axis.rotation
    (axis : Axis)
    (degrees : Float) :
    Except Crash (Transform Float) :=
  (cosineSine degrees).map fun (c, s) => axis.turn c s

end Diorama
