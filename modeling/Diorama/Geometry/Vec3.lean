import Diorama.Geometry.Scalar

/-!
# Vectors of three numbers

Positions, directions and colours in space, with the products of vectors.
-/

namespace Diorama

/-- Three numbers. -/
structure Vec3 (α : Type) where
  x : α
  y : α
  z : α
  deriving DecidableEq

namespace Vec3

variable {α β : Type}

/-- The three numbers in order. -/
def toList
    (v : Vec3 α) :
    List α :=
  [v.x, v.y, v.z]

/-- Apply a function to each number. -/
@[specialize]
def map
    (f : α → β)
    (v : Vec3 α) :
    Vec3 β :=
  ⟨f v.x, f v.y, f v.z⟩

/-- Combine two vectors number by number. -/
@[specialize]
def zipWith
    (f : α → α → α)
    (a b : Vec3 α) :
    Vec3 α :=
  ⟨f a.x b.x, f a.y b.y, f a.z b.z⟩

/-- The same number three times. -/
def replicate
    (a : α) :
    Vec3 α :=
  ⟨a, a, a⟩

section

variable [Scalar α]

instance : Add (Vec3 α) :=
  ⟨zipWith (· + ·)⟩

instance : Sub (Vec3 α) :=
  ⟨zipWith (· - ·)⟩

/-- Multiply each number of one vector by that of another. -/
def scaleBy
    (a b : Vec3 α) :
    Vec3 α :=
  zipWith (· * ·) a b

/-- The scalar product, summed from left to right. -/
@[specialize]
def dot
    (a b : Vec3 α) :
    α :=
  a.x * b.x + a.y * b.y + a.z * b.z

/-- The vector product. -/
@[specialize]
def cross
    (a b : Vec3 α) :
    Vec3 α :=
  ⟨a.y * b.z - a.z * b.y, a.z * b.x - a.x * b.z, a.x * b.y - a.y * b.x⟩

/-- Whether all three numbers are finite. -/
@[specialize]
def isFinite
    (v : Vec3 α) :
    Bool :=
  Scalar.isFinite v.x && Scalar.isFinite v.y && Scalar.isFinite v.z

end

end Vec3
end Diorama
