import Mathlib.Algebra.Order.Round
import Mathlib.Algebra.Order.Archimedean.Real.Basic
import Diorama.Proofs.Geometry.Scopes

/-!
# Exact arithmetic as a ring

Numbers that are added and multiplied without rounding form a commutative ring, whatever else they
can do, so that what is known of rings and of matrices over them holds of transforms.  The rational
numbers are such numbers, and so are the real ones, which have a cosine and a sine for each angle.
-/

namespace Diorama

/-- Numbers with exact arithmetic: zero and one are neutral, and differences undo sums. -/
class RingScalar (α : Type) [Scalar α] : Prop extends ExactScalar α where
  mul_comm : ∀ a b : α, a * b = b * a
  zero_add : ∀ a : α, Scalar.zero + a = a
  one_mul : ∀ a : α, Scalar.one * a = a
  neg_add_cancel : ∀ a : α, -a + a = Scalar.zero
  sub_eq_add_neg : ∀ a b : α, a - b = a + -b

namespace RingScalar

section

variable {α : Type} [Scalar α] [RingScalar α]

/-- Exact numbers under addition. -/
abbrev addCommGroup : AddCommGroup α where
  zero := Scalar.zero
  add_assoc := ExactScalar.add_assoc
  add_comm := ExactScalar.add_comm
  zero_add := zero_add
  add_zero a := (ExactScalar.add_comm a _).trans (zero_add a)
  neg_add_cancel := neg_add_cancel
  sub_eq_add_neg := sub_eq_add_neg
  nsmul := @nsmulRec α ⟨Scalar.zero⟩ _
  zsmul := @zsmulRec α ⟨Scalar.zero⟩ _ _ (@nsmulRec α ⟨Scalar.zero⟩ _)

/-- Nothing times a number is nothing, as it is added to itself in vain. -/
theorem zero_mul
    (a : α) :
    Scalar.zero * a = Scalar.zero := by
  let _ : AddCommGroup α := addCommGroup
  have hdouble : (Scalar.zero : α) * a + Scalar.zero * a = Scalar.zero * a := by
    rw [← ExactScalar.add_mul, zero_add]
  exact left_eq_add.mp hdouble.symm

/-- Exact numbers form a commutative ring. -/
abbrev commRing : CommRing α where
  __ : AddCommGroup α := addCommGroup
  one := Scalar.one
  mul_assoc := ExactScalar.mul_assoc
  mul_comm := mul_comm
  one_mul := one_mul
  mul_one a := (mul_comm a _).trans (one_mul a)
  left_distrib := ExactScalar.mul_add
  right_distrib := ExactScalar.add_mul
  zero_mul := zero_mul
  mul_zero a := (mul_comm a _).trans (zero_mul a)

end

end RingScalar

/-- The rational numbers compute without rounding. -/
instance : RingScalar Rat where
  mul_comm := Rat.mul_comm
  zero_add := Rat.zero_add
  one_mul := Rat.one_mul
  neg_add_cancel := Rat.neg_add_cancel
  sub_eq_add_neg := Rat.sub_eq_add_neg

namespace Scalar

open Classical in
/--
Real numbers, without any limit.  They are an instance where it is asked for only: elsewhere the
operations of real numbers stay their own.
-/
noncomputable abbrev real : Scalar ℝ where
  ofInt n := n
  half := ((half : Rat) : ℝ)
  less a b := a < b
  same a b := a = b
  isFinite _ := true
  isAboveBottom _ := true
  floor x := .ok ⌊x⌋
  nearest x := .ok (if Int.fract x = 1 - Int.fract x ∧ Even ⌊x⌋ then ⌊x⌋ else round x)
  columnOffset? first column := some ((column - first : Int) : ℝ)
  divisor? n := some n

attribute [local instance] real

theorem zero_real :
    (zero : ℝ) = 0 :=
  Int.cast_zero

theorem one_real :
    (one : ℝ) = 1 :=
  Int.cast_one

/-- The real numbers compute without rounding. -/
theorem ringScalar_real :
    RingScalar ℝ where
  add_assoc := add_assoc
  add_comm := add_comm
  mul_assoc := mul_assoc
  mul_add := mul_add
  add_mul := add_mul
  mul_comm := mul_comm
  zero_add a := by rw [zero_real]; exact zero_add a
  one_mul a := by rw [one_real]; exact one_mul a
  neg_add_cancel a := by rw [zero_real]; exact neg_add_cancel a
  sub_eq_add_neg := sub_eq_add_neg

end Scalar
end Diorama
