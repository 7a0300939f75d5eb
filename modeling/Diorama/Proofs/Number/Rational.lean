import Diorama.Proofs.Number.FloatOrder
import Mathlib.Data.Rat.Floor
import Mathlib.Tactic.FieldSimp
import Mathlib.Tactic.Linarith

/-!
# Rational scalars

Over the rational numbers the comparisons of scalars are those of the numbers themselves, and the
nearest whole number is within one half.  Nothing else about rounding is needed to see that it
keeps the order and leaves whole numbers alone.  What holds of exact arithmetic is said of any
scalars that stand for rational numbers.

**Main statements.**
* `LawfulOrder Rat`: rational numbers are lawfully ordered.
* `abs_nearestToRat_sub_le`: a number and its nearest whole number differ by one half at most.
* `even_nearestToRat`: where they differ by one half, the whole number is even.
* `nearestToRat_intCast`, `nearestToRat_mono`: whole numbers are kept, and so is the order.
-/

namespace Diorama

namespace Scalar

section Rational

variable {a b : Rat}

@[simp]
theorem less_rat_iff :
    less a b = true ↔ a < b :=
  decide_eq_true_iff

@[simp]
theorem same_rat_iff :
    same a b = true ↔ a = b :=
  beq_iff_eq

@[simp]
theorem zero_rat :
    (zero : Rat) = 0 :=
  rfl

@[simp]
theorem one_rat :
    (one : Rat) = 1 :=
  rfl

@[simp]
theorem half_rat :
    (half : Rat) = 1 / 2 :=
  rfl

@[simp]
theorem ofInt_rat
    (n : Int) :
    (ofInt n : Rat) = n :=
  rfl

@[simp]
theorem larger_rat :
    larger a b = max a b := by
  unfold larger
  split
  · rename_i h
    exact (max_eq_right (less_rat_iff.mp h).le).symm
  · rename_i h
    exact (max_eq_left (not_lt.mp (mt less_rat_iff.mpr h))).symm

@[simp]
theorem smaller_rat :
    smaller a b = min a b := by
  unfold smaller
  split
  · rename_i h
    exact (min_eq_right (less_rat_iff.mp h).le).symm
  · rename_i h
    exact (min_eq_left (not_lt.mp (mt less_rat_iff.mpr h))).symm

end Rational

/-- Rational numbers are ordered, and all of them are above the bottom. -/
instance : LawfulOrder Rat where
  isNumber_of_less _ := ⟨same_rat_iff.mpr rfl, same_rat_iff.mpr rfl⟩
  not_same_of_less h := Bool.eq_false_iff.mpr fun hsame =>
    (less_rat_iff.mp h).ne (same_rat_iff.mp hsame)
  less_trans h h' := less_rat_iff.mpr ((less_rat_iff.mp h).trans (less_rat_iff.mp h'))
  less_or_same_or_less {a b} _ _ := by
    simp only [less_rat_iff, same_rat_iff]
    exact lt_trichotomy a b
  less_of_same_of_less h h' := by
    obtain rfl := same_rat_iff.mp h
    exact h'
  isNumber_of_isAboveBottom _ := same_rat_iff.mpr rfl
  isAboveBottom_of_less _ := rfl
  less_of_isAboveBottom _ h _ := by cases h

/-- Scalars that stand for rational numbers and are computed with without rounding. -/
structure IsExact
    {α : Type}
    [Scalar α]
    (value : α → Rat) : Prop where
  injective : Function.Injective value
  value_add : ∀ a b, value (a + b) = value a + value b
  value_sub : ∀ a b, value (a - b) = value a - value b
  value_div : ∀ a b, value (a / b) = value a / value b
  value_divisor : ∀ {n m}, divisor? n = some m → value m = n

/-- Rational numbers stand for themselves. -/
theorem isExact_id :
    IsExact (id : Rat → Rat) where
  injective := Function.injective_id
  value_add _ _ := rfl
  value_sub _ _ := rfl
  value_div _ _ := rfl
  value_divisor h := (Option.some.inj h).symm

end Scalar

section Nearest

open Number

variable {a b : Rat}

/-- A number is as far from its nearest whole number as their magnitudes are from each other. -/
theorem abs_nearestToRat_sub
    (q : Rat) :
    |(nearestToRat q : Rat) - q|
      = |(roundHalfEven q.num.natAbs q.den : Rat) - q.num.natAbs / q.den| := by
  have hq : q = q.num / q.den := (Rat.num_div_den q).symm
  have hnum : (q.num.natAbs : Rat) = |(q.num : Rat)| := by
    rw [Nat.cast_natAbs, Int.cast_abs]
  unfold nearestToRat
  generalize roundHalfEven q.num.natAbs q.den = n
  by_cases hneg : q.num < 0
  · have hmagnitude : |(q.num : Rat)| = -q.num := abs_of_neg (by exact_mod_cast hneg)
    simp only [Exact.signed, hneg, decide_true, if_true, Int.cast_neg, Int.cast_natCast]
    rw [hnum, hmagnitude, neg_div, ← hq, ← abs_neg]
    ring_nf
  · have hmagnitude : |(q.num : Rat)| = q.num :=
      abs_of_nonneg (by exact_mod_cast not_lt.mp hneg)
    simp only [Exact.signed, hneg, decide_false, Bool.false_eq_true, if_false, Int.cast_natCast]
    rw [hnum, hmagnitude, ← hq]

/-- A number and its nearest whole number differ by one half at most. -/
theorem abs_nearestToRat_sub_le
    (q : Rat) :
    |(nearestToRat q : Rat) - q| ≤ 1 / 2 := by
  have hden : (0 : Rat) < q.den := by exact_mod_cast q.den_pos
  have habove := two_mul_le_of_roundHalfEven q.num.natAbs q.den
  have hbelow := le_two_mul_of_roundHalfEven q.num.natAbs q.den_pos
  rw [abs_nearestToRat_sub]
  generalize roundHalfEven q.num.natAbs q.den = n at habove hbelow ⊢
  have habove : 2 * ((n : Rat) * q.den) ≤ 2 * q.num.natAbs + q.den := by exact_mod_cast habove
  have hbelow : 2 * (q.num.natAbs : Rat) ≤ 2 * (n * q.den) + q.den := by exact_mod_cast hbelow
  rw [abs_le, le_sub_iff_add_le, sub_le_iff_le_add, ← le_sub_iff_add_le', div_le_iff₀ hden,
    ← sub_le_iff_le_add', le_div_iff₀ hden]
  constructor <;> linarith

/-- A nearest whole number that is off by one half is even. -/
theorem even_nearestToRat
    {q : Rat}
    (h : |(nearestToRat q : Rat) - q| = 1 / 2) :
    Even (nearestToRat q) := by
  have hden : (q.den : Rat) ≠ 0 := by exact_mod_cast q.den_nz
  have heven := roundHalfEven_mod_two q.num.natAbs q.den_pos
  rw [abs_nearestToRat_sub] at h
  unfold nearestToRat
  generalize roundHalfEven q.num.natAbs q.den = n at heven h ⊢
  have hn : n % 2 = 0 := by
    refine heven ?_
    rcases (abs_eq (by norm_num)).mp h with hhalf | hhalf <;> field_simp at hhalf
    · have hsides : (2 * (n * q.den) : Rat) = 2 * q.num.natAbs + q.den := by linarith
      exact .inl (by exact_mod_cast hsides)
    · have hsides : (2 * q.num.natAbs : Rat) = 2 * (n * q.den) + q.den := by linarith
      exact .inr (by exact_mod_cast hsides)
  have hn : Even (n : Int) := by exact_mod_cast Nat.even_iff.mpr hn
  unfold Exact.signed
  split
  · exact hn.neg
  · exact hn

/-- A whole number is the nearest one to itself. -/
@[simp]
theorem nearestToRat_intCast
    (n : Int) :
    nearestToRat n = n := by
  obtain ⟨hlow, hhigh⟩ := abs_le.mp (abs_nearestToRat_sub_le n)
  have hle : nearestToRat n < n + 1 := by
    have hlt : (nearestToRat n : Rat) < n + 1 := by linarith
    exact_mod_cast hlt
  have hge : n < nearestToRat n + 1 := by
    have hlt : (n : Rat) < nearestToRat n + 1 := by linarith
    exact_mod_cast hlt
  omega

/-- Rounding keeps the order: where it might not, the numbers lie on the same half. -/
theorem nearestToRat_mono
    (h : a ≤ b) :
    nearestToRat a ≤ nearestToRat b := by
  by_contra hlt
  have hgap : (nearestToRat b : Rat) + 1 ≤ nearestToRat a := by exact_mod_cast not_le.mp hlt
  obtain ⟨_, ha⟩ := abs_le.mp (abs_nearestToRat_sub_le a)
  obtain ⟨hb, _⟩ := abs_le.mp (abs_nearestToRat_sub_le b)
  obtain rfl : a = b := by linarith
  exact hlt le_rfl

/-- A whole number between two numbers is between their nearest whole numbers. -/
theorem nearestToRat_le_of_le
    {n : Int}
    (h : a ≤ n) :
    nearestToRat a ≤ n :=
  (nearestToRat_mono h).trans_eq (nearestToRat_intCast n)

theorem le_nearestToRat_of_le
    {n : Int}
    (h : (n : Rat) ≤ a) :
    n ≤ nearestToRat a :=
  (nearestToRat_intCast n).symm.trans_le (nearestToRat_mono h)

end Nearest
end Diorama
