import Diorama.Number.Exact

/-!
# Values that are whole numbers

A value is a whole number if its mantissa times its power of two is one.  This is what cutting off
its fraction finds out by division.

**Main statement.**
* `isInteger_iff`: a value is a whole number if it has no fraction and is left by cutting it off.
-/

namespace Diorama
namespace Number
namespace Exact

/-- A value is the whole number `n`, with both sides multiplied out to whole numbers. -/
def IsInteger
    (n : Int) :
    Exact → Prop
  | .finite negative mantissa exponent =>
      signed negative (mantissa * Nat.pow 2 exponent.toNat) = n * Nat.pow 2 (-exponent).toNat
  | _ => False

theorem signed_mul
    (negative : Bool)
    (m d : Nat) :
    signed negative (m * d) = signed negative m * d := by
  cases negative with
  | false => exact Int.natCast_mul m d
  | true => exact (congrArg Neg.neg (Int.natCast_mul m d)).trans (Int.neg_mul _ _).symm

theorem natAbs_signed
    (negative : Bool)
    (m : Nat) :
    (signed negative m).natAbs = m := by
  cases negative <;> simp [signed]

theorem ratio_eq
    (mantissa : Nat)
    (exponent : Int) :
    ratio mantissa exponent
      = (mantissa * Nat.pow 2 exponent.toNat, Nat.pow 2 (-exponent).toNat) := by
  unfold ratio
  split
  · have hzero : (-exponent).toNat = 0 := by omega
    simp [hzero]
  · have hzero : exponent.toNat = 0 := by omega
    simp [hzero]

/-- A signed quotient is whole if its parts divide. -/
theorem signed_eq_mul_iff
    {d : Nat}
    (hd : 0 < d)
    (negative : Bool)
    (k : Nat)
    (n : Int) :
    signed negative k = n * d ↔ k % d = 0 ∧ signed negative (k / d) = n := by
  constructor
  · intro h
    have hk : k = n.natAbs * d := by
      have habs := congrArg Int.natAbs h
      rwa [natAbs_signed, Int.natAbs_mul, Int.natAbs_natCast] at habs
    have hdiv : k / d = n.natAbs := by rw [hk, Nat.mul_div_cancel _ hd]
    refine ⟨by rw [hk, Nat.mul_mod_left], ?_⟩
    rw [hk, signed_mul] at h
    rw [hdiv]
    exact Int.eq_of_mul_eq_mul_right (by omega) h
  · rintro ⟨hmod, rfl⟩
    rw [← signed_mul, Nat.div_mul_cancel (Nat.dvd_of_mod_eq_zero hmod)]

/-- A value is a whole number if it has no fraction and is left by cutting it off. -/
theorem isInteger_iff
    (n : Int)
    (x : Exact) :
    x.IsInteger n ↔ x.isWhole = true ∧ x.truncate = .ok n := by
  cases x with
  | notANumber => simp [IsInteger, isWhole]
  | infinite negative => simp [IsInteger, isWhole]
  | finite negative mantissa exponent =>
      simp only [IsInteger, isWhole, truncate, toInt, ratio_eq, beq_iff_eq, Except.ok.injEq]
      exact signed_eq_mul_iff (Nat.two_pow_pos _) negative _ n

end Exact
end Number
end Diorama
