/-!
# Rounding quotients

Every conversion between binary numbers, decimal texts and pixel positions ends in one step:
a quotient of two natural numbers is rounded to a natural number.  This module holds that step.

**Main statements.**
* `roundHalfEven_mul`: a whole quotient is kept.
* `two_mul_le_of_roundHalfEven` and `le_two_mul_of_roundHalfEven`: the result is within one half.
* `roundHalfEven_mod_two`: where it is off by one half, it is even.
-/

namespace Diorama
namespace Number

/-- The whole number nearest to `num / den`; of two equally near ones, the even one. -/
def roundHalfEven
    (num den : Nat) :
    Nat :=
  let quotient := num / den
  let twice := 2 * (num % den)
  if twice < den then quotient
  else if den < twice then quotient + 1
  else quotient + quotient % 2

@[simp]
theorem roundHalfEven_mul
    (q : Nat)
    {den : Nat}
    (hden : 0 < den) :
    roundHalfEven (q * den) den = q := by
  simp [roundHalfEven, Nat.mul_div_cancel q hden, hden]

/-- The result exceeds the quotient by one half at most. -/
theorem two_mul_le_of_roundHalfEven
    (num den : Nat) :
    2 * (roundHalfEven num den * den) ≤ 2 * num + den := by
  have hdiv := Nat.div_add_mod num den
  have hcomm : num / den * den = den * (num / den) := Nat.mul_comm _ _
  have hpar : num / den % 2 ≤ 1 := by omega
  unfold roundHalfEven
  simp only
  split
  · omega
  · split
    · rw [Nat.add_mul]
      omega
    · have hle : num / den % 2 * den ≤ 1 * den := Nat.mul_le_mul_right den hpar
      rw [Nat.add_mul]
      omega

/-- The result falls short of the quotient by one half at most. -/
theorem le_two_mul_of_roundHalfEven
    (num : Nat)
    {den : Nat}
    (hden : 0 < den) :
    2 * num ≤ 2 * (roundHalfEven num den * den) + den := by
  have hdiv := Nat.div_add_mod num den
  have hmod := Nat.mod_lt num hden
  have hcomm : num / den * den = den * (num / den) := Nat.mul_comm _ _
  unfold roundHalfEven
  simp only
  split
  · omega
  · split
    · rw [Nat.add_mul]
      omega
    · rw [Nat.add_mul]
      omega

/-- A result that is off by one half is even. -/
theorem roundHalfEven_mod_two
    (num : Nat)
    {den : Nat}
    (hden : 0 < den)
    (h : 2 * (roundHalfEven num den * den) = 2 * num + den
      ∨ 2 * num = 2 * (roundHalfEven num den * den) + den) :
    roundHalfEven num den % 2 = 0 := by
  have hdiv := Nat.div_add_mod num den
  have hmod := Nat.mod_lt num hden
  have hcomm : num / den * den = den * (num / den) := Nat.mul_comm _ _
  unfold roundHalfEven at h ⊢
  simp only at h ⊢
  split at h
  · omega
  · split at h
    · rw [Nat.add_mul] at h
      omega
    · rename_i hlow hhigh
      rw [if_neg hlow, if_neg hhigh]
      omega

end Number
end Diorama
