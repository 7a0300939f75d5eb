import Diorama.Proofs.Number.FloatValue
import Mathlib.Tactic.FieldSimp

/-!
# Rounding to doubles

Every operation on doubles finds the leading bits of its exact result, and how the rest compares to
one half of the last bit.  What it returns from there is a representable number that no other
representable number is closer to.  Here the exponent of a representable number is not bounded from
above: what is too large for a double becomes an infinity when it is packed.

**Main statements.**
* `Nearest.le`, `Nearest.ge`: the nearest number stays on its side of representable ones.
* `rounded_roundWithAccuracy`: leading bits with their accuracy are rounded to the nearest number.
* `rounded_normalize`: so is any whole number times a power of two.
-/

namespace Diorama
namespace Double

open Float.Model (UnpackedFloat Format)
open Float.Model.UnpackedFloat (Sign Accuracy ExtendedMantissa)

/-! ## Nearest representable numbers -/

/-- The numbers that doubles stand for, and larger ones with as many bits. -/
inductive Representable
    (r : ℝ) :
    Prop
  | intro
      (k e : Int)
      (eq : r = k * 2 ^ e)
      (abs_le : |k| ≤ 2 ^ 53)
      (low : -1074 ≤ e)

/-- A representable number that none is closer than. -/
structure Nearest
    (r z : ℝ) : Prop where
  representable : Representable r
  closest : ∀ s, Representable s → |r - z| ≤ |s - z|

section Nearest

variable {r s z : ℝ} {e : Int}

theorem representable_zpow
    (he : -1074 ≤ e) :
    Representable (2 ^ e) :=
  ⟨1, e, by simp, by norm_num, he⟩

theorem representable_intCast
    {k : Int}
    (hk : |k| ≤ 2 ^ 53) :
    Representable k :=
  ⟨k, 0, by simp, hk, by decide⟩

theorem representable_zero :
    Representable 0 :=
  ⟨0, 0, by simp, by norm_num, by decide⟩

theorem Representable.neg
    (h : Representable r) :
    Representable (-r) := by
  obtain ⟨k, e, rfl, hk, he⟩ := h
  exact ⟨-k, e, by push_cast; ring, by rwa [abs_neg], he⟩

theorem nearest_self
    (h : Representable r) :
    Nearest r r where
  representable := h
  closest s _ := by
    rw [sub_self, abs_zero]
    exact abs_nonneg _

theorem Nearest.neg
    (h : Nearest r z) :
    Nearest (-r) (-z) where
  representable := h.representable.neg
  closest s hs := by
    have hclosest := h.closest (-s) hs.neg
    rw [← abs_neg, ← abs_neg (-s - z)] at hclosest
    convert hclosest using 2 <;> ring

theorem Nearest.signum_mul
    (h : Nearest r z)
    (s : Sign) :
    Nearest (signum s * r) (signum s * z) := by
  cases s with
  | positive => simpa [signum] using h
  | negative => simpa [signum] using h.neg

/-- What is at most a representable number is rounded to at most that number. -/
theorem Nearest.le
    (h : Nearest r z)
    (hs : Representable s)
    (hz : z ≤ s) :
    r ≤ s := by
  by_contra hlt
  have hclosest := h.closest s hs
  rw [abs_of_nonneg (by linarith), abs_of_nonneg (by linarith)] at hclosest
  linarith

theorem Nearest.ge
    (h : Nearest r z)
    (hs : Representable s)
    (hz : s ≤ z) :
    s ≤ r := by
  have hneg := h.neg.le hs.neg (neg_le_neg hz)
  linarith

theorem Nearest.bounded
    (h : Nearest r z)
    (hs : Representable s)
    (hz : |z| ≤ s) :
    |r| ≤ s := by
  obtain ⟨hlow, hhigh⟩ := abs_le.mp hz
  exact abs_le.mpr ⟨h.ge hs.neg hlow, h.le hs hhigh⟩

theorem Nearest.eq
    (h : Nearest r z)
    (hz : Representable z) :
    r = z :=
  le_antisymm (h.le hz le_rfl) (h.ge hz le_rfl)

theorem abs_sub_le_of_half
    {k n : Int}
    {t : ℝ}
    (h : |(k : ℝ) - t| ≤ 1 / 2) :
    |(k : ℝ) - t| ≤ |(n : ℝ) - t| := by
  rcases eq_or_ne n k with rfl | hne
  · exact le_rfl
  · have hgap : (1 : ℝ) ≤ |(n : ℝ) - k| := by
      exact_mod_cast Int.one_le_abs (sub_ne_zero.mpr hne)
    have htriangle := abs_sub_le (n : ℝ) t k
    rw [abs_sub_comm t] at htriangle
    linarith

/-- On the grid of some exponent, the nearest point is the nearest representable number: there are
finer numbers only below all that has 53 bits on the grid. -/
theorem nearest_of_grid
    {k : Nat}
    {t : ℝ}
    (he : -1074 ≤ e)
    (hk : k ≤ 2 ^ 53)
    (hhalf : |(k : ℝ) - t| ≤ 1 / 2)
    (hfull : e = -1074 ∨ 2 ^ 52 ≤ t) :
    Nearest (k * 2 ^ e) (t * 2 ^ e) := by
  have hgrid (n : Int) : |(k * 2 ^ e : ℝ) - t * 2 ^ e| ≤ |(n * 2 ^ e : ℝ) - t * 2 ^ e| := by
    have hinteger : |((k : Int) : ℝ) - t| ≤ |(n : ℝ) - t| :=
      abs_sub_le_of_half (by exact_mod_cast hhalf)
    rw [← sub_mul, ← sub_mul, abs_mul, abs_mul]
    exact mul_le_mul_of_nonneg_right (by exact_mod_cast hinteger) (abs_nonneg _)
  refine ⟨⟨k, e, by push_cast; rfl, ?_, he⟩, ?_⟩
  · rw [Nat.abs_cast]
    exact_mod_cast hk
  · rintro s ⟨n, f, rfl, hn, hf⟩
    rcases le_or_gt e f with hle | hlt
    · obtain ⟨d, rfl⟩ : ∃ d : Nat, f = d + e := ⟨(f - e).toNat, by omega⟩
      have hon : (n * 2 ^ ((d : Int) + e) : ℝ) = (n * 2 ^ d : Int) * 2 ^ e := by
        rw [zpow_add₀ two_ne_zero, zpow_natCast]
        push_cast
        ring
      rw [hon]
      exact hgrid _
    · have ht := hfull.resolve_left (by omega)
      have hn : (n : ℝ) ≤ 2 ^ 53 := by exact_mod_cast (le_abs_self n).trans hn
      have hbelow : (n * 2 ^ f : ℝ) ≤ 2 ^ 52 * 2 ^ e := by
        calc
          (n * 2 ^ f : ℝ) ≤ 2 ^ 53 * 2 ^ f := mul_le_mul_of_nonneg_right hn (two_zpow_pos f).le
          _ = 2 ^ 52 * 2 ^ (f + 1) := by
              rw [zpow_add_one₀ two_ne_zero]
              ring
          _ ≤ 2 ^ 52 * 2 ^ e :=
              mul_le_mul_of_nonneg_left (zpow_le_zpow_right₀ one_le_two hlt) (by positivity)
      have habove : (2 ^ 52 * 2 ^ e : ℝ) ≤ t * 2 ^ e :=
        mul_le_mul_of_nonneg_right ht (two_zpow_pos e).le
      have hfull : |(2 ^ 52 * 2 ^ e : ℝ) - t * 2 ^ e| = t * 2 ^ e - 2 ^ 52 * 2 ^ e := by
        rw [abs_sub_comm, abs_of_nonneg (by linarith)]
      have hfine : |(n * 2 ^ f : ℝ) - t * 2 ^ e| = t * 2 ^ e - n * 2 ^ f := by
        rw [abs_sub_comm, abs_of_nonneg (by linarith)]
      have hpoint := hgrid (2 ^ 52)
      rw [Int.cast_pow, Int.cast_ofNat, hfull] at hpoint
      rw [hfine]
      linarith

end Nearest

/-! ## Leading bits -/

/-- The worth of the bit after the last one of a mantissa. -/
noncomputable def halfBit
    (b : Bool) :
    ℝ :=
  if b then 1 / (2 : Nat) else 0

/-- A number with the bits of a mantissa, the bit that follows them, and anything or nothing else. -/
def Holds : ExtendedMantissa → ℝ → Prop
  | ⟨m, round, false⟩, t => t = m + halfBit round
  | ⟨m, round, true⟩, t => m + halfBit round < t ∧ t < m + halfBit round + halfBit true

section Bits

variable {bits : ExtendedMantissa} {t : ℝ}

theorem halfBit_true :
    halfBit true = 1 / 2 :=
  rfl

theorem halfBit_false :
    halfBit false = 0 :=
  rfl

theorem halfBit_mod_two
    (m : Nat) :
    halfBit (m % 2 != 0) = (m % 2 : Nat) / 2 := by
  rcases Nat.mod_two_eq_zero_or_one m with h | h <;> simp [halfBit, h]

/-- Dropping the last bit of a mantissa halves the number. -/
theorem Holds.shiftRightOne
    (h : Holds bits t) :
    Holds bits.shiftRightOne (t / 2) := by
  obtain ⟨m, round, sticky⟩ := bits
  have hdiv : (m : ℝ) = 2 * (m / 2 : Nat) + (m % 2 : Nat) := by
    exact_mod_cast (Nat.div_add_mod m 2).symm
  cases round <;> cases sticky <;>
    simp only [Holds, ExtendedMantissa.shiftRightOne, Bool.or_false, Bool.or_true,
      halfBit_mod_two, halfBit_true, halfBit_false] at h ⊢
  · linarith
  · constructor <;> linarith
  · constructor <;> linarith
  · constructor <;> linarith

theorem Holds.shiftRight
    (h : Holds bits t)
    (n : Nat) :
    Holds (bits >>> n) (t / 2 ^ n) := by
  change Holds (n.repeat ExtendedMantissa.shiftRightOne bits) _
  induction n with
  | zero => simpa [Nat.repeat] using h
  | succ n ih =>
      rw [pow_succ, ← div_div]
      exact ih.shiftRightOne

theorem mantissa_shiftRight
    (bits : ExtendedMantissa)
    (n : Nat) :
    (bits >>> n).mantissa = bits.mantissa / 2 ^ n := by
  change (n.repeat ExtendedMantissa.shiftRightOne bits).mantissa = _
  induction n with
  | zero => exact (Nat.div_one _).symm
  | succ n ih =>
      change (n.repeat ExtendedMantissa.shiftRightOne bits).mantissa / 2 = _
      rw [ih, Nat.div_div_eq_div_mul, pow_succ]

theorem Holds.mantissa_le
    (h : Holds bits t) :
    (bits.mantissa : ℝ) ≤ t := by
  obtain ⟨m, round, sticky⟩ := bits
  cases round <;> cases sticky <;>
    simp only [Holds, halfBit_true, halfBit_false] at h <;> linarith

/-- The rounded mantissa is a nearest whole number. -/
theorem Holds.abs_rounded_sub_le
    (h : Holds bits t) :
    |(bits.roundedMantissa : ℝ) - t| ≤ 1 / 2 := by
  obtain ⟨m, round, sticky⟩ := bits
  have hpar : ((m % 2 : Nat) : ℝ) ≤ 1 := by exact_mod_cast Nat.le_of_lt_succ (Nat.mod_lt m two_pos)
  have hnonneg : (0 : ℝ) ≤ (m % 2 : Nat) := Nat.cast_nonneg _
  cases round <;> cases sticky <;>
    simp only [Holds, halfBit_true, halfBit_false] at h <;>
    simp only [ExtendedMantissa.roundedMantissa, ExtendedMantissa.accuracy,
      Accuracy.roundToNearestEven, abs_le, Nat.cast_add, Nat.cast_one] <;>
    constructor <;> linarith

theorem rounded_bounds
    (bits : ExtendedMantissa) :
    bits.mantissa ≤ bits.roundedMantissa ∧ bits.roundedMantissa ≤ bits.mantissa + 1 := by
  obtain ⟨m, round, sticky⟩ := bits
  cases round <;> cases sticky <;>
    simp only [ExtendedMantissa.roundedMantissa, ExtendedMantissa.accuracy,
      Accuracy.roundToNearestEven] <;> omega

end Bits

/-! ## Rounding -/

/-- The exponent that a number with the leading bits `m * 2 ^ e` has in a double. -/
def target
    (m : Nat)
    (e : Int) :
    Int :=
  max (m.log2 + 1 + e - 53) (-1074)

/-- An unpacked double that is a nearest representable number. -/
structure Rounded
    (u : UnpackedFloat)
    (z : ℝ) : Prop where
  finite : u.isFinite = true
  canonical : IsCanonical u
  nearest : Nearest (unpackedValue u) z

section Rounding

variable {m : Nat} {e : Int} {accuracy : Accuracy} {t : ℝ} {s : Sign}

theorem targetExponent_eq
    (m : Nat)
    (e : Int) :
    Format.binary64.targetExponent (Float.Model.totalExponent m e) = target m e :=
  rfl

theorem shiftToTargetExponent_eq
    (he : e ≤ target m e) :
    UnpackedFloat.shiftToTargetExponent Format.binary64 m e accuracy
      = (ExtendedMantissa.ofMantissaAndAccuracy m accuracy >>> (target m e - e).toNat,
        target m e) := by
  unfold UnpackedFloat.shiftToTargetExponent UnpackedFloat.shiftToExponent
  rw [targetExponent_eq]
  simp only [Prod.mk.injEq, true_and]
  omega

/-- The leading bits at the target exponent, and how they fill their 53 places. -/
theorem shifted_bounds
    (he : e ≤ target m e) :
    m / 2 ^ (target m e - e).toNat < 2 ^ 53
      ∧ (target m e = -1074 ∨ 2 ^ 52 ≤ m / 2 ^ (target m e - e).toNat) := by
  obtain ⟨d, hd⟩ : ∃ d : Nat, target m e - e = d := ⟨(target m e - e).toNat, by omega⟩
  rw [hd, Int.toNat_natCast]
  have htarget := hd
  unfold target at htarget
  constructor
  · have hlt : m < 2 ^ (m.log2 + 1) := Nat.lt_log2_self
    rw [Nat.div_lt_iff_lt_mul (Nat.two_pow_pos d), ← pow_add]
    exact hlt.trans_le (Nat.pow_le_pow_right two_pos (by omega))
  · by_cases hlow : target m e = -1074
    · exact .inl hlow
    · right
      have hlog : 52 + d = m.log2 := by
        unfold target at hlow
        omega
      have hm : m ≠ 0 := by
        rintro rfl
        simp at hlog
      rw [Nat.le_div_iff_mul_le (Nat.two_pow_pos d), ← pow_add, hlog]
      exact Nat.log2_self_le hm

theorem mantissa_ofMantissaAndAccuracy
    (m : Nat)
    (accuracy : Accuracy) :
    (ExtendedMantissa.ofMantissaAndAccuracy m accuracy).mantissa = m := by
  rcases accuracy with _ | (_ | _ | _) <;> rfl

/-- A mantissa that already fills its places is kept, up to one bit more than 53. -/
theorem shiftToTargetExponent_full
    {k : Nat}
    (hk : k ≤ 2 ^ 53)
    (he : -1074 ≤ e)
    (hfull : e = -1074 ∨ 2 ^ 52 ≤ k) :
    ∃ bits f, UnpackedFloat.shiftToTargetExponent Format.binary64 k e .exact = (bits, f)
      ∧ (bits.mantissa * 2 ^ f : ℝ) = k * 2 ^ e
      ∧ Canonical bits.mantissa f := by
  rcases hk.lt_or_eq with hlt | rfl
  · have htarget : target k e = e := by
      unfold target
      rcases Nat.eq_zero_or_pos k with rfl | hpos
      · simp at hfull ⊢
        omega
      · have hlog : k.log2 < 53 := (Nat.log2_lt hpos.ne').mpr hlt
        rcases hfull with rfl | hfull
        · omega
        · have hlog' : 52 ≤ k.log2 := (Nat.le_log2 hpos.ne').mpr hfull
          omega
    have hzero : (target k e - e).toNat = 0 := by omega
    refine ⟨_, _, shiftToTargetExponent_eq htarget.ge, ?_, ?_⟩ <;>
      rw [mantissa_shiftRight, mantissa_ofMantissaAndAccuracy, hzero, pow_zero, Nat.div_one, htarget]
    exact ⟨hlt, he, hfull.symm⟩
  · have hlog : (2 ^ 53 : Nat).log2 = 53 := Nat.log2_two_pow
    have htarget : target (2 ^ 53) e = e + 1 := by
      unfold target
      rw [hlog]
      omega
    have hone : (target (2 ^ 53) e - e).toNat = 1 := by omega
    refine ⟨_, _, shiftToTargetExponent_eq (by omega), ?_, ?_⟩ <;>
      rw [mantissa_shiftRight, mantissa_ofMantissaAndAccuracy, hone, htarget]
    · rw [zpow_add_one₀ two_ne_zero]
      norm_num
      ring
    · exact ⟨by norm_num, by omega, .inl (by norm_num)⟩

/-- Leading bits are rounded to the nearest representable number. -/
theorem rounded_roundWithAccuracy
    (he : e ≤ target m e)
    (h : Holds (ExtendedMantissa.ofMantissaAndAccuracy m accuracy) t) :
    Rounded (UnpackedFloat.roundWithAccuracy Format.binary64 s m e accuracy)
      (signum s * (t * 2 ^ e)) := by
  obtain ⟨d, hd⟩ : ∃ d : Nat, target m e = e + d := ⟨(target m e - e).toNat, by omega⟩
  have hshift : (target m e - e).toNat = d := by omega
  obtain ⟨hsmall, hfull⟩ := shifted_bounds he
  rw [hshift] at hsmall hfull
  have hlow : -1074 ≤ target m e := le_max_right _ _
  have hbits := h.shiftRight d
  have hmantissa : (ExtendedMantissa.ofMantissaAndAccuracy m accuracy >>> d).mantissa = m / 2 ^ d := by
    rw [mantissa_shiftRight, mantissa_ofMantissaAndAccuracy]
  obtain ⟨hge, hle⟩ := rounded_bounds (ExtendedMantissa.ofMantissaAndAccuracy m accuracy >>> d)
  have hunfold : UnpackedFloat.roundWithAccuracy Format.binary64 s m e accuracy
      = (let (bits, f) := UnpackedFloat.shiftToTargetExponent Format.binary64
          (ExtendedMantissa.ofMantissaAndAccuracy m accuracy >>> d).roundedMantissa (target m e) .exact
        if h : bits.mantissa = 0 then .zero s
        else .finite s bits.mantissa f (Nat.pos_of_ne_zero h)) := by
    unfold UnpackedFloat.roundWithAccuracy
    rw [shiftToTargetExponent_eq he, hshift]
  have hnearest : Nearest
      ((ExtendedMantissa.ofMantissaAndAccuracy m accuracy >>> d).roundedMantissa * 2 ^ target m e)
      (t / 2 ^ d * 2 ^ target m e) := by
    refine nearest_of_grid hlow (by omega) hbits.abs_rounded_sub_le (hfull.imp_right fun hfull => ?_)
    have hmantissa := hmantissa ▸ hbits.mantissa_le
    exact le_trans (by exact_mod_cast hfull) hmantissa
  obtain ⟨bits, f, hfinal, hvalue, hcanonical⟩ := shiftToTargetExponent_full
    (show (ExtendedMantissa.ofMantissaAndAccuracy m accuracy >>> d).roundedMantissa ≤ 2 ^ 53 by omega)
    hlow (hfull.imp_right fun hfull => by omega)
  have hscale : (t / 2 ^ d * 2 ^ target m e : ℝ) = t * 2 ^ e := by
    rw [hd, zpow_add₀ two_ne_zero, zpow_natCast]
    field_simp
  rw [← hvalue, hscale] at hnearest
  have hresult : UnpackedFloat.roundWithAccuracy Format.binary64 s m e accuracy
      = if h : bits.mantissa = 0 then .zero s
        else .finite s bits.mantissa f (Nat.pos_of_ne_zero h) := by
    rw [hunfold, hfinal]
  rw [hresult]
  by_cases hzero : bits.mantissa = 0
  · rw [dif_pos hzero]
    rw [hzero, Nat.cast_zero, zero_mul] at hnearest
    refine ⟨rfl, trivial, ?_⟩
    rw [unpackedValue_zero, ← mul_zero (signum s)]
    exact hnearest.signum_mul s
  · rw [dif_neg hzero]
    exact ⟨rfl, hcanonical, hnearest.signum_mul s⟩

theorem holds_exact
    (m : Nat) :
    Holds (ExtendedMantissa.ofMantissaAndAccuracy m .exact) m := by
  simp [ExtendedMantissa.ofMantissaAndAccuracy, Holds, halfBit_false]

theorem decreaseExponent_value
    (m : Nat)
    (e f : Int) :
    ((UnpackedFloat.decreaseExponent m e f).1 * 2 ^ (UnpackedFloat.decreaseExponent m e f).2 : ℝ)
      = m * 2 ^ e := by
  unfold UnpackedFloat.decreaseExponent
  simp only [Nat.shiftLeft_eq, Nat.cast_mul, Nat.cast_pow, Nat.cast_ofNat]
  generalize (e - f).toNat = d
  rw [zpow_sub₀ two_ne_zero, zpow_natCast]
  field_simp

theorem log2_mul_two_pow
    (hm : 0 < m)
    (d : Nat) :
    (m * 2 ^ d).log2 = m.log2 + d := by
  rw [Nat.log2_eq_iff (Nat.mul_pos hm (Nat.two_pow_pos d)).ne']
  have hlow := Nat.mul_le_mul_right (2 ^ d) (Nat.log2_self_le hm.ne')
  have hhigh := Nat.mul_lt_mul_of_pos_right (Nat.lt_log2_self (n := m)) (Nat.two_pow_pos d)
  rw [← pow_add] at hlow hhigh
  exact ⟨hlow, by rwa [Nat.add_right_comm]⟩

/-- Any natural number times a power of two is rounded to the nearest representable number. -/
theorem rounded_round
    (hm : 0 < m)
    (s : Sign)
    (e : Int) :
    Rounded (UnpackedFloat.round Format.binary64 s m e) (signum s * (m * 2 ^ e)) := by
  rw [← decreaseExponent_value m e (target m e)]
  have hfits : (UnpackedFloat.decreaseExponent m e (target m e)).2
      ≤ target (UnpackedFloat.decreaseExponent m e (target m e)).1
        (UnpackedFloat.decreaseExponent m e (target m e)).2 := by
    unfold UnpackedFloat.decreaseExponent
    simp only [Nat.shiftLeft_eq]
    generalize hd : (e - target m e).toNat = d
    have hlog : (m * 2 ^ d).log2 = m.log2 + d := log2_mul_two_pow hm d
    unfold target at hd ⊢
    rw [hlog]
    omega
  exact rounded_roundWithAccuracy hfits (holds_exact _)

/-- Any whole number times a power of two is rounded to the nearest representable number. -/
theorem rounded_normalize
    (n e : Int)
    (s : Sign) :
    Rounded (UnpackedFloat.normalize Format.binary64 n e s) (n * 2 ^ e) := by
  unfold UnpackedFloat.normalize
  split
  · rename_i hneg
    have hneg := Int.compare_eq_lt.mp hneg
    obtain ⟨k, rfl⟩ : ∃ k : Nat, n = -(k : Int) := ⟨n.natAbs, by omega⟩
    rw [neg_neg, Int.toNat_natCast]
    simpa [signum] using rounded_round (by omega : 0 < k) .negative e
  · rename_i hzero
    obtain rfl := Int.compare_eq_eq.mp hzero
    refine ⟨rfl, trivial, ?_⟩
    rw [unpackedValue_zero, Int.cast_zero, zero_mul]
    exact nearest_self representable_zero
  · rename_i hpos
    have hpos := Int.compare_eq_gt.mp hpos
    obtain ⟨k, rfl⟩ : ∃ k : Nat, n = k := ⟨n.natAbs, by omega⟩
    rw [Int.toNat_natCast]
    simpa [signum] using rounded_round (by omega : 0 < k) .positive e

end Rounding

end Double
end Diorama
