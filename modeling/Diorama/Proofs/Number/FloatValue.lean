import Diorama.Proofs.Number.FloatOrder
import Diorama.Proofs.Number.Whole
import Mathlib.Algebra.Order.Field.Power
import Mathlib.Data.Real.Basic
import Mathlib.Tactic.Linarith
import Mathlib.Tactic.NormNum
import Mathlib.Tactic.Positivity
import Mathlib.Tactic.Ring

/-!
# The values of doubles

A finite double stands for a real number: its mantissa times a power of two.  In a double the
mantissa has 53 bits, or fewer where the exponent is the smallest one.  This makes comparing doubles
the same as comparing values, and it is what survives the packing of a double into its bits.

**Main statements.**
* `unpack_pack`: what is packed is found again, or an infinity in place of what is too large.
* `canonical_unpack`: every double has a mantissa of 53 bits, or the smallest exponent.
* `less_iff_value`, `same_iff_value`: finite doubles are compared by value.
-/

namespace Diorama
namespace Double

open Float.Model (UnpackedFloat Format)
open Float.Model.UnpackedFloat (Sign)

/-! ## Values -/

/-- One, with a sign. -/
noncomputable def signum : Sign → ℝ
  | .positive => 1
  | .negative => -1

/-- The number that an unpacked double stands for, if it is finite. -/
noncomputable def unpackedValue : UnpackedFloat → ℝ
  | .finite s m e _ => signum s * (m * (2 : Nat) ^ e)
  | _ => 0

/-- The number that a double stands for, if it is finite. -/
noncomputable def value
    (x : Float) :
    ℝ :=
  unpackedValue x.toModel.unpack

theorem unpackedValue_finite
    {s : Sign}
    {m : Nat}
    {e : Int}
    (hm : 0 < m) :
    unpackedValue (.finite s m e hm) = signum s * (m * 2 ^ e) :=
  rfl

theorem unpackedValue_zero
    (s : Sign) :
    unpackedValue (.zero s) = 0 :=
  rfl

theorem unpackedValue_positive
    {m : Nat}
    {e : Int}
    (hm : 0 < m) :
    unpackedValue (.finite .positive m e hm) = m * 2 ^ e :=
  one_mul _

theorem unpackedValue_negative
    {m : Nat}
    {e : Int}
    (hm : 0 < m) :
    unpackedValue (.finite .negative m e hm) = -(m * 2 ^ e) :=
  neg_one_mul _

theorem abs_signum
    (s : Sign) :
    |signum s| = 1 := by
  cases s <;> norm_num [signum]

theorem two_zpow_pos
    (e : Int) :
    (0 : ℝ) < 2 ^ e :=
  zpow_pos two_pos e

/-! ## Packing -/

/-- A mantissa of 53 bits, or of fewer bits with the smallest exponent. -/
structure Canonical
    (m : Nat)
    (e : Int) : Prop where
  small : m < 2 ^ 53
  low : -1074 ≤ e
  normal : 2 ^ 52 ≤ m ∨ e = -1074

/-- An unpacked double in the form that bits can hold, but for the size of its exponent. -/
def IsCanonical : UnpackedFloat → Prop
  | .finite _ m e _ => Canonical m e
  | _ => True

/-- What the bits of a double hold: infinity in place of a number with too large an exponent. -/
def held : UnpackedFloat → UnpackedFloat
  | .finite s m e h => if 972 ≤ e then .infinity s else .finite s m e h
  | u => u

theorem held_of_lt
    {s : Sign}
    {m : Nat}
    {e : Int}
    {hm : 0 < m}
    (he : e < 972) :
    held (.finite s m e hm) = .finite s m e hm :=
  if_neg (not_le.mpr he)

theorem held_of_le
    {s : Sign}
    {m : Nat}
    {e : Int}
    {hm : 0 < m}
    (he : 972 ≤ e) :
    held (.finite s m e hm) = .infinity s :=
  if_pos he

theorem finite_eq
    {s : Sign}
    {m n : Nat}
    {e f : Int}
    {hm : 0 < m}
    {hn : 0 < n}
    (hmantissa : m = n)
    (hexponent : e = f) :
    UnpackedFloat.finite s m e hm = .finite s n f hn := by
  subst hmantissa hexponent
  rfl

section Packing

theorem unpackSign_packComponents
    (spec : Format)
    (s : Sign)
    (exponent : BitVec spec.exponentBits)
    (mantissa : BitVec spec.mantissaBitsWithoutImplicit) :
    Sign.ofBitVec (UnpackedFloat.unpackSign (UnpackedFloat.packComponents spec s exponent mantissa))
      = s := by
  have hbits : UnpackedFloat.unpackSign (UnpackedFloat.packComponents spec s exponent mantissa)
      = s.toBitVec := by
    apply BitVec.eq_of_getLsbD_eq
    intro i hi
    obtain rfl : i = 0 := by omega
    change (BitVec.cast _ (BitVec.extractLsb (spec.mantissaBitsWithoutImplicit + spec.exponentBits)
      (spec.mantissaBitsWithoutImplicit + spec.exponentBits)
      (s.toBitVec ++ exponent ++ mantissa))).getLsbD 0 = s.toBitVec.getLsbD 0
    simp [BitVec.getLsbD_append, BitVec.getElem_append]
  rw [hbits]
  cases s <;> rfl

theorem toNat_one_append
    (mantissa : BitVec 52) :
    (1#1 ++ mantissa).toNat = 2 ^ 52 + mantissa.toNat := by
  rw [BitVec.toNat_append, ← Nat.shiftLeft_add_eq_or_of_lt mantissa.isLt]
  simp [Nat.shiftLeft_eq]

variable {s : Sign} {exponent : BitVec 11} {mantissa : BitVec 52}

/-- Bits whose exponent is neither all zeros nor all ones are those of a mantissa of 53 bits. -/
theorem unpack_normal
    (hzero : exponent ≠ 0#11)
    (hones : exponent ≠ -1#11) :
    UnpackedFloat.unpack Format.binary64
        (UnpackedFloat.packComponents Format.binary64 s exponent mantissa)
      = .finite s (1#1 ++ mantissa).toNat (exponent.toNat - 1075) (by
          rw [toNat_one_append]
          omega) := by
  have hsign := unpackSign_packComponents Format.binary64 s exponent mantissa
  have hexponent :=
    @UnpackedFloat.unpackExponent_packComponents Format.binary64 s exponent mantissa
  have hmantissa :=
    @UnpackedFloat.unpackMantissa_packComponents Format.binary64 s exponent mantissa
  generalize UnpackedFloat.packComponents Format.binary64 s exponent mantissa = bits at *
  subst hsign hexponent hmantissa
  exact (if_neg hones).trans (if_neg hzero)

theorem unpack_subnormal
    (hmantissa : mantissa ≠ 0#52) :
    UnpackedFloat.unpack Format.binary64
        (UnpackedFloat.packComponents Format.binary64 s 0#11 mantissa)
      = .finite s mantissa.toNat (-1074) (by
          simpa [BitVec.toNat_pos, BitVec.pos_iff_ne_zero]) := by
  have hsign := unpackSign_packComponents Format.binary64 s 0#11 mantissa
  have hexponent := @UnpackedFloat.unpackExponent_packComponents Format.binary64 s 0#11 mantissa
  have hsame := @UnpackedFloat.unpackMantissa_packComponents Format.binary64 s 0#11 mantissa
  generalize UnpackedFloat.packComponents Format.binary64 s 0#11 mantissa = bits at *
  subst hsign hsame
  have hones : UnpackedFloat.unpackExponent bits ≠ -1#11 := by
    rw [hexponent]
    decide
  refine (if_neg hones).trans ((if_pos hexponent).trans ((dif_neg hmantissa).trans ?_))
  exact finite_eq rfl (by rw [hexponent]; rfl)

theorem unpack_infinity :
    UnpackedFloat.unpack Format.binary64 (UnpackedFloat.packedInfinity Format.binary64 s)
      = .infinity s := by
  have hsign := unpackSign_packComponents Format.binary64 s (-1#11) 0#52
  exact ((if_pos UnpackedFloat.unpackExponent_packComponents).trans
    (if_pos UnpackedFloat.unpackMantissa_packComponents)).trans (congrArg _ hsign)

end Packing

/-- What is packed is found again, unless it is too large. -/
theorem unpack_pack
    {u : UnpackedFloat}
    (hu : IsCanonical u) :
    (Float.Model.pack u).unpack = held u := by
  change UnpackedFloat.unpack Format.binary64 (UnpackedFloat.pack Format.binary64 u) = held u
  cases u with
  | notANumber => rfl
  | infinity s => exact unpack_infinity
  | zero s => cases s <;> rfl
  | finite s m e hm =>
      obtain ⟨hsmall, hlow, hnormal⟩ := hu
      obtain ⟨b, hb⟩ : ∃ b : Nat, (b : Int) = e + 1075 := ⟨(e + 1075).toNat, by omega⟩
      have hpack : UnpackedFloat.pack Format.binary64 (.finite s m e hm)
          = if 2 ^ 11 ≤ b + 1 then UnpackedFloat.packedInfinity Format.binary64 s
            else if m.log2 + 1 = 53 then
              UnpackedFloat.packComponents Format.binary64 s (BitVec.ofNat 11 b) (BitVec.ofNat 52 m)
            else UnpackedFloat.packComponents Format.binary64 s 0#11 (BitVec.ofNat 52 m) := by
        have hbiased : (e + (1023 : Nat) + (52 : Nat)).toNat = b := by omega
        rw [← hbiased]
        rfl
      rw [hpack]
      by_cases hlarge : 972 ≤ e
      · rw [held_of_le hlarge, if_pos (by omega)]
        exact unpack_infinity
      · rw [held_of_lt (by omega), if_neg (by omega)]
        by_cases hm' : 2 ^ 52 ≤ m
        · have hlog : m.log2 = 52 := (Nat.log2_eq_iff hm.ne').mpr ⟨hm', hsmall⟩
          have hexponent : (BitVec.ofNat 11 b).toNat = b := by
            rw [BitVec.toNat_ofNat, Nat.mod_eq_of_lt (by omega)]
          have hmantissa : (1#1 ++ BitVec.ofNat 52 m).toNat = m := by
            rw [toNat_one_append, BitVec.toNat_ofNat]
            omega
          rw [if_pos (by omega), unpack_normal]
          · exact finite_eq hmantissa (by omega)
          · intro hzero
            rw [hzero] at hexponent
            simp at hexponent
            omega
          · intro hones
            rw [hones] at hexponent
            simp at hexponent
            omega
        · have hexponent : e = -1074 := hnormal.resolve_left hm'
          have hlog : m.log2 < 52 := (Nat.log2_lt hm.ne').mpr (by omega)
          have hmantissa : (BitVec.ofNat 52 m).toNat = m := by
            rw [BitVec.toNat_ofNat, Nat.mod_eq_of_lt (by omega)]
          rw [if_neg (by omega), unpack_subnormal]
          · exact finite_eq hmantissa hexponent.symm
          · intro hzero
            rw [hzero] at hmantissa
            simp at hmantissa
            omega

/-- What the bits of a double may hold, by the exponent: all ones, all zeros or neither. -/
theorem unpack_cases
    {motive : UnpackedFloat → Prop}
    (bits : BitVec 64)
    (infinity : ∀ s, motive (.infinity s))
    (notANumber : motive .notANumber)
    (zero : ∀ s, motive (.zero s))
    (subnormal : ∀ s (mantissa : BitVec 52) h, motive (.finite s mantissa.toNat (-1074) h))
    (normal : ∀ s (exponent : BitVec 11) (mantissa : BitVec 52) h,
      exponent ≠ 0#11 → exponent ≠ -1#11 →
        motive (.finite s (1#1 ++ mantissa).toNat (exponent.toNat - 1075) h)) :
    motive (UnpackedFloat.unpack Format.binary64 bits) := by
  refine iteInduction (fun _ => ?_) fun hones => ?_
  · exact iteInduction (fun _ => infinity _) fun _ => notANumber
  refine iteInduction (fun hzero => ?_) fun hzero => normal _ _ _ _ hzero hones
  rw [hzero]
  by_cases hmantissa : @UnpackedFloat.unpackMantissa Format.binary64 bits = 0#52
  · exact (congrArg motive (dif_pos hmantissa)).mpr (zero _)
  · exact (congrArg motive (dif_neg hmantissa)).mpr (subnormal _ _ _)

/-- Every double has a mantissa of 53 bits, or the smallest exponent; its exponent is bounded. -/
theorem canonical_unpack
    (x : Float) :
    IsCanonical x.toModel.unpack ∧ held x.toModel.unpack = x.toModel.unpack := by
  refine unpack_cases (motive := fun a => IsCanonical a ∧ held a = a) _
    (fun _ => ⟨trivial, rfl⟩) ⟨trivial, rfl⟩ (fun _ => ⟨trivial, rfl⟩) ?subnormal ?normal
  case subnormal =>
    intro s mantissa _
    have hmantissa := mantissa.isLt
    exact ⟨⟨by omega, by decide, .inr rfl⟩, held_of_lt (by decide)⟩
  case normal =>
    intro s exponent mantissa _ hzero hones
    have hmantissa := mantissa.isLt
    have hexponent := exponent.isLt
    have happend := toNat_one_append mantissa
    have hzero' : exponent.toNat ≠ 0 := fun h => hzero (BitVec.eq_of_toNat_eq h)
    have hones' : exponent.toNat ≠ 2047 := fun h => hones (BitVec.eq_of_toNat_eq h)
    exact ⟨⟨by omega, by omega, .inl (by omega)⟩, held_of_lt (by omega)⟩

/-! ## Comparing values -/

section Compare

open FloatOrder (Rank rank? unpackedRank?)
open Scalar (less same)

variable {m n : Nat} {e f : Int}

/-- The larger exponent decides, since its mantissa has all 53 bits. -/
theorem Canonical.value_lt
    (h : Canonical m e)
    (h' : Canonical n f)
    (hlt : e < f ∨ e = f ∧ m < n) :
    (m * 2 ^ e : ℝ) < n * 2 ^ f := by
  rcases hlt with hlt | ⟨rfl, hlt⟩
  · have hlow := h.low
    have hm : (m : ℝ) < 2 ^ 53 := by exact_mod_cast h.small
    have hn : (2 ^ 52 : ℝ) ≤ n := by exact_mod_cast h'.normal.resolve_right (by omega)
    calc
      (m * 2 ^ e : ℝ) < 2 ^ 53 * 2 ^ e := mul_lt_mul_of_pos_right hm (two_zpow_pos e)
      _ = 2 ^ 52 * 2 ^ (e + 1) := by
          rw [zpow_add_one₀ two_ne_zero]
          ring
      _ ≤ 2 ^ 52 * 2 ^ f :=
          mul_le_mul_of_nonneg_left (zpow_le_zpow_right₀ one_le_two hlt) (by positivity)
      _ ≤ n * 2 ^ f := mul_le_mul_of_nonneg_right hn (two_zpow_pos f).le
  · exact mul_lt_mul_of_pos_right (by exact_mod_cast hlt) (two_zpow_pos e)

variable {a b : UnpackedFloat} {x y : Rank}

theorem eq_or_before_of_not_before
    (h : ¬x.Before y) :
    x = y ∨ y.Before x := by
  obtain ⟨g, e, m⟩ := x
  obtain ⟨g', e', m'⟩ := y
  simp only [Rank.Before, Rank.mk.injEq] at h ⊢
  omega

theorem mantissa_pos
    (hm : 0 < m) :
    (0 : ℝ) < m * 2 ^ e :=
  mul_pos (by exact_mod_cast hm) (two_zpow_pos e)

/-- Finite doubles of a lower rank stand for smaller numbers. -/
theorem unpackedValue_lt
    (ha : a.isFinite = true)
    (hb : b.isFinite = true)
    (hac : IsCanonical a)
    (hbc : IsCanonical b)
    (hx : unpackedRank? a = some x)
    (hy : unpackedRank? b = some y)
    (h : x.Before y) :
    unpackedValue a < unpackedValue b := by
  unfold Rank.Before at h
  rcases a with (_ | _) | _ | _ | ⟨_ | _, m, e, hm⟩ <;> cases hx <;> try cases ha
  · rcases b with (_ | _) | _ | _ | ⟨_ | _, n, f, hn⟩ <;> cases hy <;> try cases hb
    · simp at h
    · simp at h
    · exact (mantissa_pos hn).trans_eq (unpackedValue_positive hn).symm
  · have hneg := mantissa_pos (e := e) hm
    rcases b with (_ | _) | _ | _ | ⟨_ | _, n, f, hn⟩ <;> cases hy <;> try cases hb
    · exact (unpackedValue_negative hm).trans_lt (neg_lt_zero.mpr hneg)
    · -- of two negative numbers the one of the larger mantissa is the smaller one
      have hlt := Canonical.value_lt hbc hac (by simp only at h; omega)
      rw [unpackedValue_negative, unpackedValue_negative]
      exact neg_lt_neg hlt
    · have hpos := mantissa_pos (e := f) hn
      rw [unpackedValue_negative, unpackedValue_positive]
      linarith
  · rcases b with (_ | _) | _ | _ | ⟨_ | _, n, f, hn⟩ <;> cases hy <;> try cases hb
    · simp at h
    · simp at h
    · have hlt := Canonical.value_lt hac hbc (by simp only at h; omega)
      rw [unpackedValue_positive, unpackedValue_positive]
      exact hlt

theorem unpackedValue_eq
    (ha : a.isFinite = true)
    (hb : b.isFinite = true)
    (hx : unpackedRank? a = some x)
    (hy : unpackedRank? b = some x) :
    unpackedValue a = unpackedValue b := by
  rcases a with (_ | _) | _ | _ | ⟨_ | _, m, e, hm⟩ <;> cases hx <;> try cases ha
  all_goals
    rcases b with (_ | _) | _ | _ | ⟨_ | _, n, f, hn⟩ <;> try cases hb
    all_goals
      have hrank := Option.some.inj hy
      simp at hrank
  · rfl
  · obtain ⟨rfl, rfl⟩ := hrank
    rfl
  · obtain ⟨rfl, rfl⟩ := hrank
    rfl

theorem exists_rank
    (ha : a.isFinite = true) :
    ∃ x, unpackedRank? a = some x := by
  rcases a with (_ | _) | _ | _ | ⟨_ | _, m, e, hm⟩
  · cases ha
  · cases ha
  · cases ha
  · exact ⟨_, rfl⟩
  · exact ⟨_, rfl⟩
  · exact ⟨_, rfl⟩

variable {v w : Float}

/-- Finite doubles are compared by value. -/
theorem less_iff_value
    (hv : v.isFinite = true)
    (hw : w.isFinite = true) :
    less v w = true ↔ value v < value w := by
  obtain ⟨x, hx⟩ := exists_rank hv
  obtain ⟨y, hy⟩ := exists_rank hw
  obtain ⟨hvc, -⟩ := canonical_unpack v
  obtain ⟨hwc, -⟩ := canonical_unpack w
  rw [FloatOrder.less_iff]
  constructor
  · rintro ⟨x', y', hx', hy', hbefore⟩
    exact unpackedValue_lt hv hw hvc hwc hx' hy' hbefore
  · intro hlt
    refine ⟨x, y, hx, hy, ?_⟩
    by_contra hnot
    rcases eq_or_before_of_not_before hnot with rfl | hbefore
    · exact hlt.ne (unpackedValue_eq hv hw hx hy)
    · exact hlt.asymm (unpackedValue_lt hw hv hwc hvc hy hx hbefore)

theorem same_iff_value
    (hv : v.isFinite = true)
    (hw : w.isFinite = true) :
    same v w = true ↔ value v = value w := by
  obtain ⟨x, hx⟩ := exists_rank hv
  obtain ⟨y, hy⟩ := exists_rank hw
  rw [FloatOrder.same_iff]
  constructor
  · rintro ⟨z, hvz, hwz⟩
    exact unpackedValue_eq hv hw hvz hwz
  · intro heq
    have hless : ¬less v w = true := fun h => heq.not_lt ((less_iff_value hv hw).mp h)
    have hgreater : ¬less w v = true := fun h => heq.not_gt ((less_iff_value hw hv).mp h)
    have hnumber : Scalar.IsNumber v := (FloatOrder.isNumber_iff v).mpr ⟨x, hx⟩
    have hnumber' : Scalar.IsNumber w := (FloatOrder.isNumber_iff w).mpr ⟨y, hy⟩
    rw [← FloatOrder.same_iff]
    exact ((Scalar.LawfulOrder.less_or_same_or_less hnumber hnumber').resolve_left hless).resolve_right
      hgreater

end Compare

/-! ## Whole numbers -/

section Whole

open Number (Exact roundHalfEven)

variable {x : Float} {n : Int}

/-- Only finite doubles have whole numbers near them. -/
theorem exists_toInt_iff
    (round : Bool → Nat → Nat → Nat) :
    (∃ n, (Exact.ofFloat x).toInt round = .ok n) ↔ x.isFinite = true := by
  change _ ↔ x.toModel.unpack.isFinite = true
  unfold Exact.ofFloat
  cases x.toModel.unpack with
  | notANumber =>
      refine iff_of_false ?_ Bool.false_ne_true
      rintro ⟨_, ⟨⟩⟩
  | infinity s =>
      refine iff_of_false ?_ Bool.false_ne_true
      rintro ⟨_, ⟨⟩⟩
  | zero s => exact iff_of_true ⟨_, rfl⟩ rfl
  | finite s m e hm => exact iff_of_true ⟨_, rfl⟩ rfl

theorem abs_roundHalfEven_sub_le
    (num : Nat)
    {den : Nat}
    (hden : 0 < den) :
    |(roundHalfEven num den : ℝ) - num / den| ≤ 1 / 2 := by
  have hpos : (0 : ℝ) < den := by exact_mod_cast hden
  have habove : (2 * (roundHalfEven num den * den) : ℝ) ≤ 2 * num + den := by
    exact_mod_cast Number.two_mul_le_of_roundHalfEven num den
  have hbelow : (2 * num : ℝ) ≤ 2 * (roundHalfEven num den * den) + den := by
    exact_mod_cast Number.le_two_mul_of_roundHalfEven num hden
  have hquotient : (num / den : ℝ) * den = num := div_mul_cancel₀ _ hpos.ne'
  rw [abs_le]
  constructor
  · refine le_of_mul_le_mul_right ?_ hpos
    linarith
  · refine le_of_mul_le_mul_right ?_ hpos
    linarith

/-- A magnitude is the quotient that it is written as. -/
theorem ratio_value
    (m : Nat)
    (e : Int) :
    ((Exact.ratio m e).1 / (Exact.ratio m e).2 : ℝ) = m * 2 ^ e := by
  rw [Exact.ratio_eq]
  rcases le_or_gt 0 e with he | he
  · obtain ⟨k, rfl⟩ := Int.eq_ofNat_of_zero_le he
    simp
  · obtain ⟨k, hk⟩ := Int.eq_ofNat_of_zero_le (by omega : 0 ≤ -e)
    obtain rfl : e = -(k : Int) := by omega
    simp [div_eq_mul_inv]

/-- A finite double and its nearest whole number differ by one half at most. -/
theorem abs_nearest_sub_le
    (h : (Exact.ofFloat x).nearest = .ok n) :
    |(n : ℝ) - value x| ≤ 1 / 2 := by
  unfold Exact.ofFloat Exact.nearest at h
  unfold value
  cases hx : x.toModel.unpack with
  | notANumber =>
      rw [hx] at h
      cases h
  | infinity s =>
      rw [hx] at h
      cases h
  | zero s =>
      rw [hx] at h
      rw [unpackedValue_zero]
      cases s <;> cases h <;> norm_num [roundHalfEven, Exact.ratio, Exact.signed]
  | finite s m e hm =>
      rw [hx] at h
      have hden : 0 < (Exact.ratio m e).2 := by
        rw [Exact.ratio_eq]
        exact Nat.two_pow_pos _
      have hround := abs_roundHalfEven_sub_le (Exact.ratio m e).1 hden
      rw [ratio_value] at hround
      have hn : n = Exact.signed (s == .negative)
          (roundHalfEven (Exact.ratio m e).1 (Exact.ratio m e).2) := (Except.ok.inj h).symm
      rw [hn, unpackedValue_finite]
      generalize roundHalfEven (Exact.ratio m e).1 (Exact.ratio m e).2 = rounded at hround
      cases s with
      | positive =>
          have hsigned : Exact.signed (Sign.positive == Sign.negative) rounded = rounded := rfl
          rw [hsigned, signum, one_mul, Int.cast_natCast]
          exact hround
      | negative =>
          have hsigned : Exact.signed (Sign.negative == Sign.negative) rounded = -(rounded : Int) :=
            rfl
          rw [hsigned, signum, neg_one_mul, Int.cast_neg, Int.cast_natCast, ← abs_neg]
          convert hround using 2
          ring

end Whole

end Double
end Diorama
