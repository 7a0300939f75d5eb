import Diorama.Proofs.Number.FloatRounding
import Mathlib.Analysis.Real.Sqrt

/-!
# The arithmetic of doubles

Where its operands are finite, an operation on doubles rounds its exact result, and a result that is
too large for a double becomes an infinity.

**Main statements.**
* `rounds_add`, `rounds_sub`, `rounds_mul`, `rounds_div`, `rounds_sqrt`, `rounds_ofInt`: operations
  round their exact results.
* `Rounds.bounded`: a result stays below whatever representable bound its exact value stays below.
* `Rounds.finite`, `Rounds.nearest`: a result that is not too large is a nearest representable number.
-/

namespace Diorama
namespace Double

open Float.Model (UnpackedFloat Format)
open Float.Model.UnpackedFloat (Sign Accuracy ExtendedMantissa)

/-- A double that a number is rounded to, or the infinity on the side of the number where that would
be too large. -/
def Rounds
    (x : Float)
    (z : ℝ) :
    Prop :=
  ∃ u, x.toModel.unpack = held u ∧ Rounded u z

/-- A finite double whose magnitude has a bound. -/
structure Bounded
    (x : Float)
    (r : ℝ) : Prop where
  finite : x.isFinite = true
  abs_le : |value x| ≤ r

/-- The largest double. -/
noncomputable def largest : ℝ :=
  ((2 : Nat) ^ 53 - 1) * (2 : Nat) ^ (971 : Int)

section Rounds

variable {x : Float} {u : UnpackedFloat} {r z : ℝ}

theorem rounds_pack
    (h : Rounded u z) :
    Rounds ⟨Float.Model.pack u⟩ z :=
  ⟨u, unpack_pack h.canonical, h⟩

theorem representable_largest :
    Representable largest := by
  refine ⟨2 ^ 53 - 1, 971, ?_, by norm_num, by norm_num⟩
  rw [largest, Nat.cast_ofNat, Int.cast_sub, Int.cast_pow, Int.cast_ofNat, Int.cast_one]

theorem largest_nonneg :
    0 ≤ largest :=
  mul_nonneg (by norm_num) (two_zpow_pos 971).le

/-- Powers of two up to 1023 are below the largest double. -/
theorem two_zpow_le_largest
    {e : Int}
    (he : e ≤ 1023) :
    2 ^ e ≤ largest := by
  calc
    (2 ^ e : ℝ) ≤ 2 ^ (52 + 971 : Int) := zpow_le_zpow_right₀ one_le_two he
    _ = 2 ^ 52 * 2 ^ (971 : Int) := by
        rw [zpow_add₀ two_ne_zero, zpow_ofNat]
    _ ≤ largest := mul_le_mul_of_nonneg_right (by norm_num) (two_zpow_pos 971).le

theorem representable_unpackedValue
    (hu : IsCanonical u) :
    Representable (unpackedValue u) := by
  cases u with
  | notANumber => exact representable_zero
  | infinity s => exact representable_zero
  | zero s => exact representable_zero
  | finite s m e hm =>
      have hrepresentable : Representable (m * 2 ^ e) :=
        ⟨m, e, by push_cast; rfl, by rw [Nat.abs_cast]; exact_mod_cast hu.small.le, hu.low⟩
      cases s with
      | positive =>
          rw [unpackedValue_positive]
          exact hrepresentable
      | negative =>
          rw [unpackedValue_negative]
          exact hrepresentable.neg

/-- The values of doubles are representable. -/
theorem representable_value
    (x : Float) :
    Representable (value x) :=
  representable_unpackedValue (canonical_unpack x).1

theorem rounded_self
    (hfinite : u.isFinite = true)
    (hu : IsCanonical u) :
    Rounded u (unpackedValue u) :=
  ⟨hfinite, hu, nearest_self (representable_unpackedValue hu)⟩

theorem abs_unpackedValue
    {s : Sign}
    {m : Nat}
    {e : Int}
    (hm : 0 < m) :
    |unpackedValue (.finite s m e hm)| = m * 2 ^ e := by
  rw [unpackedValue_finite, abs_mul, abs_signum, one_mul, abs_of_pos (mantissa_pos hm)]

/-- What the exponent of a double can hold has a magnitude up to that of the largest double. -/
theorem abs_value_le
    (x : Float) :
    |value x| ≤ largest := by
  obtain ⟨hcanonical, hheld⟩ := canonical_unpack x
  unfold value
  cases hx : x.toModel.unpack with
  | finite s m e hm =>
      rw [hx] at hcanonical hheld
      have he : e ≤ 971 := by
        by_contra hlarge
        rw [held_of_le (by omega)] at hheld
        cases hheld
      have hm' : (m : ℝ) ≤ 2 ^ 53 - 1 := by
        have hsmall : m + 1 ≤ 2 ^ 53 := hcanonical.small
        have hsmall : (m + 1 : ℝ) ≤ 2 ^ 53 := by exact_mod_cast hsmall
        linarith
      rw [abs_unpackedValue]
      calc
        (m * 2 ^ e : ℝ) ≤ (2 ^ 53 - 1) * 2 ^ e := mul_le_mul_of_nonneg_right hm' (two_zpow_pos e).le
        _ ≤ largest :=
            mul_le_mul_of_nonneg_left (zpow_le_zpow_right₀ one_le_two he) (by norm_num)
  | _ => exact abs_zero.trans_le largest_nonneg

/-- Half of the distance between the largest double and the next representable number. -/
noncomputable def overflowGap : ℝ :=
  (2 : Nat) ^ (970 : Int)

theorem overflowGap_pos :
    0 < overflowGap :=
  two_zpow_pos 970

/-- A number whose exponent no double holds lies beyond the largest double by two gaps at least. -/
theorem largest_add_le
    {m : Nat}
    {e : Int}
    (h : Canonical m e)
    (he : 972 ≤ e) :
    largest + 2 * overflowGap ≤ m * 2 ^ e := by
  have hm : (2 ^ 52 : ℝ) ≤ m := by exact_mod_cast h.normal.resolve_right (by omega)
  calc
    largest + 2 * overflowGap = (2 ^ 53 - 1) * 2 ^ (971 : Int) + 2 ^ (970 + 1 : Int) := by
        rw [largest, overflowGap, Nat.cast_ofNat, zpow_add_one₀ two_ne_zero, mul_comm (2 : ℝ)]
    _ = 2 ^ 52 * 2 ^ (971 + 1 : Int) := by
        rw [zpow_add_one₀ two_ne_zero (971 : Int), show (970 + 1 : Int) = 971 from rfl]
        ring
    _ ≤ 2 ^ 52 * 2 ^ e :=
        mul_le_mul_of_nonneg_left (zpow_le_zpow_right₀ one_le_two (by omega)) (by norm_num)
    _ ≤ m * 2 ^ e := mul_le_mul_of_nonneg_right hm (two_zpow_pos e).le

/-- What the bits of a double do not hold is nearest to numbers beyond the largest double only. -/
theorem held_of_abs_lt
    (h : Rounded u z)
    (hz : |z| < largest + overflowGap) :
    held u = u := by
  obtain ⟨hlow, hhigh⟩ := abs_lt.mp hz
  cases hu : u with
  | finite s m e hm =>
      refine held_of_lt ?_
      by_contra he
      rw [hu] at h
      have hlarge := largest_add_le h.canonical (not_lt.mp he)
      have hpos := overflowGap_pos
      have hnearest := h.nearest
      rw [unpackedValue_finite] at hnearest
      cases s with
      | positive =>
          have hclosest := hnearest.closest largest representable_largest
          rw [signum, one_mul, abs_of_nonneg (by linarith)] at hclosest
          rcases abs_cases (largest - z) with ⟨habs, -⟩ | ⟨habs, -⟩ <;> linarith
      | negative =>
          have hclosest := hnearest.closest (-largest) representable_largest.neg
          rw [signum, neg_one_mul, abs_of_nonpos (by linarith)] at hclosest
          rcases abs_cases (-largest - z) with ⟨habs, -⟩ | ⟨habs, -⟩ <;> linarith
  | _ => rfl

/-- A double that a number of a moderate size is rounded to is finite. -/
theorem Rounds.finite
    (h : Rounds x z)
    (hz : |z| < largest + overflowGap) :
    x.isFinite = true := by
  obtain ⟨u, hx, hu⟩ := h
  rw [held_of_abs_lt hu hz] at hx
  change x.toModel.unpack.isFinite = true
  rw [hx]
  exact hu.finite

/-- A finite result is a nearest representable number. -/
theorem Rounds.nearest
    (h : Rounds x z)
    (hx : x.isFinite = true) :
    Nearest (value x) z := by
  obtain ⟨u, hheld, hu⟩ := h
  have hx : x.toModel.unpack.isFinite = true := hx
  have hsame : held u = u := by
    rw [hheld] at hx
    cases u with
    | finite s m e hm =>
        refine held_of_lt ?_
        by_contra he
        rw [held_of_le (not_lt.mp he)] at hx
        cases hx
    | _ => rfl
  rw [value, hheld, hsame]
  exact hu.nearest

/-- A result stays below a representable bound. -/
theorem Rounds.bounded
    (h : Rounds x z)
    (hr : Representable r)
    (hlargest : r ≤ largest)
    (hz : |z| ≤ r) :
    Bounded x r := by
  have hfinite := h.finite (by linarith [overflowGap_pos])
  exact ⟨hfinite, (h.nearest hfinite).bounded hr hz⟩

/-- What a number is rounded to is defined. -/
theorem Rounds.isNaN_eq_false
    (h : Rounds x z) :
    x.isNaN = false := by
  obtain ⟨u, hx, hu⟩ := h
  change x.toModel.unpack.isNaN = false
  rw [hx]
  cases u with
  | notANumber => cases hu.finite
  | finite s m e hm =>
      rcases lt_or_ge e 972 with he | he
      · rw [held_of_lt he]
        rfl
      · rw [held_of_le he]
        rfl
  | _ => rfl

end Rounds

/-! ## Operations -/

section Unpacked

variable {a b : UnpackedFloat}

theorem apply_cast
    (s : Sign)
    (n : Int) :
    ((s.apply n : Int) : ℝ) = signum s * n := by
  cases s <;> simp [Sign.apply, signum]

theorem rounded_zero
    (s : Sign) :
    Rounded (.zero s) 0 :=
  ⟨rfl, trivial, nearest_self representable_zero⟩

/-- Mantissas that are brought to one exponent add up. -/
theorem decreased_value
    (m : Nat)
    {e f : Int}
    (hf : f ≤ e) :
    ((UnpackedFloat.decreaseExponent m e f).1 * 2 ^ f : ℝ) = m * 2 ^ e := by
  rw [← decreaseExponent_value m e f]
  have hexponent : (UnpackedFloat.decreaseExponent m e f).2 = f := by
    unfold UnpackedFloat.decreaseExponent
    simp only
    omega
  rw [hexponent]

theorem rounded_add
    (ha : a.isFinite = true)
    (hb : b.isFinite = true)
    (hac : IsCanonical a)
    (hbc : IsCanonical b) :
    Rounded (UnpackedFloat.add Format.binary64 a b) (unpackedValue a + unpackedValue b) := by
  cases a with
  | notANumber => cases ha
  | infinity s => cases ha
  | zero s =>
      have hzero : unpackedValue (.zero s) + unpackedValue b = unpackedValue b := zero_add _
      rw [hzero]
      cases b with
      | notANumber => cases hb
      | infinity s' => cases hb
      | zero s' =>
          cases s <;> cases s' <;> exact rounded_zero _
      | finite s' n f hn => exact rounded_self hb hbc
  | finite s m e hm =>
      cases b with
      | notANumber => cases hb
      | infinity s' => cases hb
      | zero s' =>
          have hzero : unpackedValue (.finite s m e hm) + unpackedValue (.zero s')
              = unpackedValue (.finite s m e hm) := add_zero _
          rw [hzero]
          exact rounded_self ha hac
      | finite s' n f hn =>
          have hsum := rounded_normalize
            (s.apply (UnpackedFloat.decreaseExponent m e (min e f)).1
              + s'.apply (UnpackedFloat.decreaseExponent n f (min e f)).1)
            (min e f) .positive
          rw [Int.cast_add, apply_cast, apply_cast, Int.cast_natCast, Int.cast_natCast, add_mul,
            mul_assoc, mul_assoc, decreased_value m (min_le_left e f),
            decreased_value n (min_le_right e f)] at hsum
          exact hsum

theorem isFinite_neg
    (ha : a.isFinite = true) :
    a.neg.isFinite = true := by
  cases a <;> first | rfl | cases ha

theorem isCanonical_neg
    (ha : IsCanonical a) :
    IsCanonical a.neg := by
  cases a <;> exact ha

theorem signum_neg
    (s : Sign) :
    signum (-s) = -signum s := by
  cases s with
  | positive => rfl
  | negative => exact (neg_neg (1 : ℝ)).symm

theorem unpackedValue_neg
    (a : UnpackedFloat) :
    unpackedValue a.neg = -unpackedValue a := by
  cases a with
  | finite s m e hm =>
      change unpackedValue (.finite (-s) m e hm) = _
      rw [unpackedValue_finite, unpackedValue_finite, signum_neg, neg_mul]
  | _ => exact neg_zero.symm

/-- Subtracting is adding what is turned around. -/
theorem unpacked_sub_eq
    (a b : UnpackedFloat) :
    UnpackedFloat.sub Format.binary64 a b = UnpackedFloat.add Format.binary64 a b.neg := by
  cases a with
  | finite s m e hm =>
      cases b with
      | finite s' n f hn =>
          have hsign (k : Int) : (-s').apply k = -(s'.apply k) := by
            cases s' with
            | positive => rfl
            | negative => exact (Int.neg_neg k).symm
          have hsum (j k : Int) : s.apply j - s'.apply k = s.apply j + (-s').apply k := by
            rw [hsign, Int.sub_eq_add_neg]
          exact congrArg (fun n => UnpackedFloat.normalize Format.binary64 n (min e f) .positive)
            (hsum _ _)
      | _ => rfl
  | _ => cases b <;> rfl

theorem rounded_sub
    (ha : a.isFinite = true)
    (hb : b.isFinite = true)
    (hac : IsCanonical a)
    (hbc : IsCanonical b) :
    Rounded (UnpackedFloat.sub Format.binary64 a b) (unpackedValue a - unpackedValue b) := by
  rw [unpacked_sub_eq, sub_eq_add_neg, ← unpackedValue_neg]
  exact rounded_add ha (isFinite_neg hb) hac (isCanonical_neg hbc)

theorem signum_mul
    (s s' : Sign) :
    signum (s * s') = signum s * signum s' := by
  cases s with
  | positive => cases s' <;> exact (one_mul _).symm
  | negative =>
      cases s' with
      | positive => exact (mul_one _).symm
      | negative =>
          change (1 : ℝ) = -1 * -1
          norm_num

theorem signum_div
    (s s' : Sign) :
    signum (s / s') = signum s / signum s' := by
  cases s with
  | positive =>
      cases s' with
      | positive => exact (div_one _).symm
      | negative =>
          change (-1 : ℝ) = 1 / -1
          norm_num
  | negative =>
      cases s' with
      | positive => exact (div_one _).symm
      | negative =>
          change (1 : ℝ) = -1 / -1
          norm_num

theorem rounded_mul
    (ha : a.isFinite = true)
    (hb : b.isFinite = true)
    (hac : IsCanonical a)
    (hbc : IsCanonical b) :
    Rounded (UnpackedFloat.mul Format.binary64 a b) (unpackedValue a * unpackedValue b) := by
  cases a with
  | notANumber => cases ha
  | infinity s => cases ha
  | zero s =>
      have hzero : unpackedValue (.zero s) * unpackedValue b = 0 := zero_mul _
      rw [hzero]
      cases b with
      | notANumber => cases hb
      | infinity s' => cases hb
      | _ => exact rounded_zero _
  | finite s m e hm =>
      cases b with
      | notANumber => cases hb
      | infinity s' => cases hb
      | zero s' =>
          have hzero : unpackedValue (.finite s m e hm) * unpackedValue (.zero s') = 0 := mul_zero _
          rw [hzero]
          exact rounded_zero _
      | finite s' n f hn =>
          have hfits : e + f ≤ target (m * n) (e + f) := by
            unfold target
            rcases hac.normal.imp_right fun he => hbc.normal.imp_right fun hf => And.intro he hf
              with hm' | hn' | ⟨rfl, rfl⟩
            · have hlog : 52 ≤ (m * n).log2 := (Nat.le_log2 (Nat.mul_pos hm hn).ne').mpr
                (hm'.trans (Nat.le_mul_of_pos_right m hn))
              omega
            · have hlog : 52 ≤ (m * n).log2 := (Nat.le_log2 (Nat.mul_pos hm hn).ne').mpr
                (hn'.trans (Nat.le_mul_of_pos_left n hm))
              omega
            · exact le_max_of_le_right (by decide)
          have hproduct := rounded_roundWithAccuracy (s := s * s') hfits (holds_exact (m * n))
          have hvalue : signum (s * s') * (((m * n : Nat) : ℝ) * 2 ^ (e + f))
              = unpackedValue (.finite s m e hm) * unpackedValue (.finite s' n f hn) := by
            rw [signum_mul, zpow_add₀ two_ne_zero, unpackedValue_finite, unpackedValue_finite,
              Nat.cast_mul]
            ring
          rw [hvalue] at hproduct
          exact hproduct

/-- What is left of a division says how far the quotient is off. -/
theorem holds_fraction
    (q r : Nat)
    {d : Nat}
    (hr : r < d) :
    Holds (ExtendedMantissa.ofMantissaAndAccuracy q (UnpackedFloat.accuracyOfFraction r d))
      (q + r / d) := by
  have hd : (0 : ℝ) < d := by exact_mod_cast Nat.zero_lt_of_lt hr
  have hone : (r / d : ℝ) < 1 := (div_lt_one hd).mpr (by exact_mod_cast hr)
  have htwice : (2 * (r / d) : ℝ) = (2 * r : Nat) / d := by
    push_cast
    ring
  unfold UnpackedFloat.accuracyOfFraction
  split
  · rename_i hzero
    subst hzero
    simp [ExtendedMantissa.ofMantissaAndAccuracy, Holds, halfBit_false]
  · rename_i hpos
    have hpos : (0 : ℝ) < r / d := div_pos (by exact_mod_cast Nat.pos_of_ne_zero hpos) hd
    cases hhalf : compare (2 * r) d with
    | lt =>
        have hlt : ((2 * r : Nat) / d : ℝ) < 1 :=
          (div_lt_one hd).mpr (by exact_mod_cast Nat.compare_eq_lt.mp hhalf)
        simp only [ExtendedMantissa.ofMantissaAndAccuracy, Holds, halfBit_true, halfBit_false]
        constructor <;> linarith
    | eq =>
        have heq : ((2 * r : Nat) / d : ℝ) = 1 :=
          (div_eq_one_iff_eq hd.ne').mpr (by exact_mod_cast Nat.compare_eq_eq.mp hhalf)
        simp only [ExtendedMantissa.ofMantissaAndAccuracy, Holds, halfBit_true]
        linarith
    | gt =>
        have hgt : (1 : ℝ) < (2 * r : Nat) / d :=
          (one_lt_div hd).mpr (by exact_mod_cast Nat.compare_eq_gt.mp hhalf)
        simp only [ExtendedMantissa.ofMantissaAndAccuracy, Holds, halfBit_true]
        constructor <;> linarith

theorem log2_le_log2_div
    {m n : Nat}
    (hm : 0 < m)
    (hn : 0 < n) :
    m.log2 ≤ (m / n).log2 + n.log2 + 1 := by
  have hquotient : m / n + 1 ≤ 2 ^ ((m / n).log2 + 1) := Nat.lt_log2_self
  have hdivisor : n ≤ 2 ^ (n.log2 + 1) := Nat.lt_log2_self.le
  have hlt : m < 2 ^ ((m / n).log2 + n.log2 + 2) := by
    calc
      m < (m / n + 1) * n := by
          rw [Nat.mul_comm]
          exact Nat.lt_mul_div_succ m hn
      _ ≤ 2 ^ ((m / n).log2 + 1) * 2 ^ (n.log2 + 1) := Nat.mul_le_mul hquotient hdivisor
      _ = 2 ^ ((m / n).log2 + n.log2 + 2) := by
          rw [← pow_add]
          congr 1
          omega
  exact Nat.le_of_lt_succ ((Nat.log2_lt hm.ne').mpr hlt)

/-- Dividing shifts the dividend far enough to the left for 53 bits of the quotient. -/
theorem divCore_eq
    (m : Nat)
    (e : Int)
    (n : Nat)
    (f : Int) :
    ∃ (d : Nat) (g : Int), e - f = g + d
      ∧ g ≤ max (m.log2 + 1 + e - (n.log2 + 1 + f) - 53) (-1074)
      ∧ UnpackedFloat.divCore Format.binary64 m e n f
        = (m * 2 ^ d / n, g, UnpackedFloat.accuracyOfFraction (m * 2 ^ d % n) n) := by
  have hle : min (e - f) (max (m.log2 + 1 + e - (n.log2 + 1 + f) - 53) (-1074)) ≤ e - f :=
    min_le_left _ _
  refine ⟨(e - f - min (e - f) (max (m.log2 + 1 + e - (n.log2 + 1 + f) - 53) (-1074))).toNat,
    min (e - f) (max (m.log2 + 1 + e - (n.log2 + 1 + f) - 53) (-1074)), by omega,
    min_le_right _ _, ?_⟩
  rw [← Nat.shiftLeft_eq]
  rfl

theorem rounded_div
    (ha : a.isFinite = true)
    (hb : b.isFinite = true)
    (hzero : unpackedValue b ≠ 0) :
    Rounded (UnpackedFloat.div Format.binary64 a b) (unpackedValue a / unpackedValue b) := by
  cases b with
  | notANumber => cases hb
  | infinity s' => cases hb
  | zero s' => exact absurd rfl hzero
  | finite s' n f hn =>
      cases a with
      | notANumber => cases ha
      | infinity s => cases ha
      | zero s =>
          have hzero : unpackedValue (.zero s) / unpackedValue (.finite s' n f hn) = 0 := zero_div _
          rw [hzero]
          exact rounded_zero _
      | finite s m e hm =>
          obtain ⟨d, g, hd, hg, hcore⟩ := divCore_eq m e n f
          have hshifted : 0 < m * 2 ^ d := Nat.mul_pos hm (Nat.two_pow_pos d)
          have hlog := log2_le_log2_div hshifted hn
          rw [log2_mul_two_pow hm] at hlog
          have hfits : g ≤ target (m * 2 ^ d / n) g := by
            unfold target
            omega
          have hquotient := rounded_roundWithAccuracy (s := s / s') hfits
            (holds_fraction (m * 2 ^ d / n) (m * 2 ^ d % n) (Nat.mod_lt _ hn))
          have hn' : (n : ℝ) ≠ 0 := by exact_mod_cast hn.ne'
          have hexact : ((m * 2 ^ d / n : Nat) + (m * 2 ^ d % n : Nat) / n : ℝ) = m * 2 ^ d / n := by
            rw [eq_div_iff hn', add_mul, div_mul_cancel₀ _ hn']
            exact_mod_cast Nat.div_add_mod' _ n
          have hvalue : signum (s / s') * ((m * 2 ^ d / n : ℝ) * 2 ^ g)
              = unpackedValue (.finite s m e hm) / unpackedValue (.finite s' n f hn) := by
            have he : e = g + d + f := by omega
            rw [signum_div, unpackedValue_finite, unpackedValue_finite, he,
              zpow_add₀ two_ne_zero, zpow_add₀ two_ne_zero, zpow_natCast]
            field_simp
          rw [hexact, hvalue] at hquotient
          have hdiv : UnpackedFloat.div Format.binary64 (.finite s m e hm) (.finite s' n f hn)
              = UnpackedFloat.roundWithAccuracy Format.binary64 (s / s')
                (UnpackedFloat.divCore Format.binary64 m e n f).1
                (UnpackedFloat.divCore Format.binary64 m e n f).2.1
                (UnpackedFloat.divCore Format.binary64 m e n f).2.2 := rfl
          rw [hdiv, hcore]
          exact hquotient

/-- A root is taken of a number with an even exponent and at least 53 bits of the root. -/
theorem sqrtCore_eq
    (m : Nat)
    (e : Int) :
    ∃ (d : Nat) (g : Int), e = 2 * g + d
      ∧ g ≤ max ((m.log2 + 1 + e + 1) / 2 - 53) (-1074)
      ∧ UnpackedFloat.sqrtCore Format.binary64 m e
        = (Nat.sqrt (m * 2 ^ d), g,
          if m * 2 ^ d - Nat.sqrt (m * 2 ^ d) * Nat.sqrt (m * 2 ^ d) = 0 then .exact
          else .inexact (if m * 2 ^ d - Nat.sqrt (m * 2 ^ d) * Nat.sqrt (m * 2 ^ d)
            ≤ Nat.sqrt (m * 2 ^ d) then .lt else .gt)) := by
  have hle : min (e / 2) (max ((m.log2 + 1 + e + 1) / 2 - 53) (-1074)) ≤ e / 2 := min_le_left _ _
  refine ⟨(e - 2 * min (e / 2) (max ((m.log2 + 1 + e + 1) / 2 - 53) (-1074))).toNat,
    min (e / 2) (max ((m.log2 + 1 + e + 1) / 2 - 53) (-1074)), by omega, min_le_right _ _, ?_⟩
  rw [← Nat.shiftLeft_eq]
  rfl

/-- What is left over by a whole root says how far it is off. -/
theorem holds_root
    (n : Nat) :
    Holds (ExtendedMantissa.ofMantissaAndAccuracy (Nat.sqrt n)
        (if n - Nat.sqrt n * Nat.sqrt n = 0 then .exact
          else .inexact (if n - Nat.sqrt n * Nat.sqrt n ≤ Nat.sqrt n then .lt else .gt)))
      (√n) := by
  obtain ⟨rest, hrest⟩ : ∃ rest, n = Nat.sqrt n * Nat.sqrt n + rest :=
    ⟨_, (Nat.add_sub_of_le (Nat.sqrt_le n)).symm⟩
  have hlast : rest ≤ 2 * Nat.sqrt n := by
    have hlt := Nat.lt_succ_sqrt n
    rw [Nat.succ_eq_add_one, Nat.mul_add, Nat.add_mul] at hlt
    omega
  generalize hroot : Nat.sqrt n = root at hrest hlast
  have hsub : n - root * root = rest := by omega
  have hn : (n : ℝ) = root * root + rest := by exact_mod_cast hrest
  have hroot : (0 : ℝ) ≤ root := Nat.cast_nonneg _
  rw [hsub]
  split
  · rename_i hzero
    rw [hn, hzero, Nat.cast_zero, add_zero, Real.sqrt_mul_self hroot]
    exact holds_exact root
  · rename_i hpos
    have hpos : (0 : ℝ) < rest := by exact_mod_cast Nat.pos_of_ne_zero hpos
    split
    · rename_i hhalf
      have hhalf : (rest : ℝ) ≤ root := by exact_mod_cast hhalf
      simp only [ExtendedMantissa.ofMantissaAndAccuracy, Holds, halfBit_true, halfBit_false, hn]
      constructor
      · exact Real.lt_sqrt_of_sq_lt (by nlinarith)
      · exact (Real.sqrt_lt' (by linarith)).mpr (by nlinarith)
    · rename_i hhalf
      have hhalf : (root + 1 : ℝ) ≤ rest := by exact_mod_cast not_le.mp hhalf
      have hlast : (rest : ℝ) ≤ 2 * root := by exact_mod_cast hlast
      simp only [ExtendedMantissa.ofMantissaAndAccuracy, Holds, halfBit_true, hn]
      constructor
      · exact Real.lt_sqrt_of_sq_lt (by nlinarith)
      · exact (Real.sqrt_lt' (by linarith)).mpr (by nlinarith)

theorem log2_le_two_mul_log2_sqrt
    {n : Nat}
    (hn : 0 < n) :
    n.log2 / 2 ≤ (Nat.sqrt n).log2 := by
  have hle : 2 ^ (n.log2 / 2) ≤ Nat.sqrt n := by
    rw [Nat.le_sqrt, ← pow_add]
    exact (Nat.pow_le_pow_right two_pos (by omega)).trans (Nat.log2_self_le hn.ne')
  exact (Nat.le_log2 (Nat.lt_of_lt_of_le (Nat.two_pow_pos _) hle).ne').mpr hle

theorem rounded_sqrt
    (ha : a.isFinite = true)
    (hnonneg : 0 ≤ unpackedValue a) :
    Rounded (UnpackedFloat.sqrt Format.binary64 a) (√(unpackedValue a)) := by
  cases a with
  | notANumber => cases ha
  | infinity s => cases ha
  | zero s =>
      have hzero : √(unpackedValue (.zero s)) = 0 := Real.sqrt_zero
      rw [hzero]
      cases s <;> exact rounded_zero _
  | finite s m e hm =>
      cases s with
      | negative =>
          have hpos := mantissa_pos (e := e) hm
          rw [unpackedValue_finite, signum] at hnonneg
          linarith
      | positive =>
          obtain ⟨d, g, he, hg, hcore⟩ := sqrtCore_eq m e
          have hshifted : 0 < m * 2 ^ d := Nat.mul_pos hm (Nat.two_pow_pos d)
          have hlog := log2_le_two_mul_log2_sqrt hshifted
          rw [log2_mul_two_pow hm] at hlog
          have hfits : g ≤ target (Nat.sqrt (m * 2 ^ d)) g := by
            unfold target
            omega
          have hroot := rounded_roundWithAccuracy (s := .positive) hfits (holds_root (m * 2 ^ d))
          have hvalue : signum .positive * (√((m * 2 ^ d : Nat) : ℝ) * 2 ^ g)
              = √(unpackedValue (.finite .positive m e hm)) := by
            have hsquare : unpackedValue (.finite .positive m e hm)
                = ((m * 2 ^ d : Nat) : ℝ) * (2 ^ g * 2 ^ g) := by
              rw [unpackedValue_finite, signum, he, ← zpow_add₀ two_ne_zero, ← two_mul,
                zpow_add₀ two_ne_zero, zpow_natCast]
              push_cast
              ring
            rw [hsquare, Real.sqrt_mul (Nat.cast_nonneg _), Real.sqrt_mul_self (two_zpow_pos g).le,
              signum, one_mul]
          rw [hvalue] at hroot
          have hsqrt : UnpackedFloat.sqrt Format.binary64 (.finite .positive m e hm)
              = UnpackedFloat.roundWithAccuracy Format.binary64 .positive
                (UnpackedFloat.sqrtCore Format.binary64 m e).1
                (UnpackedFloat.sqrtCore Format.binary64 m e).2.1
                (UnpackedFloat.sqrtCore Format.binary64 m e).2.2 := rfl
          rw [hsqrt, hcore]
          exact hroot

end Unpacked

section Operations

variable {x y : Float}

theorem rounds_add
    (hx : x.isFinite = true)
    (hy : y.isFinite = true) :
    Rounds (x + y) (value x + value y) :=
  rounds_pack (rounded_add hx hy (canonical_unpack x).1 (canonical_unpack y).1)

theorem rounds_sub
    (hx : x.isFinite = true)
    (hy : y.isFinite = true) :
    Rounds (x - y) (value x - value y) :=
  rounds_pack (rounded_sub hx hy (canonical_unpack x).1 (canonical_unpack y).1)

theorem rounds_mul
    (hx : x.isFinite = true)
    (hy : y.isFinite = true) :
    Rounds (x * y) (value x * value y) :=
  rounds_pack (rounded_mul hx hy (canonical_unpack x).1 (canonical_unpack y).1)

theorem rounds_div
    (hx : x.isFinite = true)
    (hy : y.isFinite = true)
    (hzero : value y ≠ 0) :
    Rounds (x / y) (value x / value y) :=
  rounds_pack (rounded_div hx hy hzero)

theorem rounds_sqrt
    (hx : x.isFinite = true)
    (hnonneg : 0 ≤ value x) :
    Rounds x.sqrt (√(value x)) :=
  rounds_pack (rounded_sqrt hx hnonneg)

/-- Turning a double around changes its sign only. -/
theorem unpack_neg
    (x : Float) :
    (-x).toModel.unpack = x.toModel.unpack.neg := by
  obtain ⟨hcanonical, hheld⟩ := canonical_unpack x
  have hpack : (-x).toModel.unpack = held x.toModel.unpack.neg :=
    unpack_pack (isCanonical_neg hcanonical)
  rw [hpack]
  cases hx : x.toModel.unpack with
  | finite s m e hm =>
      rw [hx] at hheld
      refine held_of_lt ?_
      by_contra he
      rw [held_of_le (not_lt.mp he)] at hheld
      cases hheld
  | _ => rfl

theorem isFinite_neg_iff
    (x : Float) :
    (-x).isFinite = x.isFinite := by
  change (-x).toModel.unpack.isFinite = x.toModel.unpack.isFinite
  rw [unpack_neg]
  cases x.toModel.unpack <;> rfl

theorem value_neg
    (x : Float) :
    value (-x) = -value x := by
  rw [value, value, unpack_neg, unpackedValue_neg]

/-- The value of a double that is known bit by bit. -/
theorem value_of_exact
    {negative : Bool}
    {m : Nat}
    {e : Int}
    (h : Number.Exact.ofFloat x = .finite negative m e) :
    x.isFinite = true ∧ value x = (if negative then -1 else 1) * (m * 2 ^ e) := by
  unfold Number.Exact.ofFloat at h
  change x.toModel.unpack.isFinite = true ∧ _
  unfold value
  cases hx : x.toModel.unpack with
  | notANumber => simp [hx] at h
  | infinity s => simp [hx] at h
  | zero s =>
      rw [hx] at h
      cases h
      refine ⟨rfl, ?_⟩
      rw [unpackedValue_zero, Nat.cast_zero, zero_mul, mul_zero]
  | finite s m e hm =>
      rw [hx] at h
      cases h
      refine ⟨rfl, ?_⟩
      have hsign : (if (s == .negative) = true then -1 else 1 : ℝ) = signum s := by
        cases s with
        | positive => exact if_neg (by decide)
        | negative => exact if_pos rfl
      rw [hsign, unpackedValue_finite]

/-- A double that is a whole number has that number as its value. -/
theorem value_of_isInteger
    {n : Int}
    (h : (Number.Exact.ofFloat x).IsInteger n) :
    x.isFinite = true ∧ value x = n := by
  cases hx : Number.Exact.ofFloat x with
  | notANumber =>
      rw [hx] at h
      exact h.elim
  | infinite negative =>
      rw [hx] at h
      exact h.elim
  | finite negative m e =>
      rw [hx] at h
      obtain ⟨hfinite, hvalue⟩ := value_of_exact hx
      refine ⟨hfinite, ?_⟩
      have hden : (0 : ℝ) < Nat.pow 2 (-e).toNat := by exact_mod_cast Nat.two_pow_pos _
      have hscaled : (if negative then -1 else 1) * ((m * Nat.pow 2 e.toNat : Nat) : ℝ)
          = n * Nat.pow 2 (-e).toNat := by
        have hcast := congrArg (Int.cast (R := ℝ)) h
        push_cast at hcast
        rw [← hcast]
        cases negative <;> simp [Number.Exact.signed]
      have hratio := ratio_value m e
      rw [Number.Exact.ratio_eq] at hratio
      rw [hvalue, ← hratio, ← mul_div_assoc, div_eq_iff hden.ne', hscaled]
/-- A natural number of at most 53 bits is converted as it is. -/
theorem rounds_toFloat
    (n : UInt64) :
    Rounds n.toFloat n.toNat := by
  have hnormal := rounded_normalize n.toNat 0 .positive
  rw [zpow_zero, mul_one, Int.cast_natCast] at hnormal
  exact rounds_pack hnormal

theorem value_one :
    (Float.ofBits 0x3ff0000000000000).isFinite = true
      ∧ value (Float.ofBits 0x3ff0000000000000) = 1 := by
  have hexact : Number.Exact.ofFloat (Float.ofBits 0x3ff0000000000000)
      = .finite false (2 ^ 52) (-52) := by
    decide +kernel
  obtain ⟨hfinite, hvalue⟩ := value_of_exact hexact
  refine ⟨hfinite, ?_⟩
  rw [hvalue]
  norm_num

/-- A large natural number is shifted to the left before it is rounded. -/
theorem rounded_ofScientific
    {n : Nat}
    (hn : 0 < n) :
    Rounded (UnpackedFloat.ofScientific Format.binary64 n 0) n := by
  have hfits : -53 ≤ target (n * 2 ^ 53) (-53) := by
    unfold target
    rw [log2_mul_two_pow hn]
    omega
  have hround := rounded_roundWithAccuracy (s := .positive) hfits (holds_exact (n * 2 ^ 53))
  have hvalue : signum .positive * (((n * 2 ^ 53 : Nat) : ℝ) * 2 ^ (-53 : Int)) = n := by
    rw [signum, one_mul, Nat.cast_mul, mul_assoc, zpow_neg, zpow_ofNat]
    norm_num
  rw [hvalue] at hround
  have hunfold : UnpackedFloat.ofScientific Format.binary64 n 0
      = UnpackedFloat.roundWithAccuracy Format.binary64 .positive (n * 2 ^ 53) (-53) .exact := by
    have hsmall : ¬(0 : Int) < -(2 ^ 11 + (n.log2 : Int)) := by omega
    unfold UnpackedFloat.ofScientific
    rw [dif_neg hn.ne', if_neg (by decide), if_neg hsmall, if_pos le_rfl]
    change UnpackedFloat.roundWithAccuracy Format.binary64 .positive (n <<< 53 * 1) (-53) .exact = _
    rw [Nat.shiftLeft_eq, Nat.mul_one]
  rw [hunfold]
  exact hround

/-- Whole numbers are rounded when they are converted. -/
theorem rounds_ofNat
    (n : Nat) :
    Rounds (Float.ofNat n) n := by
  change Rounds (Float.ofScientific n false 0) n
  unfold Float.ofScientific
  split
  · rename_i hsmall
    have hn : n.toUInt64.toNat = n := Nat.mod_eq_of_lt (by omega)
    have hconverted := rounds_toFloat n.toUInt64
    rw [hn] at hconverted
    have hn : (n : ℝ) ≤ 2 ^ (53 : Int) := by
      rw [zpow_ofNat]
      exact_mod_cast hsmall.1.le
    have hrepresentable : Representable n := by
      exact_mod_cast representable_intCast (k := n) (by rw [Nat.abs_cast]; exact_mod_cast hsmall.1.le)
    have hbounded := hconverted.bounded hrepresentable
      (hn.trans (two_zpow_le_largest (by decide))) (by rw [Nat.abs_cast])
    have hvalue := (hconverted.nearest hbounded.finite).eq hrepresentable
    have hproduct := rounds_mul hbounded.finite value_one.1
    rw [hvalue, value_one.2, mul_one] at hproduct
    exact hproduct
  · rename_i hlarge
    exact rounds_pack (rounded_ofScientific (by omega))

theorem Rounds.neg
    {z : ℝ}
    (h : Rounds x z) :
    Rounds (-x) (-z) := by
  obtain ⟨u, hx, hu⟩ := h
  refine ⟨u.neg, ?_, isFinite_neg hu.finite, isCanonical_neg hu.canonical, ?_⟩
  · rw [unpack_neg, hx]
    cases u with
    | finite s m e hm =>
        by_cases he : e < 972
        · rw [held_of_lt he]
          exact (held_of_lt he).symm
        · rw [held_of_le (not_lt.mp he)]
          exact (held_of_le (not_lt.mp he)).symm
    | _ => rfl
  · rw [unpackedValue_neg]
    exact hu.nearest.neg

theorem rounds_ofInt
    (n : Int) :
    Rounds (Number.ofInt n) n := by
  change Rounds (Float.ofInt n) n
  cases n with
  | ofNat n => exact rounds_ofNat n
  | negSucc n =>
      rw [Int.cast_negSucc]
      exact (rounds_ofNat (n + 1)).neg

end Operations

end Double
end Diorama
