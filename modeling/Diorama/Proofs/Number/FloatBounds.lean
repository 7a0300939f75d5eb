import Diorama.Proofs.Number.FloatInfinity

/-!
# Bounds of doubles

A representable bound on an exact result holds of the rounded result as well, from above and from
below.  From above it also keeps the result finite; from below the result may be infinity.

**Main statements.**
* `Bounded.add`, `Bounded.sub`, `Bounded.mul`: results of bounded operands are bounded.
* `AtLeast.add`, `AtLeast.sqrt`: sums and roots of what is large are large.
* `AtLeast.bounded_div`: a quotient by what is large is bounded, infinite divisors included.
* `Nearest.abs_sub_le_roundoff`: how far rounding moves a number.
* `Nearest.abs_sub_le`: rounding moves what is not tiny by an eighth of it at most.
-/

namespace Diorama
namespace Double

open Float.Model (UnpackedFloat Format)
open Float.Model.UnpackedFloat (Sign)

section Bounds

variable {x y : Float} {r s t : ℝ}

/-! ## Bounds from above -/

/-- A number that is rounded to itself and is not too large. -/
structure Bound
    (r : ℝ) : Prop where
  representable : Representable r
  le_largest : r ≤ largest

theorem one_le_largest :
    (1 : ℝ) ≤ largest := by
  simpa using two_zpow_le_largest (e := 0) (by decide)

theorem largest_lt :
    largest < 2 ^ (1024 : Int) := by
  have hpos := two_zpow_pos 971
  have hpower : (2 : ℝ) ^ (1024 : Int) = 2 ^ 53 * 2 ^ (971 : Int) := by
    rw [show (1024 : Int) = 53 + 971 from rfl, zpow_add₀ two_ne_zero, zpow_ofNat]
  rw [largest, Nat.cast_ofNat, hpower]
  exact mul_lt_mul_of_pos_right (by norm_num) hpos

theorem Bound.zpow
    {e : Int}
    (hlow : -1074 ≤ e)
    (hhigh : e ≤ 1023) :
    Bound (2 ^ e) :=
  ⟨representable_zpow hlow, two_zpow_le_largest hhigh⟩

theorem Bound.natCast
    {n : Nat}
    (hn : n ≤ 2 ^ 53) :
    Bound n := by
  constructor
  · exact_mod_cast representable_intCast (k := n) (by rw [Nat.abs_cast]; exact_mod_cast hn)
  · calc
      (n : ℝ) ≤ 2 ^ (53 : Int) := by
          rw [zpow_ofNat]
          exact_mod_cast hn
      _ ≤ largest := two_zpow_le_largest (by decide)

theorem Bounded.mono
    (hx : Bounded x r)
    (h : r ≤ s) :
    Bounded x s :=
  ⟨hx.finite, hx.abs_le.trans h⟩

/-- A bound that is a power of two can be checked by comparing doubles. -/
theorem bounded_of_less
    {k : Nat}
    (hk : k ≤ 1023)
    (h : x.isFinite = true ∧ Scalar.less (-Number.ofInt (2 ^ k)) x = true
      ∧ Scalar.less x (Number.ofInt (2 ^ k)) = true) :
    Bounded x (2 ^ (k : Int)) := by
  obtain ⟨hx, hlow, hhigh⟩ := h
  have hbound : Bound (2 ^ (k : Int)) := .zpow (by omega) (by omega)
  have hrounds := rounds_ofInt (2 ^ k)
  rw [Int.cast_pow, Int.cast_ofNat, ← zpow_natCast] at hrounds
  have hfinite := (hrounds.bounded hbound.representable hbound.le_largest
    (abs_of_pos (two_zpow_pos _)).le).finite
  have hvalue := (hrounds.nearest hfinite).eq hbound.representable
  rw [less_iff_value (by rwa [isFinite_neg_iff]) hx, value_neg, hvalue] at hlow
  rw [less_iff_value hx hfinite, hvalue] at hhigh
  exact ⟨hx, abs_le.mpr ⟨hlow.le, hhigh.le⟩⟩

theorem Bounded.add
    (hx : Bounded x r)
    (hy : Bounded y s)
    (ht : Bound t)
    (h : r + s ≤ t) :
    Bounded (x + y) t :=
  (rounds_add hx.finite hy.finite).bounded ht.representable ht.le_largest
    (by linarith [abs_add_le (value x) (value y), hx.abs_le, hy.abs_le])

theorem Bounded.sub
    (hx : Bounded x r)
    (hy : Bounded y s)
    (ht : Bound t)
    (h : r + s ≤ t) :
    Bounded (x - y) t :=
  (rounds_sub hx.finite hy.finite).bounded ht.representable ht.le_largest
    (by linarith [abs_sub (value x) (value y), hx.abs_le, hy.abs_le])

theorem Bounded.mul
    (hx : Bounded x r)
    (hy : Bounded y s)
    (ht : Bound t)
    (h : r * s ≤ t) :
    Bounded (x * y) t := by
  refine (rounds_mul hx.finite hy.finite).bounded ht.representable ht.le_largest (le_trans ?_ h)
  rw [abs_mul]
  exact mul_le_mul hx.abs_le hy.abs_le (abs_nonneg _) ((abs_nonneg _).trans hx.abs_le)

/-! ## Bounds from below -/

/-- A double that is not below a number; it may be infinity. -/
def AtLeast
    (x : Float)
    (r : ℝ) :
    Prop :=
  (x.isFinite = true ∧ r ≤ value x) ∨ x.toModel.unpack = .infinity .positive

/-- A result that is not finite is infinity on the side of a number that is too large. -/
theorem Rounds.finite_or_infinite
    {z : ℝ}
    (h : Rounds x z) :
    (x.isFinite = true ∧ Nearest (value x) z)
      ∨ (x.toModel.unpack = .infinity .positive ∧ largest ≤ z)
      ∨ (x.toModel.unpack = .infinity .negative ∧ z ≤ -largest) := by
  by_cases hfinite : x.isFinite = true
  · exact .inl ⟨hfinite, h.nearest hfinite⟩
  · right
    have hlarge : largest ≤ |z| := by
      by_contra hsmall
      exact hfinite (h.finite (by linarith [overflowGap_pos]))
    have hpos := zero_lt_one.trans_le one_le_largest
    obtain ⟨u, hx, hu⟩ := h
    change ¬x.toModel.unpack.isFinite = true at hfinite
    rw [hx] at hfinite ⊢
    cases u with
    | notANumber => cases hu.finite
    | infinity sign => cases hu.finite
    | zero sign => exact absurd rfl hfinite
    | finite sign m e hm =>
        have hmantissa := mantissa_pos (e := e) hm
        have hheld : held (.finite sign m e hm) = .infinity sign := by
          by_cases he : e < 972
          · rw [held_of_lt he] at hfinite
            exact absurd rfl hfinite
          · exact held_of_le (not_lt.mp he)
        have hnearest := hu.nearest
        rw [unpackedValue_finite] at hnearest
        rw [hheld]
        rcases le_abs.mp hlarge with hz | hz
        · have hnonneg := hnearest.ge representable_zero (hpos.le.trans hz)
          cases sign with
          | positive => exact .inl ⟨rfl, hz⟩
          | negative =>
              rw [signum] at hnonneg
              linarith
        · have hnonpos := hnearest.le representable_zero (by linarith)
          cases sign with
          | positive =>
              rw [signum] at hnonpos
              linarith
          | negative => exact .inr ⟨rfl, by linarith⟩

/-- A result is not below a representable number that its exact value is not below. -/
theorem Rounds.atLeast
    {z : ℝ}
    (h : Rounds x z)
    (hr : Representable r)
    (hnonneg : 0 ≤ r)
    (hz : r ≤ z) :
    AtLeast x r := by
  rcases h.finite_or_infinite with ⟨hfinite, hnearest⟩ | ⟨hinfinite, -⟩ | ⟨-, hlarge⟩
  · exact .inl ⟨hfinite, hnearest.ge hr hz⟩
  · exact .inr hinfinite
  · linarith [one_le_largest]

theorem AtLeast.add
    (hx : AtLeast x r)
    (hy : AtLeast y s)
    (ht : Representable t)
    (hnonneg : 0 ≤ t)
    (h : t ≤ r + s) :
    AtLeast (x + y) t := by
  rcases hx with ⟨hx, hr⟩ | hx
  · rcases hy with ⟨hy, hs⟩ | hy
    · exact (rounds_add hx hy).atLeast ht hnonneg (by linarith)
    · right
      change x.toModel.unpack.isFinite = true at hx
      rw [unpack_add, hy]
      generalize x.toModel.unpack = a at hx ⊢
      cases a <;> first | rfl | cases hx
  · right
    rw [unpack_add, hx]
    rcases hy with ⟨hy, hs⟩ | hy
    · change y.toModel.unpack.isFinite = true at hy
      generalize y.toModel.unpack = b at hy ⊢
      cases b <;> first | rfl | cases hy
    · rw [hy]
      rfl

theorem atLeast_mul_self
    (hx : x.isFinite = true)
    (hr : Representable r)
    (hnonneg : 0 ≤ r)
    (h : r ≤ value x * value x) :
    AtLeast (x * x) r :=
  (rounds_mul hx hx).atLeast hr hnonneg h

theorem AtLeast.sqrt
    (hx : AtLeast x (r * r))
    (hr : Representable r)
    (hnonneg : 0 ≤ r) :
    AtLeast x.sqrt r := by
  rcases hx with ⟨hx, hsquare⟩ | hx
  · exact (rounds_sqrt hx ((mul_self_nonneg r).trans hsquare)).atLeast hr hnonneg
      (Real.le_sqrt_of_sq_le (by rwa [sq]))
  · right
    have hroot : x.sqrt.toModel.unpack
        = (Float.Model.pack (UnpackedFloat.sqrt Format.binary64 x.toModel.unpack)).unpack := rfl
    rw [hroot, hx]
    exact unpack_pack trivial

/-- Dividing by what is large leads to what is small; infinity divides to zero. -/
theorem AtLeast.bounded_div
    (hy : AtLeast y r)
    (hpos : 0 < r)
    (hx : x.isFinite = true)
    (ht : Bound t)
    (h : |value x| ≤ t * r) :
    Bounded (x / y) t := by
  have ht' : 0 ≤ t := nonneg_of_mul_nonneg_left ((abs_nonneg _).trans h) hpos
  rcases hy with ⟨hy, hr⟩ | hy
  · have hy' : 0 < value y := hpos.trans_le hr
    refine (rounds_div hx hy hy'.ne').bounded ht.representable ht.le_largest ?_
    rw [abs_div, abs_of_pos hy', div_le_iff₀ hy']
    exact h.trans (mul_le_mul_of_nonneg_left hr ht')
  · have hquotient : ∃ sign, (x / y).toModel.unpack = .zero sign := by
      have hpack : (x / y).toModel.unpack
          = (Float.Model.pack (UnpackedFloat.div Format.binary64 x.toModel.unpack
            y.toModel.unpack)).unpack := rfl
      change x.toModel.unpack.isFinite = true at hx
      rw [hpack, hy]
      generalize x.toModel.unpack = a at hx ⊢
      cases a with
      | notANumber => cases hx
      | infinity sign => cases hx
      | zero sign => exact ⟨_, unpack_pack trivial⟩
      | finite sign m e hm => exact ⟨_, unpack_pack trivial⟩
    obtain ⟨sign, hquotient⟩ := hquotient
    constructor
    · change (x / y).toModel.unpack.isFinite = true
      rw [hquotient]
      rfl
    · unfold value
      rw [hquotient, unpackedValue_zero, abs_zero]
      exact ht'

/-- There is no positive double below the smallest one. -/
theorem Representable.two_zpow_le
    (hr : Representable r)
    (hpos : 0 < r) :
    2 ^ (-1074 : Int) ≤ r := by
  obtain ⟨k, e, rfl, -, he⟩ := hr
  have hk : 0 < k := by
    by_contra hk
    have hk : (k : ℝ) ≤ 0 := by exact_mod_cast not_lt.mp hk
    linarith [mul_nonpos_of_nonpos_of_nonneg hk (two_zpow_pos e).le]
  have hone : (1 : ℝ) ≤ k := by exact_mod_cast hk
  calc
    (2 ^ (-1074 : Int) : ℝ) ≤ 2 ^ e := zpow_le_zpow_right₀ one_le_two he
    _ ≤ k * 2 ^ e := le_mul_of_one_le_left (two_zpow_pos e).le hone

/-! ## Relative bounds -/

/-- Half of the distance from one to the next double. -/
noncomputable def roundoff : ℝ :=
  2 ^ (-53 : Int)

/-- Half of the smallest positive double. -/
noncomputable def underflow : ℝ :=
  2 ^ (-1075 : Int)

theorem roundoff_pos :
    0 < roundoff :=
  two_zpow_pos (-53)

theorem underflow_pos :
    0 < underflow :=
  two_zpow_pos (-1075)

theorem roundoff_le :
    roundoff ≤ 1 / 100 :=
  (zpow_le_zpow_right₀ one_le_two (by norm_num : (-53 : Int) ≤ -7)).trans (by norm_num)

theorem underflow_mul_largest_le :
    underflow * largest ≤ 1 / 100 :=
  calc
    underflow * largest ≤ underflow * 2 ^ (1024 : Int) :=
      mul_le_mul_of_nonneg_left largest_lt.le underflow_pos.le
    _ = 2 ^ (-51 : Int) := by
        rw [underflow, ← zpow_add₀ two_ne_zero]
        norm_num
    _ ≤ 1 / 100 :=
        (zpow_le_zpow_right₀ one_le_two (by norm_num : (-51 : Int) ≤ -7)).trans (by norm_num)

/-- A number that is not tiny lies between two representable ones that are an eighth of it apart. -/
theorem exists_representable_near
    {z : ℝ}
    (hz : 2 ^ (-1000 : Int) ≤ z) :
    ∃ r s, Representable r ∧ Representable s ∧ z - z / 8 ≤ r ∧ r ≤ z ∧ z ≤ s ∧ s ≤ z + z / 8 := by
  obtain ⟨k, hlow, hhigh⟩ :=
    exists_mem_Ico_zpow ((two_zpow_pos (-1000)).trans_le hz) (one_lt_two (α := ℝ))
  have hk : -1000 < k + 1 := (zpow_lt_zpow_iff_right₀ one_lt_two).mp (hz.trans_lt hhigh)
  have hgrid := two_zpow_pos (k - 3)
  have hpower : (2 : ℝ) ^ k = 8 * 2 ^ (k - 3) := by
    rw [zpow_sub₀ two_ne_zero]
    norm_num
    ring
  rw [zpow_add_one₀ two_ne_zero, hpower] at hhigh
  rw [hpower] at hlow
  have hfloor := Int.floor_le (z / 2 ^ (k - 3))
  have hceil := Int.lt_floor_add_one (z / 2 ^ (k - 3))
  rw [le_div_iff₀ hgrid] at hfloor
  rw [div_lt_iff₀ hgrid] at hceil
  have height : 8 ≤ ⌊z / 2 ^ (k - 3)⌋ := by
    rw [Int.le_floor, le_div_iff₀ hgrid]
    exact_mod_cast hlow
  have hsixteen : ⌊z / 2 ^ (k - 3)⌋ < 16 := by
    rw [Int.floor_lt, div_lt_iff₀ hgrid]
    push_cast
    linarith
  generalize ⌊z / 2 ^ (k - 3)⌋ = m at hfloor hceil height hsixteen
  refine ⟨m * 2 ^ (k - 3), (m + 1) * 2 ^ (k - 3), ⟨m, k - 3, rfl, ?_, by omega⟩,
    ⟨m + 1, k - 3, by push_cast; rfl, ?_, by omega⟩, ?_, hfloor, hceil.le, ?_⟩
  · rw [abs_of_nonneg (by omega)]
    omega
  · rw [abs_of_nonneg (by omega)]
    omega
  · linarith
  · linarith

/-- Rounding moves a number by half of a unit in its last place at most. -/
theorem Nearest.abs_sub_le_roundoff
    {z : ℝ}
    (h : Nearest r z) :
    |r - z| ≤ roundoff * |z| + underflow := by
  have hpositive {r z : ℝ} (h : Nearest r z) (hz : 0 < z) :
      |r - z| ≤ roundoff * z + underflow := by
    obtain ⟨k, hlow, hhigh⟩ := exists_mem_Ico_zpow hz (one_lt_two (α := ℝ))
    -- the neighbours of `z` on the grid that 53 bits can hold
    obtain ⟨g, hg⟩ : ∃ g, g = max (k - 52) (-1074) := ⟨_, rfl⟩
    have hgrid := two_zpow_pos g
    have hfloor := Int.floor_le (z / 2 ^ g)
    have hceil := Int.lt_floor_add_one (z / 2 ^ g)
    rw [le_div_iff₀ hgrid] at hfloor
    rw [div_lt_iff₀ hgrid] at hceil
    have hnonneg : 0 ≤ ⌊z / 2 ^ g⌋ := Int.floor_nonneg.mpr (div_pos hz hgrid).le
    have hsmall : ⌊z / 2 ^ g⌋ < 2 ^ 53 := by
      rw [Int.floor_lt, div_lt_iff₀ hgrid]
      calc
        z < 2 ^ (k + 1) := hhigh
        _ ≤ 2 ^ (53 + g) := zpow_le_zpow_right₀ one_le_two (by omega)
        _ = ((2 ^ 53 : Int) : ℝ) * 2 ^ g := by
            rw [zpow_add₀ two_ne_zero]
            norm_num
    generalize ⌊z / 2 ^ g⌋ = m at hfloor hceil hnonneg hsmall
    have hbelow := h.closest (m * 2 ^ g) ⟨m, g, rfl, by rw [abs_of_nonneg] <;> omega, by omega⟩
    have habove := h.closest ((m + 1 : Int) * 2 ^ g)
      ⟨m + 1, g, rfl, by rw [abs_of_nonneg] <;> omega, by omega⟩
    push_cast at habove
    rw [abs_of_nonpos (a := m * 2 ^ g - z) (by linarith)] at hbelow
    rw [abs_of_nonneg (a := (m + 1) * 2 ^ g - z) (by linarith)] at habove
    have hhalf : (2 : ℝ) ^ g ≤ 2 * (roundoff * z + underflow) := by
      have htiny : (2 : ℝ) ^ (-1074 : Int) = 2 * underflow := by
        rw [underflow, ← zpow_one_add₀ two_ne_zero]
        norm_num
      have hpart : (2 : ℝ) ^ (k - 52) = 2 * (roundoff * 2 ^ k) := by
        rw [roundoff, ← zpow_add₀ two_ne_zero, ← zpow_one_add₀ two_ne_zero]
        congr 1
        omega
      have hz' := mul_le_mul_of_nonneg_left hlow roundoff_pos.le
      have htiny' := underflow_pos
      have hpart' := mul_pos roundoff_pos hz
      rcases max_choice (k - 52) (-1074) with hmax | hmax <;> rw [hg, hmax] <;> linarith
    linarith
  rcases lt_trichotomy z 0 with hneg | rfl | hpos
  · have hmirror := hpositive h.neg (neg_pos.mpr hneg)
    rwa [neg_sub_neg, abs_sub_comm, ← abs_of_neg hneg] at hmirror
  · rw [h.eq representable_zero, sub_self, abs_zero, mul_zero, zero_add]
    exact underflow_pos.le
  · rw [abs_of_pos hpos]
    exact hpositive h hpos

/-- Rounding moves a number that is not tiny by an eighth of it at most. -/
theorem Nearest.abs_sub_le
    {z : ℝ}
    (h : Nearest r z)
    (hz : 2 ^ (-1000 : Int) ≤ |z|) :
    |r - z| ≤ |z| / 8 := by
  have hmissed := h.abs_sub_le_roundoff
  have hrelative := mul_le_mul_of_nonneg_right roundoff_le (abs_nonneg z)
  have htiny : underflow ≤ |z| * (1 / 100) :=
    calc
      underflow = 2 ^ (-1000 : Int) * 2 ^ (-75 : Int) := by
          rw [underflow, ← zpow_add₀ two_ne_zero]
          congr 1
      _ ≤ |z| * (1 / 100) := mul_le_mul hz (by norm_num) (two_zpow_pos _).le (abs_nonneg z)
  linarith only [hmissed, hrelative, htiny, abs_nonneg z]

/-! ## Infinities in comparisons -/

theorem less_infinity_iff
    {sign : Sign}
    (hx : x.isFinite = true)
    (hy : y.toModel.unpack = .infinity sign) :
    (Scalar.less x y = true ↔ sign = .positive) ∧ (Scalar.less y x = true ↔ sign = .negative) := by
  have hless (a b : Float) :
      Scalar.less a b = true ↔ a.toModel.unpack.lt b.toModel.unpack = true :=
    decide_eq_true_iff.trans decide_eq_true_iff
  change x.toModel.unpack.isFinite = true at hx
  rw [hless, hless, hy]
  generalize x.toModel.unpack = a at hx
  cases a with
  | notANumber => cases hx
  | infinity s => cases hx
  | _ s =>
      cases sign with
      | positive =>
          cases s <;> exact ⟨iff_of_true rfl rfl, iff_of_false Bool.false_ne_true nofun⟩
      | negative =>
          cases s <;> exact ⟨iff_of_false Bool.false_ne_true nofun, iff_of_true rfl rfl⟩

/-! ## Zero -/

theorem value_zero :
    (0 : Float).isFinite = true ∧ value 0 = 0 :=
  ⟨rfl, rfl⟩

theorem beq_zero_iff_value
    (hx : x.isFinite = true) :
    (x == 0) = true ↔ value x = 0 :=
  same_iff_value hx value_zero.1

theorem pos_iff_value
    (hx : x.isFinite = true) :
    0 < x ↔ 0 < value x :=
  decide_eq_true_iff.symm.trans (less_iff_value value_zero.1 hx)

theorem AtLeast.not_beq_zero
    (hx : AtLeast x r)
    (hpos : 0 < r) :
    ¬(x == 0) = true := by
  rcases hx with ⟨hx, hr⟩ | hx
  · rw [beq_zero_iff_value hx]
    exact (hpos.trans_le hr).ne'
  · rw [beq_zero_iff, hx]
    rintro ⟨sign, ⟨⟩⟩

end Bounds

end Double
end Diorama
