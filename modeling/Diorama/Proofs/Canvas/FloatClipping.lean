import Diorama.Canvas.Clip
import Diorama.Proofs.Number.FloatBounds

/-!
# Clipping doubles

The parameters that clipping finds are quotients, which are rounded and may be infinite.  They are
compared only, so that what is kept stays between zero and one, and on the inner side of every side
of the border as far as representable numbers can tell.  On a segment whose extent is finite this
keeps the ends of the part that is left away from the largest doubles, however large the ends of the
segment are: where they are large, the parameters turn them back by all but half.

**Main statements.**
* `Segment.cut_narrow`, `Segment.cut_foldlM`: what one side, and several sides, leave of a part.
* `Segment.Part.CutAcross.bounded`: the ends of what is left are bounded by half of the largest
  double.
-/

namespace Diorama

open Double
open Scalar (less same larger smaller)

namespace Segment

/-- A part between two parameters from zero to one. -/
structure Part.Proper
    (part : Part Float) : Prop where
  first_finite : part.first.isFinite = true
  last_finite : part.last.isFinite = true
  first_nonneg : 0 ≤ value part.first
  first_le_last : value part.first ≤ value part.last
  last_le_one : value part.last ≤ 1

/-- The inner side of a side of the border, as far as representable numbers tell. -/
structure Part.Inside
    (part : Part Float)
    (side : Float × Float) : Prop where
  along : value side.1 = 0 → 0 ≤ value side.2
  first_ge : value side.1 < 0 →
    ∀ r, Representable r → r ≤ value side.2 / value side.1 → r ≤ value part.first
  last_le : 0 < value side.1 →
    ∀ r, Representable r → value side.2 / value side.1 ≤ r → value part.last ≤ r

/-- A part of a part. -/
structure Part.Within
    (part whole : Part Float) : Prop where
  first_ge : value whole.first ≤ value part.first
  last_le : value part.last ≤ value whole.last

section Parts

variable {part rest whole : Part Float} {side : Float × Float}

theorem Part.Within.refl
    (part : Part Float) :
    part.Within part :=
  ⟨le_rfl, le_rfl⟩

theorem Part.Within.trans
    (h : rest.Within part)
    (h' : part.Within whole) :
    rest.Within whole :=
  ⟨h'.first_ge.trans h.first_ge, h.last_le.trans h'.last_le⟩

theorem Part.Inside.mono
    (h : part.Inside side)
    (hrest : rest.Within part) :
    rest.Inside side where
  along := h.along
  first_ge hneg r hr hle := (h.first_ge hneg r hr hle).trans hrest.first_ge
  last_le hpos r hr hle := hrest.last_le.trans (h.last_le hpos r hr hle)

/-- A side that cuts off what is in front of a parameter. -/
theorem cut_front
    {t : Float}
    {z : ℝ}
    (hpart : part.Proper)
    (ht : Rounds t z)
    (hreach : ¬less part.last t = true) :
    (⟨larger part.first t, part.last⟩ : Part Float).Proper
      ∧ (⟨larger part.first t, part.last⟩ : Part Float).Within part
      ∧ ∀ r, Representable r → r ≤ z → r ≤ value (larger part.first t) := by
  unfold larger
  rcases ht.finite_or_infinite with ⟨hfinite, hnearest⟩ | ⟨hinfinite, -⟩ | ⟨hinfinite, hlarge⟩
  · rw [less_iff_value hpart.last_finite hfinite, not_lt] at hreach
    simp only [less_iff_value hpart.first_finite hfinite]
    split
    · rename_i hlater
      refine ⟨⟨hfinite, hpart.last_finite, hpart.first_nonneg.trans hlater.le, hreach,
        hpart.last_le_one⟩, ⟨hlater.le, le_rfl⟩, fun r hr hle => hnearest.ge hr hle⟩
    · rename_i hearlier
      refine ⟨hpart, .refl part, fun r hr hle => ?_⟩
      exact (hnearest.ge hr hle).trans (not_lt.mp hearlier)
  · exact absurd ((less_infinity_iff hpart.last_finite hinfinite).1.mpr rfl) hreach
  · have hless : ¬less part.first t = true := by
      rw [(less_infinity_iff hpart.first_finite hinfinite).1]
      simp
    rw [if_neg hless]
    refine ⟨hpart, .refl part, fun r _ hle => ?_⟩
    linarith [hpart.first_nonneg, one_le_largest]

/-- A side that cuts off what is behind a parameter. -/
theorem cut_back
    {t : Float}
    {z : ℝ}
    (hpart : part.Proper)
    (ht : Rounds t z)
    (hreach : ¬less t part.first = true) :
    (⟨part.first, smaller part.last t⟩ : Part Float).Proper
      ∧ (⟨part.first, smaller part.last t⟩ : Part Float).Within part
      ∧ ∀ r, Representable r → z ≤ r → value (smaller part.last t) ≤ r := by
  unfold smaller
  rcases ht.finite_or_infinite with ⟨hfinite, hnearest⟩ | ⟨hinfinite, hlarge⟩ | ⟨hinfinite, -⟩
  · rw [less_iff_value hfinite hpart.first_finite, not_lt] at hreach
    simp only [less_iff_value hfinite hpart.last_finite]
    split
    · rename_i hearlier
      refine ⟨⟨hpart.first_finite, hfinite, hpart.first_nonneg, hreach,
        hearlier.le.trans hpart.last_le_one⟩, ⟨le_rfl, hearlier.le⟩,
        fun r hr hle => hnearest.le hr hle⟩
    · rename_i hlater
      refine ⟨hpart, .refl part, fun r hr hle => ?_⟩
      exact (not_lt.mp hlater).trans (hnearest.le hr hle)
  · have hless : ¬less t part.last = true := by
      rw [(less_infinity_iff hpart.last_finite hinfinite).2]
      simp
    rw [if_neg hless]
    refine ⟨hpart, .refl part, fun r _ hle => ?_⟩
    linarith [hpart.last_le_one, one_le_largest]
  · exact absurd ((less_infinity_iff hpart.first_finite hinfinite).2.mpr rfl) hreach

/-- What a side of the border leaves of a part is on its inner side. -/
theorem cut_narrow
    (hpart : part.Proper)
    (hp : side.1.isFinite = true)
    (hq : side.2.isFinite = true)
    (h : narrow part side = some rest) :
    rest.Proper ∧ rest.Within part ∧ rest.Inside side := by
  obtain ⟨p, q⟩ := side
  have hzero : (Scalar.zero : Float).isFinite = true ∧ value Scalar.zero = 0 := ⟨rfl, rfl⟩
  unfold narrow at h
  simp only [same_iff_value hp hzero.1, less_iff_value hp hzero.1, less_iff_value hq hzero.1,
    hzero.2] at h
  split at h
  · rename_i hp0
    split at h
    · cases h
    · rename_i hq0
      cases h
      exact ⟨hpart, .refl part, fun _ => not_lt.mp hq0, fun hneg => absurd hp0 hneg.ne,
        fun hpos => absurd hp0 hpos.ne'⟩
  · rename_i hp0
    have ht := rounds_div hq hp hp0
    split at h
    · rename_i hneg
      split at h
      · cases h
      · rename_i hreach
        cases h
        obtain ⟨hproper, hwithin, hfirst⟩ := cut_front hpart ht hreach
        exact ⟨hproper, hwithin, fun h0 => absurd h0 hp0, fun _ => hfirst,
          fun hpos => absurd hpos hneg.not_gt⟩
    · rename_i hnonneg
      split at h
      · cases h
      · rename_i hreach
        cases h
        obtain ⟨hproper, hwithin, hlast⟩ := cut_back hpart ht hreach
        exact ⟨hproper, hwithin, fun h0 => absurd h0 hp0, fun hneg => absurd hneg hnonneg,
          fun _ => hlast⟩

/-- What several sides leave of a part is on the inner side of them all. -/
theorem cut_foldlM
    (sides : List (Float × Float))
    (hpart : part.Proper)
    (hsides : ∀ side ∈ sides, side.1.isFinite = true ∧ side.2.isFinite = true)
    (h : sides.foldlM narrow part = some rest) :
    rest.Proper ∧ rest.Within part ∧ ∀ side ∈ sides, rest.Inside side := by
  induction sides generalizing part with
  | nil =>
      cases h
      exact ⟨hpart, .refl _, by simp⟩
  | cons side sides ih =>
      obtain ⟨hside, hsides⟩ := List.forall_mem_cons.mp hsides
      rw [List.foldlM_cons] at h
      obtain ⟨next, hnext, h⟩ := Option.bind_eq_some_iff.mp h
      obtain ⟨hproper, hwithin, hinside⟩ := cut_narrow hpart hside.1 hside.2 hnext
      obtain ⟨hrest, hrest', hinsides⟩ := ih hproper hsides h
      exact ⟨hrest, hrest'.trans hwithin, List.forall_mem_cons.mpr ⟨hinside.mono hrest', hinsides⟩⟩

end Parts

/-! ## Coordinates -/

/-- What is far from zero stays far from tiny when it is divided by an extent. -/
theorem two_zpow_le_div
    {extent far : ℝ}
    (hpos : 0 < extent)
    (hextent : extent ≤ largest)
    (hfar : 2 ^ (99 : Int) ≤ far) :
    2 ^ (-1000 : Int) ≤ far / extent := by
  rw [le_div_iff₀ hpos]
  calc
    (2 ^ (-1000 : Int) * extent : ℝ) ≤ 2 ^ (-1000 : Int) * 2 ^ (1024 : Int) :=
        mul_le_mul_of_nonneg_left (hextent.trans largest_lt.le) (two_zpow_pos _).le
    _ = 2 ^ (24 : Int) := by
        rw [← zpow_add₀ two_ne_zero]
        rfl
    _ ≤ 2 ^ (99 : Int) := zpow_le_zpow_right₀ one_le_two (by decide)
    _ ≤ far := hfar

section Extent

variable {first last t extent front back : ℝ}

/-- Two sides that are cut at nearly the same place leave what is near that place only. -/
theorem near_of_cuts
    (far : ℝ)
    (hpos : 0 < extent)
    (hextent : extent ≤ largest)
    (hfar : 2 ^ (100 : Int) ≤ |far|)
    (hfront : |front + far| ≤ |far| / 7)
    (hback : |back - far| ≤ |far| / 7)
    (hfirst : ∀ r, Representable r → r ≤ front / -extent → r ≤ first)
    (hlast : ∀ r, Representable r → back / extent ≤ r → last ≤ r)
    (hnonneg : 0 ≤ first)
    (hlow : first ≤ t)
    (hhigh : t ≤ last) :
    |t * extent - far| ≤ 2 / 7 * |far| := by
  have hdouble : (2 : ℝ) ^ (100 : Int) = 2 * 2 ^ (99 : Int) := by
    rw [show (100 : Int) = 1 + 99 from rfl, zpow_add₀ two_ne_zero, zpow_one]
  have hlarge := two_zpow_pos 99
  obtain ⟨hback', hback''⟩ := abs_le.mp hback
  obtain ⟨hfront', hfront''⟩ := abs_le.mp hfront
  rcases abs_cases far with ⟨habs, -⟩ | ⟨habs, -⟩ <;>
    rw [habs] at hfar hback' hback'' hfront' hfront'' ⊢
  · have hturned : front / -extent = -front / extent := by rw [div_neg, neg_div]
    obtain ⟨r, -, hr, -, hnear, hle, -, -⟩ := exists_representable_near
      (two_zpow_le_div hpos hextent (show 2 ^ (99 : Int) ≤ -front by linarith))
    obtain ⟨-, s, -, hs, -, -, hge, hnear'⟩ := exists_representable_near
      (two_zpow_le_div hpos hextent (show 2 ^ (99 : Int) ≤ back by linarith))
    have hr' := hfirst r hr (by rwa [hturned])
    have hs' := hlast s hs hge
    have hbelow : 7 / 8 * -front ≤ t * extent := by
      have hquotient : 7 / 8 * (-front / extent) ≤ t := by linarith
      rwa [← mul_div_assoc, div_le_iff₀ hpos] at hquotient
    have habove : t * extent ≤ 9 / 8 * back := by
      have hquotient : t ≤ 9 / 8 * (back / extent) := by linarith
      rwa [← mul_div_assoc, le_div_iff₀ hpos] at hquotient
    exact abs_le.mpr ⟨by linarith, by linarith⟩
  · have hturned := two_zpow_le_div hpos hextent (show 2 ^ (99 : Int) ≤ -back by linarith)
    have hneg := hlast (-2 ^ (-1000 : Int)) (representable_zpow (by decide)).neg
      (by rw [neg_div] at hturned; linarith)
    linarith [two_zpow_pos (-1000)]

/-- A side that is cut near zero leaves little of any extent. -/
theorem mul_extent_le
    (hpos : 0 < extent)
    (hextent : extent ≤ largest)
    (hback : |back| ≤ 2 ^ (101 : Int))
    (hlast : ∀ r, Representable r → back / extent ≤ r → last ≤ r)
    (hhigh : t ≤ last)
    (hone : last ≤ 1) :
    t * extent ≤ 2 ^ (103 : Int) := by
  obtain ⟨k, hlow', hhigh'⟩ := exists_mem_Ico_zpow hpos (one_lt_two (α := ℝ))
  have hk : k < 1024 :=
    (zpow_lt_zpow_iff_right₀ one_lt_two).mp (hlow'.trans_lt (hextent.trans_lt largest_lt))
  by_cases hsmall : k + 1 ≤ 103
  · calc
      t * extent ≤ 1 * 2 ^ (k + 1) :=
          mul_le_mul (hhigh.trans hone) hhigh'.le hpos.le zero_le_one
      _ ≤ 2 ^ (103 : Int) := by
          rw [one_mul]
          exact zpow_le_zpow_right₀ one_le_two hsmall
  · have hquotient : back / extent ≤ 2 ^ (101 - k) := by
      rw [div_le_iff₀ hpos]
      calc
        back ≤ 2 ^ (101 - k + k) := by
            rw [sub_add_cancel]
            exact (le_abs_self back).trans hback
        _ ≤ 2 ^ (101 - k) * extent := by
            rw [zpow_add₀ two_ne_zero]
            exact mul_le_mul_of_nonneg_left hlow' (two_zpow_pos _).le
    have hlast' := hhigh.trans (hlast _ (representable_zpow (by omega)) hquotient)
    calc
      t * extent ≤ 2 ^ (101 - k) * 2 ^ (k + 1) :=
          mul_le_mul hlast' hhigh'.le hpos.le (two_zpow_pos _).le
      _ = 2 ^ (102 : Int) := by
          rw [← zpow_add₀ two_ne_zero]
          congr 1
          omega
      _ ≤ 2 ^ (103 : Int) := zpow_le_zpow_right₀ one_le_two (by decide)

end Extent

/-- Half of the largest double, which is the farthest that the ends of a clipped segment come. -/
noncomputable def farthest : ℝ :=
  ((2 : Nat) ^ 53 - 1) * (2 : Nat) ^ (970 : Int)

theorem two_mul_farthest :
    2 * farthest = largest := by
  rw [farthest, largest, Nat.cast_ofNat, show (971 : Int) = 1 + 970 from rfl,
    zpow_add₀ two_ne_zero, zpow_one]
  ring

theorem bound_farthest :
    Bound farthest := by
  constructor
  · refine ⟨2 ^ 53 - 1, 970, ?_, by norm_num, by decide⟩
    rw [farthest, Nat.cast_ofNat, Int.cast_sub, Int.cast_pow, Int.cast_ofNat, Int.cast_one]
  · linarith [two_mul_farthest, largest_nonneg]

theorem two_zpow_le_farthest
    {e : Int}
    (he : e ≤ 1022) :
    2 ^ e ≤ farthest := by
  have hlarge := two_zpow_le_largest (e := e + 1) (by omega)
  rw [zpow_add_one₀ two_ne_zero] at hlarge
  linarith [two_mul_farthest]

section Coordinate

variable {x d w t : Float} {part : Part Float}

theorem value_half :
    (Scalar.half : Float).isFinite = true ∧ value Scalar.half = 1 / 2 := by
  have hexact : Number.Exact.ofFloat Scalar.half = .finite false (2 ^ 52) (-53) := by
    decide +kernel
  obtain ⟨hfinite, hvalue⟩ := value_of_exact hexact
  refine ⟨hfinite, ?_⟩
  rw [hvalue]
  norm_num

/-- The distance from the lower side of the border is finite. -/
theorem nearest_add_half
    (hx : x.isFinite = true) :
    (x + Scalar.half).isFinite = true
      ∧ Nearest (value (x + Scalar.half)) (value x + 1 / 2) := by
  have hgap : (1 / 2 : ℝ) < overflowGap :=
    lt_trans (by norm_num) (one_lt_zpow₀ one_lt_two (by decide : (0 : Int) < 970))
  have hsum := rounds_add hx value_half.1
  rw [value_half.2] at hsum
  have htriangle := abs_add_le (value x) (1 / 2)
  rw [abs_of_pos (one_half_pos (α := ℝ))] at htriangle
  have hfinite := hsum.finite (by linarith [abs_value_le x])
  exact ⟨hfinite, hsum.nearest hfinite⟩

/-- The distance from the upper side of the border is finite. -/
theorem nearest_border_sub
    (hx : x.isFinite = true)
    (hw : Double.Bounded w (2 ^ (14 : Int))) :
    (w - x).isFinite = true ∧ Nearest (value (w - x)) (value w - value x) := by
  have hgap : (2 : ℝ) ^ (14 : Int) < overflowGap := zpow_lt_zpow_right₀ one_lt_two (by decide)
  have hdifference := rounds_sub hw.finite hx
  have hfinite := hdifference.finite
    (by linarith [abs_sub (value w) (value x), hw.abs_le, abs_value_le x])
  exact ⟨hfinite, hdifference.nearest hfinite⟩

/-- A part that the two sides of the border across one axis have cut. -/
structure Part.CutAcross
    (part : Part Float)
    (x d w : Float) : Prop where
  start : x.isFinite = true
  extent : d.isFinite = true
  border : Double.Bounded w (2 ^ (14 : Int))
  proper : part.Proper
  low : part.Inside (-d, x + Scalar.half)
  high : part.Inside (d, w - x)

/-- A parameter of a part. -/
structure Part.Has
    (part : Part Float)
    (t : Float) : Prop where
  finite : t.isFinite = true
  first_le : value part.first ≤ value t
  le_last : value t ≤ value part.last

theorem Part.Proper.has_first
    (h : part.Proper) :
    part.Has part.first :=
  ⟨h.first_finite, le_rfl, h.first_le_last⟩

theorem Part.Proper.has_last
    (h : part.Proper) :
    part.Has part.last :=
  ⟨h.last_finite, h.first_le_last, le_rfl⟩

/-- A cut in front and a cut behind, whichever way a segment goes. -/
theorem Part.CutAcross.exists_cuts
    (h : part.CutAcross x d w)
    (hd : value d ≠ 0) :
    ∃ front back : ℝ,
      (0 < value d ∧ front = value (x + Scalar.half) ∧ back = value (w - x)
          ∨ value d < 0 ∧ front = value (w - x) ∧ back = value (x + Scalar.half))
        ∧ (∀ r, Representable r → r ≤ front / -|value d| → r ≤ value part.first)
        ∧ (∀ r, Representable r → back / |value d| ≤ r → value part.last ≤ r) := by
  rcases hd.lt_or_gt with hneg | hpos
  · refine ⟨_, _, .inr ⟨hneg, rfl, rfl⟩, ?_, ?_⟩
    · rw [abs_of_neg hneg, neg_neg]
      exact h.high.first_ge hneg
    · have hlast := h.low.last_le
      rw [value_neg] at hlast
      rw [abs_of_neg hneg]
      exact hlast (neg_pos.mpr hneg)
  · refine ⟨_, _, .inl ⟨hpos, rfl, rfl⟩, ?_, ?_⟩
    · have hfirst := h.low.first_ge
      rw [value_neg] at hfirst
      rw [abs_of_pos hpos]
      exact hfirst (neg_lt_zero.mpr hpos)
    · rw [abs_of_pos hpos]
      exact h.high.last_le hpos

/-! ### Near the border -/

/-- Near the border, what is left of a segment is near the border. -/
theorem Part.CutAcross.bounded_near
    (h : part.CutAcross x d w)
    (ht : part.Has t)
    (hnear : |value x| ≤ 2 ^ (100 : Int)) :
    Double.Bounded (x + t * d) farthest := by
  have hproduct : |value t * value d| ≤ 2 ^ (103 : Int) := by
    rw [abs_mul, abs_of_nonneg (h.proper.first_nonneg.trans ht.first_le)]
    by_cases hzero : value d = 0
    · rw [hzero, abs_zero, mul_zero]
      exact (two_zpow_pos _).le
    · obtain ⟨front, back, hsides, -, hlast⟩ := h.exists_cuts hzero
      have hpower : (2 : ℝ) ^ (101 : Int) = 2 ^ (100 : Int) + 2 ^ (100 : Int) := by norm_num
      have hone : (1 / 2 : ℝ) ≤ 2 ^ (100 : Int) := by norm_num
      have hborder : (2 : ℝ) ^ (14 : Int) ≤ 2 ^ (100 : Int) := by norm_num
      have hback : |back| ≤ 2 ^ (101 : Int) := by
        rcases hsides with ⟨-, -, rfl⟩ | ⟨-, -, rfl⟩
        · refine (nearest_border_sub h.start h.border).2.bounded (representable_zpow (by decide)) ?_
          linarith [abs_sub (value w) (value x), h.border.abs_le]
        · refine (nearest_add_half h.start).2.bounded (representable_zpow (by decide)) ?_
          have htriangle := abs_add_le (value x) (1 / 2)
          rw [abs_of_pos (one_half_pos (α := ℝ))] at htriangle
          linarith
      exact mul_extent_le (abs_pos.mpr hzero) (abs_value_le d) hback hlast ht.le_last
        h.proper.last_le_one
  have hmoved := (rounds_mul ht.finite h.extent).bounded (representable_zpow (by decide))
    (two_zpow_le_largest (by decide)) hproduct
  have hsum := Double.Bounded.add ⟨h.start, hnear⟩ hmoved
    (.zpow (e := 104) (by decide) (by decide)) (by norm_num)
  exact hsum.mono (two_zpow_le_farthest (by decide))

/-! ### Far from the border -/

/-- Far from zero, rounding and moving by less than a few thousand change little. -/
theorem near_of_nearest
    {r z far : ℝ}
    (h : Nearest r z)
    (hmoved : |z - far| ≤ 2 ^ (14 : Int))
    (hfar : 2 ^ (100 : Int) ≤ |far|) :
    |r - far| ≤ |far| / 7 := by
  have hsmall : (1000 * 2 ^ (14 : Int) : ℝ) ≤ 2 ^ (100 : Int) := by norm_num
  have htiny : (2 : ℝ) ^ (-1000 : Int) ≤ 2 ^ (14 : Int) :=
    zpow_le_zpow_right₀ one_le_two (by decide)
  obtain ⟨hlow, hhigh⟩ := abs_le.mp ((abs_abs_sub_abs_le z far).trans hmoved)
  have hrounded := h.abs_sub_le (by linarith)
  have htriangle := abs_sub_le r z far
  linarith

/-- Far from the border, the distances from its two sides are nearly the same. -/
theorem Part.CutAcross.near_distances
    (h : part.CutAcross x d w)
    (hfar : 2 ^ (100 : Int) ≤ |value x|) :
    |value (x + Scalar.half) - value x| ≤ |value x| / 7
      ∧ |value (w - x) + value x| ≤ |value x| / 7 := by
  constructor
  · refine near_of_nearest (nearest_add_half h.start).2 ?_ hfar
    rw [add_sub_cancel_left]
    norm_num
  · rw [← abs_neg (value x), ← sub_neg_eq_add]
    refine near_of_nearest (nearest_border_sub h.start h.border).2 ?_ (by rwa [abs_neg])
    rw [sub_neg_eq_add, sub_add_cancel]
    exact h.border.abs_le

/-- What starts far from the border comes near it, so that it has an extent. -/
theorem Part.CutAcross.extent_ne_zero
    (h : part.CutAcross x d w)
    (hfar : 2 ^ (100 : Int) ≤ |value x|) :
    value d ≠ 0 := by
  intro hzero
  have hbelow := h.low.along (by rw [value_neg, hzero, neg_zero])
  have habove := h.high.along hzero
  have hpos := two_zpow_pos 100
  obtain ⟨hlow, hhigh⟩ := h.near_distances hfar
  rw [abs_le] at hlow hhigh
  rcases abs_cases (value x) with ⟨habs, -⟩ | ⟨habs, -⟩ <;> rw [habs] at hfar hlow hhigh <;>
    linarith

/-- The parameters turn what starts far from the border back by most of its distance. -/
theorem Part.CutAcross.turned_back
    (h : part.CutAcross x d w)
    (ht : part.Has t)
    (hfar : 2 ^ (100 : Int) ≤ |value x|) :
    |value x + value t * value d| ≤ 2 / 7 * |value x| := by
  have hzero := h.extent_ne_zero hfar
  have hextent := abs_pos.mpr hzero
  have hnonneg := h.proper.first_nonneg
  obtain ⟨hlow, hhigh⟩ := h.near_distances hfar
  obtain ⟨front, back, hsides, hfirst, hlast⟩ := h.exists_cuts hzero
  rcases hsides with ⟨hforward, rfl, rfl⟩ | ⟨hbackward, rfl, rfl⟩
  · have hcut := near_of_cuts (-value x) hextent (abs_value_le d) (by rwa [abs_neg])
      (by rwa [abs_neg, ← sub_eq_add_neg]) (by rwa [abs_neg, sub_neg_eq_add]) hfirst hlast hnonneg
      ht.first_le ht.le_last
    rwa [abs_neg, abs_of_pos hforward, sub_neg_eq_add, add_comm] at hcut
  · have hcut := near_of_cuts (value x) hextent (abs_value_le d) hfar hhigh hlow hfirst hlast
      hnonneg ht.first_le ht.le_last
    rwa [abs_of_neg hbackward, ← abs_neg, mul_neg, neg_sub, sub_neg_eq_add] at hcut

/-- Far from the border, rounding does not undo that half of the distance is turned back. -/
theorem Part.CutAcross.bounded_far
    (h : part.CutAcross x d w)
    (ht : part.Has t)
    (hfar : 2 ^ (100 : Int) ≤ |value x|) :
    Double.Bounded (x + t * d) farthest := by
  have hnonneg := h.proper.first_nonneg.trans ht.first_le
  have hturned := h.turned_back ht hfar
  have hproduct : |value t * value d| ≤ largest := by
    rw [abs_mul, abs_of_nonneg hnonneg]
    calc
      value t * |value d| ≤ 1 * |value d| :=
          mul_le_mul_of_nonneg_right (ht.le_last.trans h.proper.last_le_one) (abs_nonneg _)
      _ ≤ largest := by
          rw [one_mul]
          exact abs_value_le d
  have hmoved := rounds_mul ht.finite h.extent
  have hfinite := hmoved.finite (by linarith [overflowGap_pos])
  -- the product is about as far from zero as the start, and on its other side
  have hdifference := abs_abs_sub_abs_le (value x) (-(value t * value d))
  rw [abs_neg, sub_neg_eq_add] at hdifference
  obtain ⟨hshorter, hlonger⟩ := abs_le.mp (hdifference.trans hturned)
  have htiny : (2 * 2 ^ (-1000 : Int) : ℝ) ≤ 2 ^ (100 : Int) := by
    rw [← zpow_one_add₀ two_ne_zero]
    exact zpow_le_zpow_right₀ one_le_two (by decide)
  have hrounded := (hmoved.nearest hfinite).abs_sub_le (by linarith)
  refine (rounds_add h.start hfinite).bounded bound_farthest.representable
    bound_farthest.le_largest ?_
  have htriangle := abs_add_le (value x + value t * value d)
    (value (t * d) - value t * value d)
  rw [add_add_sub_cancel] at htriangle
  linarith [abs_value_le x, two_mul_farthest]

/-- The ends of what is left of a segment with a finite extent are bounded. -/
theorem Part.CutAcross.bounded
    (h : part.CutAcross x d w)
    (ht : part.Has t) :
    Double.Bounded (x + t * d) farthest := by
  rcases le_total |value x| (2 ^ (100 : Int)) with hnear | hfar
  · exact h.bounded_near ht hnear
  · exact h.bounded_far ht hfar

end Coordinate

end Segment
end Diorama
