import Diorama.Proofs.Number.FloatBounds

/-!
# Rounding keeps the order

Of two numbers the smaller one is not rounded to the greater result.  An exact result between a
double and a second exact result is thereby rounded to something between that double and the second
result, and it is finite if the second result is.  Two exact results that are equal may come from
different operands only if these are zeros of different signs, which a sum or a product of finite
doubles does not show in its value.

**Main statements.**
* `Nearest.mono_of_lt`: rounding keeps the order of different numbers.
* `Rounds.between`: results between a double and another result.
* `add_between`, `mul_between`: sums and products whose second operand is between zero and another.
-/

namespace Diorama
namespace Double

open Float.Model (UnpackedFloat)
open Float.Model.UnpackedFloat (Sign)

section Between

variable {x y : Float} {r s z w b : ℝ}

/-- Rounding keeps the order of different numbers; equally near results are the reason for that. -/
theorem Nearest.mono_of_lt
    (h : Nearest r z)
    (h' : Nearest s w)
    (hlt : z < w) :
    r ≤ s := by
  by_contra hgt
  have hgap : 0 < r - s := sub_pos.mpr (not_le.mp hgt)
  have hlow := sq_le_sq.mpr (h.closest s h'.representable)
  have hhigh := sq_le_sq.mpr (h'.closest r h.representable)
  -- the middle of the two results is at most `z` and at least `w`
  have hz : (r - s) * (r + s) ≤ (r - s) * (2 * z) := by linarith
  have hw : (r - s) * (2 * w) ≤ (r - s) * (r + s) := by linarith
  have hle := le_of_mul_le_mul_left (hw.trans hz) hgap
  linarith

/-- A result is the nearest representable number, as long as that is not too large. -/
theorem Rounds.exists_nearest
    (h : Rounds x z) :
    ∃ r, Nearest r z ∧ (|r| ≤ largest → x.isFinite = true ∧ value x = r) := by
  obtain ⟨u, hx, hu⟩ := h
  refine ⟨unpackedValue u, hu.nearest, fun hsmall => ?_⟩
  have hheld : held u = u := by
    cases u with
    | finite sign m e hm =>
        refine held_of_lt ?_
        by_contra he
        rw [abs_unpackedValue] at hsmall
        have hlarge := largest_add_le hu.canonical (not_lt.mp he)
        linarith [overflowGap_pos]
    | _ => rfl
  rw [hheld] at hx
  exact ⟨(congrArg UnpackedFloat.isFinite hx).trans hu.finite, congrArg unpackedValue hx⟩

/-- What is between a double and another exact result is rounded between that double and the other
result. -/
theorem Rounds.between
    (h : Rounds x z)
    (h' : Rounds y w)
    (hy : y.isFinite = true)
    (hb : Representable b)
    (hlargest : |b| ≤ largest)
    (hz : z ∈ Set.uIcc b w)
    (hne : z ≠ w) :
    x.isFinite = true ∧ value x ∈ Set.uIcc b (value y) := by
  obtain ⟨r, hr, hheld⟩ := h.exists_nearest
  have hs := h'.nearest hy
  obtain ⟨hblow, hbhigh⟩ := abs_le.mp hlargest
  obtain ⟨hylow, hyhigh⟩ := abs_le.mp (abs_value_le y)
  rcases Set.mem_uIcc.mp hz with ⟨hlow, hhigh⟩ | ⟨hlow, hhigh⟩
  · have hbr := hr.ge hb hlow
    have hrs := hr.mono_of_lt hs (lt_of_le_of_ne hhigh hne)
    obtain ⟨hfinite, rfl⟩ := hheld (abs_le.mpr ⟨by linarith, by linarith⟩)
    exact ⟨hfinite, Set.mem_uIcc.mpr (.inl ⟨hbr, hrs⟩)⟩
  · have hbr := hr.le hb hhigh
    have hrs := hs.mono_of_lt hr (lt_of_le_of_ne hlow hne.symm)
    obtain ⟨hfinite, rfl⟩ := hheld (abs_le.mpr ⟨by linarith, by linarith⟩)
    exact ⟨hfinite, Set.mem_uIcc.mpr (.inr ⟨hrs, hbr⟩)⟩

/-- A representable number that is not too large is rounded to itself. -/
theorem Rounds.exact
    (h : Rounds x r)
    (hr : Representable r)
    (hlargest : |r| ≤ largest) :
    x.isFinite = true ∧ value x = r := by
  have hfinite := h.finite (by linarith [overflowGap_pos])
  exact ⟨hfinite, (h.nearest hfinite).eq hr⟩

end Between

/-! ## Operands of one value -/

section Congruence

variable {a x y : Float}

/-- A finite double that is not zero is determined by its value. -/
theorem unpack_eq_of_value_eq
    (hx : x.isFinite = true)
    (hy : y.isFinite = true)
    (h : value x = value y)
    (hne : value x ≠ 0) :
    x.toModel.unpack = y.toModel.unpack := by
  have hsame := (same_iff_value hx hy).mpr h
  obtain ⟨rank, hrank, hrank'⟩ := (FloatOrder.same_iff x y).mp hsame
  unfold FloatOrder.rank? at hrank hrank'
  unfold value at hne
  change x.toModel.unpack.isFinite = true at hx
  change y.toModel.unpack.isFinite = true at hy
  generalize x.toModel.unpack = u at *
  generalize y.toModel.unpack = v at *
  cases u with
  | notANumber => cases hx
  | infinity sign => cases hx
  | zero sign => exact absurd rfl hne
  | finite sign m e hm =>
      cases v with
      | notANumber => cases hy
      | infinity sign' => cases hy
      | zero sign' => cases sign <;> cases hrank <;> cases hrank'
      | finite sign' n f hn =>
          cases sign <;> cases sign' <;> cases hrank
          all_goals
            have hranks := Option.some.inj hrank'
            simp at hranks
          all_goals exact finite_eq (by omega) (by omega)

/-- Two doubles with finite values that are equal, or two that are not finite. -/
structure SameValue
    (x y : Float) : Prop where
  finite : x.isFinite = y.isFinite
  value : value x = value y

theorem sameValue_of_unpack_eq
    (h : x.toModel.unpack = y.toModel.unpack) :
    SameValue x y :=
  ⟨congrArg UnpackedFloat.isFinite h, congrArg unpackedValue h⟩

theorem sameValue_add
    (ha : a.isFinite = true)
    (hx : x.isFinite = true)
    (hy : y.isFinite = true)
    (h : value x = value y) :
    SameValue (a + x) (a + y) := by
  by_cases hzero : value x = 0
  · have hsum {z : Float} (hz : z.isFinite = true) (hvalue : value z = 0) :
        (a + z).isFinite = true ∧ value (a + z) = value a := by
      have hrounds := rounds_add ha hz
      rw [hvalue, add_zero] at hrounds
      exact hrounds.exact (representable_value a) (abs_value_le a)
    obtain ⟨hfinite, hvalue⟩ := hsum hx hzero
    obtain ⟨hfinite', hvalue'⟩ := hsum hy (h.symm.trans hzero)
    exact ⟨hfinite.trans hfinite'.symm, hvalue.trans hvalue'.symm⟩
  · refine sameValue_of_unpack_eq ?_
    rw [unpack_add, unpack_add, unpack_eq_of_value_eq hx hy h hzero]

theorem mul_of_value_eq_zero
    (ha : a.isFinite = true)
    (hx : x.isFinite = true)
    (h : value a * value x = 0) :
    (a * x).isFinite = true ∧ value (a * x) = 0 := by
  have hrounds := rounds_mul ha hx
  rw [h] at hrounds
  exact hrounds.exact representable_zero (by simpa using largest_nonneg)

theorem sameValue_mul
    (ha : a.isFinite = true)
    (hx : x.isFinite = true)
    (hy : y.isFinite = true)
    (h : value x = value y) :
    SameValue (a * x) (a * y) := by
  by_cases hzero : value x = 0
  · obtain ⟨hfinite, hvalue⟩ := mul_of_value_eq_zero ha hx (by rw [hzero, mul_zero])
    obtain ⟨hfinite', hvalue'⟩ := mul_of_value_eq_zero ha hy (by rw [← h, hzero, mul_zero])
    exact ⟨hfinite.trans hfinite'.symm, hvalue.trans hvalue'.symm⟩
  · refine sameValue_of_unpack_eq ?_
    rw [unpack_mul, unpack_mul, unpack_eq_of_value_eq hx hy h hzero]

end Congruence

/-! ## Operands between zero and another -/

section Operands

variable {a x y : Float}

/-- A finite sum keeps the sums with what is between zero and its second operand finite. -/
theorem add_between
    (ha : a.isFinite = true)
    (hx : x.isFinite = true)
    (hbetween : value x ∈ Set.uIcc 0 (value y))
    (hsum : (a + y).isFinite = true) :
    (a + x).isFinite = true ∧ value (a + x) ∈ Set.uIcc (value a) (value (a + y)) := by
  have hy := (isFinite_of_add hsum).2
  by_cases hsame : value x = value y
  · obtain ⟨hfinite, hvalue⟩ := sameValue_add ha hx hy hsame
    rw [hfinite, hvalue]
    exact ⟨hsum, Set.right_mem_uIcc⟩
  · refine (rounds_add ha hx).between (rounds_add ha hy) hsum (representable_value a)
      (abs_value_le a) ?_ (mt add_left_cancel hsame)
    have himage := Set.mem_image_of_mem (value a + ·) hbetween
    rwa [Set.image_const_add_uIcc, add_zero] at himage

theorem mul_between
    (ha : a.isFinite = true)
    (hx : x.isFinite = true)
    (hbetween : value x ∈ Set.uIcc 0 (value y))
    (hproduct : (a * y).isFinite = true) :
    (a * x).isFinite = true ∧ value (a * x) ∈ Set.uIcc 0 (value (a * y)) := by
  have hy := (isFinite_of_mul hproduct).2
  by_cases hsame : value x = value y
  · obtain ⟨hfinite, hvalue⟩ := sameValue_mul ha hx hy hsame
    rw [hfinite, hvalue]
    exact ⟨hproduct, Set.right_mem_uIcc⟩
  · by_cases hzero : value a = 0
    · obtain ⟨hfinite, hvalue⟩ := mul_of_value_eq_zero ha hx (by rw [hzero, zero_mul])
      rw [hvalue]
      exact ⟨hfinite, Set.left_mem_uIcc⟩
    · refine (rounds_mul ha hx).between (rounds_mul ha hy) hproduct representable_zero
        (by simpa using largest_nonneg) ?_ (mt (mul_left_cancel₀ hzero) hsame)
      have himage := Set.mem_image_of_mem (value a * ·) hbetween
      rwa [Set.image_const_mul_uIcc, mul_zero] at himage

/-- Converting natural numbers keeps their order. -/
theorem ofInt_between
    {k m : Nat}
    (hle : k ≤ m)
    (hm : (Number.ofInt m).isFinite = true) :
    (Number.ofInt k).isFinite = true
      ∧ value (Number.ofInt k) ∈ Set.uIcc 0 (value (Number.ofInt m)) := by
  rcases hle.eq_or_lt with rfl | hlt
  · exact ⟨hm, Set.right_mem_uIcc⟩
  · refine (rounds_ofInt k).between (rounds_ofInt m) hm representable_zero
      (by simpa using largest_nonneg) (Set.mem_uIcc.mpr (.inl ⟨?_, ?_⟩)) ?_
    · exact_mod_cast Nat.zero_le k
    · exact_mod_cast hle
    · exact_mod_cast hlt.ne

/-- Finite doubles are at most another by value. -/
theorem le_iff_value
    (hx : x.isFinite = true)
    (hy : y.isFinite = true) :
    x ≤ y ↔ value x ≤ value y := by
  rw [FloatOrder.le_iff, less_iff_value hx hy, same_iff_value hx hy, le_iff_lt_or_eq]

/-- What equals a finite double is one of the same value. -/
theorem beq_iff_value
    (hy : y.isFinite = true) :
    (x == y) = true ↔ x.isFinite = true ∧ value x = value y := by
  refine ⟨fun h => ?_, fun ⟨hx, hvalue⟩ => (same_iff_value hx hy).mpr hvalue⟩
  have hx : x.isFinite = true := by
    obtain ⟨rank, hrank, hrank'⟩ := (FloatOrder.same_iff x y).mp h
    unfold FloatOrder.rank? at hrank hrank'
    change x.toModel.unpack.isFinite = true
    change y.toModel.unpack.isFinite = true at hy
    generalize x.toModel.unpack = u at *
    generalize y.toModel.unpack = v at *
    rcases v with _ | _ | (_ | _) | ⟨_ | _, n, f, hn⟩ <;> cases hy <;> cases hrank' <;>
      rcases u with (_ | _) | _ | _ | _ <;> first | rfl | cases hrank
  exact ⟨hx, (same_iff_value hx hy).mp h⟩

end Operands
end Double
end Diorama
