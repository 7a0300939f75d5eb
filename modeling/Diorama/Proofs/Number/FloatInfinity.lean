import Diorama.Proofs.Number.FloatArithmetic

/-!
# Infinities

What an operation does with an infinity does not depend on how numbers are rounded.  An infinite
operand never leads to a finite sum or product, and the only undefined ones are the sum of two
infinities of different signs and the product of an infinity and zero.

**Main statements.**
* `isFinite_of_add`, `isFinite_of_mul`: finite results have finite operands.
* `isNaN_add_iff`, `isNaN_mul_iff`: which sums and products are undefined.
* `isInf_add`, `isInf_mul`, `isInf_div`: what remains infinite.
-/

namespace Diorama
namespace Double

open Float.Model (UnpackedFloat Format)
open Float.Model.UnpackedFloat (Sign)

section Forms

variable {x y : Float}

theorem isInf_iff :
    x.isInf = true ↔ ∃ s, x.toModel.unpack = .infinity s := by
  change x.toModel.unpack.isInf = true ↔ _
  cases x.toModel.unpack with
  | infinity s => exact iff_of_true rfl ⟨s, rfl⟩
  | _ =>
      refine iff_of_false Bool.false_ne_true ?_
      rintro ⟨_, ⟨⟩⟩

/-- A double that is no number, an infinity, or finite. -/
theorem isFinite_or_isInf
    (hx : x.isNaN = false) :
    x.isFinite = true ∨ x.isInf = true := by
  change x.toModel.unpack.isNaN = false at hx
  change x.toModel.unpack.isFinite = true ∨ x.toModel.unpack.isInf = true
  cases hu : x.toModel.unpack with
  | notANumber =>
      rw [hu] at hx
      cases hx
  | infinity s => exact .inr rfl
  | zero s => exact .inl rfl
  | finite s m e hm => exact .inl rfl

theorem isNaN_of_isFinite
    (hx : x.isFinite = true) :
    x.isNaN = false := by
  change x.toModel.unpack.isFinite = true at hx
  change x.toModel.unpack.isNaN = false
  cases hu : x.toModel.unpack <;> rw [hu] at hx <;> first | rfl | cases hx

theorem isInf_of_isFinite
    (hx : x.isFinite = true) :
    x.isInf = false := by
  change x.toModel.unpack.isFinite = true at hx
  change x.toModel.unpack.isInf = false
  cases hu : x.toModel.unpack <;> rw [hu] at hx <;> first | rfl | cases hx

end Forms

/-! ## Sums -/

section Sums

variable {x y : Float}

theorem isCanonical_add
    {a b : UnpackedFloat}
    (ha : IsCanonical a)
    (hb : IsCanonical b) :
    IsCanonical (UnpackedFloat.add Format.binary64 a b) := by
  cases a with
  | notANumber => cases b <;> trivial
  | infinity s =>
      cases b with
      | infinity s' => cases s <;> cases s' <;> trivial
      | _ => trivial
  | zero s =>
      cases b with
      | notANumber => trivial
      | infinity s' => trivial
      | _ => exact (rounded_add rfl rfl ha hb).canonical
  | finite s m e hm =>
      cases b with
      | notANumber => trivial
      | infinity s' => trivial
      | _ => exact (rounded_add rfl rfl ha hb).canonical

theorem unpack_add
    (x y : Float) :
    (x + y).toModel.unpack
      = held (UnpackedFloat.add Format.binary64 x.toModel.unpack y.toModel.unpack) :=
  unpack_pack (isCanonical_add (canonical_unpack x).1 (canonical_unpack y).1)

theorem isCanonical_mul
    {a b : UnpackedFloat}
    (ha : IsCanonical a)
    (hb : IsCanonical b) :
    IsCanonical (UnpackedFloat.mul Format.binary64 a b) := by
  cases a with
  | notANumber => cases b <;> trivial
  | infinity s => cases b <;> trivial
  | zero s => cases b <;> trivial
  | finite s m e hm =>
      cases b with
      | finite s' n f hn => exact (rounded_mul rfl rfl ha hb).canonical
      | _ => trivial

theorem unpack_mul
    (x y : Float) :
    (x * y).toModel.unpack
      = held (UnpackedFloat.mul Format.binary64 x.toModel.unpack y.toModel.unpack) :=
  unpack_pack (isCanonical_mul (canonical_unpack x).1 (canonical_unpack y).1)

/-- An infinite or undefined operand makes for an infinite or undefined sum. -/
theorem isFinite_of_add
    (h : (x + y).isFinite = true) :
    x.isFinite = true ∧ y.isFinite = true := by
  change (x + y).toModel.unpack.isFinite = true at h
  change x.toModel.unpack.isFinite = true ∧ y.toModel.unpack.isFinite = true
  rw [unpack_add] at h
  generalize x.toModel.unpack = a at h ⊢
  generalize y.toModel.unpack = b at h ⊢
  cases a with
  | notANumber => cases h
  | infinity s =>
      cases b with
      | infinity s' => cases s <;> cases s' <;> cases h
      | _ => cases h
  | _ =>
      cases b with
      | notANumber => cases h
      | infinity s' => cases h
      | _ => exact ⟨rfl, rfl⟩

theorem isFinite_of_mul
    (h : (x * y).isFinite = true) :
    x.isFinite = true ∧ y.isFinite = true := by
  change (x * y).toModel.unpack.isFinite = true at h
  change x.toModel.unpack.isFinite = true ∧ y.toModel.unpack.isFinite = true
  rw [unpack_mul] at h
  generalize x.toModel.unpack = a at h ⊢
  generalize y.toModel.unpack = b at h ⊢
  cases a with
  | notANumber => cases h
  | infinity s => cases b <;> cases h
  | _ =>
      cases b with
      | notANumber => cases h
      | infinity s' => cases h
      | _ => exact ⟨rfl, rfl⟩

/-- Two infinities of different signs. -/
structure Opposite
    (x y : Float) : Prop where
  left : x.isInf = true
  right : y.isInf = true
  sides : ¬(x < 0 ↔ y < 0)

theorem infinity_lt_zero_iff
    {s : Sign}
    (hx : x.toModel.unpack = .infinity s) :
    x < 0 ↔ s = .negative := by
  have hlt : x < 0 ↔ x.toModel.unpack.lt (0 : Float).toModel.unpack = true := decide_eq_true_iff
  have hzero : (0 : Float).toModel.unpack = .zero .positive := rfl
  rw [hlt, hx, hzero]
  cases s with
  | negative => exact iff_of_true (by decide) rfl
  | positive => exact iff_of_false (by decide) (by simp)

theorem opposite_iff :
    Opposite x y
      ↔ ∃ s s', x.toModel.unpack = .infinity s ∧ y.toModel.unpack = .infinity s' ∧ s ≠ s' := by
  constructor
  · rintro ⟨hx, hy, hsides⟩
    obtain ⟨s, hs⟩ := isInf_iff.mp hx
    obtain ⟨s', hs'⟩ := isInf_iff.mp hy
    refine ⟨s, s', hs, hs', ?_⟩
    rintro rfl
    rw [infinity_lt_zero_iff hs, infinity_lt_zero_iff hs'] at hsides
    exact hsides Iff.rfl
  · rintro ⟨s, s', hs, hs', hne⟩
    refine ⟨isInf_iff.mpr ⟨s, hs⟩, isInf_iff.mpr ⟨s', hs'⟩, ?_⟩
    rw [infinity_lt_zero_iff hs, infinity_lt_zero_iff hs']
    cases s <;> cases s' <;> simp at hne ⊢

theorem isNaN_held
    (u : UnpackedFloat) :
    (held u).isNaN = u.isNaN := by
  cases u with
  | finite s m e hm =>
      by_cases he : e < 972
      · rw [held_of_lt he]
      · rw [held_of_le (not_lt.mp he)]
        rfl
  | _ => rfl

theorem Rounded.isNaN_eq_false
    {u : UnpackedFloat}
    {z : ℝ}
    (h : Rounded u z) :
    u.isNaN = false := by
  have hfinite := h.finite
  cases u with
  | notANumber => cases hfinite
  | _ => rfl

theorem unpacked_isNaN_iff
    {u : UnpackedFloat} :
    u.isNaN = true ↔ u = .notANumber := by
  cases u with
  | notANumber => exact iff_of_true rfl rfl
  | _ => exact iff_of_false Bool.false_ne_true nofun

theorem isNaN_iff :
    x.isNaN = true ↔ x.toModel.unpack = .notANumber :=
  unpacked_isNaN_iff

/-- A sum of two numbers is undefined where they are infinities of different signs. -/
theorem isNaN_add_iff :
    (x + y).isNaN = true ↔ x.isNaN = true ∨ y.isNaN = true ∨ Opposite x y := by
  rw [opposite_iff, isNaN_iff (x := x), isNaN_iff (x := y)]
  change (x + y).toModel.unpack.isNaN = true ↔ _
  rw [unpack_add, isNaN_held]
  have hxc := (canonical_unpack x).1
  have hyc := (canonical_unpack y).1
  generalize x.toModel.unpack = a at hxc ⊢
  generalize y.toModel.unpack = b at hyc ⊢
  cases a with
  | notANumber => cases b <;> exact iff_of_true rfl (.inl rfl)
  | infinity s =>
      cases b with
      | notANumber => exact iff_of_true rfl (.inr (.inl rfl))
      | infinity s' =>
          cases s <;> cases s' <;> first
            | exact iff_of_true (by decide) (by simp)
            | exact iff_of_false (by decide) (by simp)
      | _ =>
          refine iff_of_false Bool.false_ne_true ?_
          rintro (⟨⟨⟩⟩ | ⟨⟨⟩⟩ | ⟨_, _, ⟨⟩, ⟨⟩, -⟩)
  | _ =>
      cases b with
      | notANumber => exact iff_of_true rfl (.inr (.inl rfl))
      | infinity s' =>
          refine iff_of_false Bool.false_ne_true ?_
          rintro (⟨⟨⟩⟩ | ⟨⟨⟩⟩ | ⟨_, _, ⟨⟩, ⟨⟩, -⟩)
      | _ =>
          rw [(rounded_add rfl rfl hxc hyc).isNaN_eq_false]
          refine iff_of_false Bool.false_ne_true ?_
          rintro (⟨⟨⟩⟩ | ⟨⟨⟩⟩ | ⟨_, _, ⟨⟩, ⟨⟩, -⟩)

/-- A double that is one of the two zeros. -/
theorem beq_zero_iff :
    (x == 0) = true ↔ ∃ s, x.toModel.unpack = .zero s := by
  have hbeq : (x == 0) = true ↔ x.toModel.unpack.beq (0 : Float).toModel.unpack = true := Iff.rfl
  have hzero : (0 : Float).toModel.unpack = .zero .positive := rfl
  rw [hbeq, hzero]
  cases x.toModel.unpack with
  | zero s => exact iff_of_true rfl ⟨s, rfl⟩
  | notANumber =>
      refine iff_of_false Bool.false_ne_true ?_
      rintro ⟨_, ⟨⟩⟩
  | infinity s | finite s _ _ _ =>
      refine iff_of_false (by cases s <;> exact Bool.false_ne_true) ?_
      rintro ⟨_, ⟨⟩⟩

/-- A product of two numbers is undefined where one of them is an infinity and the other is zero. -/
theorem isNaN_mul_iff :
    (x * y).isNaN = true
      ↔ x.isNaN = true ∨ y.isNaN = true
        ∨ x.isInf = true ∧ (y == 0) = true ∨ (x == 0) = true ∧ y.isInf = true := by
  rw [beq_zero_iff, beq_zero_iff, isInf_iff, isInf_iff, isNaN_iff (x := x), isNaN_iff (x := y)]
  change (x * y).toModel.unpack.isNaN = true ↔ _
  rw [unpack_mul, isNaN_held]
  have hxc := (canonical_unpack x).1
  have hyc := (canonical_unpack y).1
  generalize x.toModel.unpack = a at hxc ⊢
  generalize y.toModel.unpack = b at hyc ⊢
  cases a with
  | notANumber => cases b <;> exact iff_of_true rfl (.inl rfl)
  | infinity s =>
      cases b with
      | notANumber => exact iff_of_true rfl (.inr (.inl rfl))
      | zero s' => exact iff_of_true rfl (.inr (.inr (.inl ⟨⟨s, rfl⟩, s', rfl⟩)))
      | _ =>
          refine iff_of_false Bool.false_ne_true ?_
          rintro (⟨⟨⟩⟩ | ⟨⟨⟩⟩ | ⟨⟨_, ⟨⟩⟩, _, ⟨⟩⟩ | ⟨⟨_, ⟨⟩⟩, _, ⟨⟩⟩)
  | zero s =>
      cases b with
      | notANumber => exact iff_of_true rfl (.inr (.inl rfl))
      | infinity s' => exact iff_of_true rfl (.inr (.inr (.inr ⟨⟨s, rfl⟩, s', rfl⟩)))
      | _ =>
          refine iff_of_false Bool.false_ne_true ?_
          rintro (⟨⟨⟩⟩ | ⟨⟨⟩⟩ | ⟨⟨_, ⟨⟩⟩, _, ⟨⟩⟩ | ⟨⟨_, ⟨⟩⟩, _, ⟨⟩⟩)
  | finite s m e hm =>
      cases b with
      | notANumber => exact iff_of_true rfl (.inr (.inl rfl))
      | finite s' n f hn =>
          rw [(rounded_mul rfl rfl hxc hyc).isNaN_eq_false]
          refine iff_of_false Bool.false_ne_true ?_
          rintro (⟨⟨⟩⟩ | ⟨⟨⟩⟩ | ⟨⟨_, ⟨⟩⟩, _, ⟨⟩⟩ | ⟨⟨_, ⟨⟩⟩, _, ⟨⟩⟩)
      | _ =>
          refine iff_of_false Bool.false_ne_true ?_
          rintro (⟨⟨⟩⟩ | ⟨⟨⟩⟩ | ⟨⟨_, ⟨⟩⟩, _, ⟨⟩⟩ | ⟨⟨_, ⟨⟩⟩, _, ⟨⟩⟩)

/-! ## Infinite results -/

theorem isNaN_of_isInf
    (hx : x.isInf = true) :
    x.isNaN = false := by
  obtain ⟨s, hs⟩ := isInf_iff.mp hx
  rw [← Bool.not_eq_true, isNaN_iff, hs]
  exact nofun

theorem not_isFinite_of_isInf
    (hx : x.isInf = true) :
    ¬x.isFinite = true := by
  intro hfinite
  rw [isInf_of_isFinite hfinite] at hx
  cases hx

theorem isInf_add
    (hx : x.isFinite = true)
    (hy : y.isInf = true) :
    (x + y).isInf = true := by
  have hnumber : (x + y).isNaN = false := by
    rw [← Bool.not_eq_true, isNaN_add_iff, isNaN_of_isFinite hx, isNaN_of_isInf hy]
    simp only [Bool.false_eq_true, false_or]
    exact fun hsides => not_isFinite_of_isInf hsides.left hx
  exact (isFinite_or_isInf hnumber).resolve_left fun hfinite =>
    not_isFinite_of_isInf hy (isFinite_of_add hfinite).2

theorem isInf_mul
    (hx : x.isInf = true)
    (hy : y.isFinite = true)
    (hne : ¬(y == 0) = true) :
    (x * y).isInf = true := by
  have hnumber : (x * y).isNaN = false := by
    rw [← Bool.not_eq_true, isNaN_mul_iff, isNaN_of_isInf hx, isNaN_of_isFinite hy]
    simp only [Bool.false_eq_true, false_or]
    rintro (⟨-, hzero⟩ | ⟨-, hinf⟩)
    · exact hne hzero
    · exact not_isFinite_of_isInf hinf hy
  exact (isFinite_or_isInf hnumber).resolve_left fun hfinite =>
    not_isFinite_of_isInf hx (isFinite_of_mul hfinite).1

/-- A part of an infinity is infinite. -/
theorem isInf_div
    (hx : x.isInf = true)
    (hy : y.isFinite = true) :
    (x / y).isInf = true := by
  obtain ⟨s, hs⟩ := isInf_iff.mp hx
  have hpack : (x / y).toModel.unpack
      = (Float.Model.pack (UnpackedFloat.div Format.binary64 x.toModel.unpack
        y.toModel.unpack)).unpack := rfl
  rw [isInf_iff, hpack, hs]
  change y.toModel.unpack.isFinite = true at hy
  generalize y.toModel.unpack = b at hy ⊢
  cases b with
  | notANumber => cases hy
  | infinity s' => cases hy
  | zero s' => exact ⟨_, unpack_pack trivial⟩
  | finite s' m e hm => exact ⟨_, unpack_pack trivial⟩

end Sums

end Double
end Diorama
