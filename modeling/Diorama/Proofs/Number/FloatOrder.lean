import Diorama.Geometry.Scalar

/-!
# The order of doubles

Doubles that are numbers are ordered by rank: minus infinity, the negative numbers, the two zeros,
the positive numbers, infinity.  Within the finite numbers of one sign the rank is the exponent
and, for equal exponents, the mantissa, which is what the comparison of doubles looks at.  What is
no number has no rank and compares to nothing.

A `LawfulOrder` of scalars keeps what drawing relies on: among numbers `less` is a strict total
order up to `same`, and it agrees with `isAboveBottom`.

**Main statements.**
* `less_iff`, `same_iff`: comparisons of doubles are comparisons of ranks.
* `LawfulOrder Float`: doubles are lawfully ordered.
* `lt_of_not_le`: numbers that are not at most another are above it.
-/

namespace Diorama

namespace Scalar

/-- A scalar that is a number: it is the same as itself. -/
def IsNumber
    {α : Type}
    [Scalar α]
    (z : α) :
    Prop :=
  same z z = true

/-- Scalars that are numbers are totally ordered, up to being the same. -/
class LawfulOrder (α : Type) [Scalar α] : Prop where
  isNumber_of_less {a b : α} : less a b = true → IsNumber a ∧ IsNumber b
  not_same_of_less {a b : α} : less a b = true → same a b = false
  less_trans {a b c : α} : less a b = true → less b c = true → less a c = true
  less_or_same_or_less {a b : α} : IsNumber a → IsNumber b →
    less a b = true ∨ same a b = true ∨ less b a = true
  less_of_same_of_less {a b c : α} : same a b = true → less b c = true → less a c = true
  isNumber_of_isAboveBottom {a : α} : isAboveBottom a = true → IsNumber a
  isAboveBottom_of_less {a b : α} : less a b = true → isAboveBottom b = true
  less_of_isAboveBottom {a b : α} : IsNumber a → isAboveBottom a = false →
    isAboveBottom b = true → less a b = true

end Scalar

namespace FloatOrder

open Float.Model (UnpackedFloat)

/-- The place of a number among the doubles, from the first entry to the last. -/
structure Rank where
  group : Int
  exponent : Int
  mantissa : Int
  deriving DecidableEq

/-- Ranks are compared entry by entry. -/
def Rank.Before
    (x y : Rank) :
    Prop :=
  x.group < y.group ∨
    x.group = y.group ∧ (x.exponent < y.exponent ∨
      x.exponent = y.exponent ∧ x.mantissa < y.mantissa)

/-- The rank of an unpacked double, if it is a number. -/
def unpackedRank? : UnpackedFloat → Option Rank
  | .notANumber => none
  | .infinity .negative => some ⟨-2, 0, 0⟩
  | .finite .negative m e _ => some ⟨-1, -e, -m⟩
  | .zero _ => some ⟨0, 0, 0⟩
  | .finite .positive m e _ => some ⟨1, e, m⟩
  | .infinity .positive => some ⟨2, 0, 0⟩

/-- The order of two ranks. -/
def Rank.compare
    (x y : Rank) :
    Ordering :=
  (Ord.compare x.group y.group).then
    ((Ord.compare x.exponent y.exponent).then (Ord.compare x.mantissa y.mantissa))

theorem Rank.compare_eq_lt_iff
    (x y : Rank) :
    x.compare y = .lt ↔ x.Before y := by
  unfold Rank.compare Rank.Before
  rw [Ordering.then_eq_lt, Ordering.then_eq_lt, Int.compare_eq_lt, Int.compare_eq_lt,
    Int.compare_eq_lt, Int.compare_eq_eq, Int.compare_eq_eq]

theorem Rank.compare_eq_eq_iff
    (x y : Rank) :
    x.compare y = .eq ↔ x = y := by
  obtain ⟨g, e, m⟩ := x
  obtain ⟨g', e', m'⟩ := y
  simp only [Rank.compare, Rank.mk.injEq]
  rw [Ordering.then_eq_eq, Ordering.then_eq_eq, Int.compare_eq_eq, Int.compare_eq_eq,
    Int.compare_eq_eq]

theorem compare_neg
    (e f : Int) :
    compare (-e) (-f) = (compare e f).swap := by
  rw [Int.compare_swap]
  simp only [compare, compareOfLessAndEq]
  grind

theorem compare_natCast
    (m n : Nat) :
    compare (m : Int) n = compare m n := by
  simp only [compare, compareOfLessAndEq]
  grind

/-- Unpacked doubles that are numbers are compared by rank. -/
theorem compare_eq
    (a b : UnpackedFloat) :
    a.compare b
      = (unpackedRank? a).bind fun x => (unpackedRank? b).map fun y => x.compare y := by
  rcases a with (_ | _) | _ | _ | ⟨_ | _, m, e, hm⟩ <;>
    rcases b with (_ | _) | _ | _ | ⟨_ | _, n, f, hn⟩ <;> try rfl
  -- what is left are finite numbers of one sign, first below and then above zero
  · refine congrArg some ?_
    change _ = (compare (-e) (-f)).then (compare (-(m : Int)) (-n))
    rw [compare_neg, compare_neg, compare_natCast, Ordering.swap_then]
  · refine congrArg some ?_
    change _ = (compare e f).then (compare (m : Int) n)
    rw [compare_natCast]

/-- Unpacked doubles are less by rank. -/
theorem lt_iff
    (a b : UnpackedFloat) :
    a.lt b = true ↔ ∃ x y, unpackedRank? a = some x ∧ unpackedRank? b = some y ∧ x.Before y := by
  change (a.compare b == some .lt) = true ↔ _
  rw [beq_iff_eq, compare_eq]
  cases unpackedRank? a with
  | none => simp
  | some x =>
      cases unpackedRank? b with
      | none => simp
      | some y => simp [Rank.compare_eq_lt_iff]

theorem beq_iff
    (a b : UnpackedFloat) :
    a.beq b = true ↔ ∃ x, unpackedRank? a = some x ∧ unpackedRank? b = some x := by
  change (a.compare b == some .eq) = true ↔ _
  rw [beq_iff_eq, compare_eq]
  cases unpackedRank? a with
  | none => simp
  | some x =>
      cases unpackedRank? b with
      | none => simp
      | some y =>
          simp only [Option.bind_some, Option.map_some, Option.some.injEq, exists_eq_left',
            Rank.compare_eq_eq_iff]
          exact eq_comm

/-- The rank of a double, if it is a number. -/
def rank?
    (z : Float) :
    Option Rank :=
  unpackedRank? z.toModel.unpack

open Scalar (less same isAboveBottom IsNumber)

theorem less_iff
    (a b : Float) :
    less a b = true ↔ ∃ x y, rank? a = some x ∧ rank? b = some y ∧ x.Before y := by
  refine Iff.trans ?_ (lt_iff a.toModel.unpack b.toModel.unpack)
  exact decide_eq_true_iff.trans decide_eq_true_iff

theorem same_iff
    (a b : Float) :
    same a b = true ↔ ∃ x, rank? a = some x ∧ rank? b = some x :=
  beq_iff _ _

theorem isNumber_iff
    (z : Float) :
    IsNumber z ↔ ∃ x, rank? z = some x := by
  refine (same_iff z z).trans ?_
  simp only [and_self]

theorem isAboveBottom_iff
    (z : Float) :
    isAboveBottom z = true ↔ ∃ y, rank? z = some y ∧ (⟨-2, 0, 0⟩ : Rank).Before y := by
  have hbottom : rank? (-1.0 / 0.0) = some ⟨-2, 0, 0⟩ := by decide +kernel
  refine (less_iff (-1.0 / 0.0) z).trans ?_
  simp [hbottom]

/-- No rank is in front of that of minus infinity, and the others are behind it. -/
theorem rank_bounds
    {z : Float}
    {x : Rank}
    (h : rank? z = some x) :
    x = ⟨-2, 0, 0⟩ ∨ -2 < x.group := by
  unfold rank? at h
  generalize z.toModel.unpack = u at h
  rcases u with (_ | _) | _ | _ | ⟨_ | _, m, e, hm⟩ <;> cases h
  · exact .inl rfl
  · exact .inr (by decide)
  · exact .inr (by decide)
  · exact .inr (by decide : (-2 : Int) < -1)
  · exact .inr (by decide : (-2 : Int) < 1)

/-- Doubles are lawfully ordered. -/
instance : Scalar.LawfulOrder Float where
  isNumber_of_less := by
    intro a b h
    obtain ⟨x, y, hx, hy, _⟩ := (less_iff a b).mp h
    exact ⟨(isNumber_iff a).mpr ⟨x, hx⟩, (isNumber_iff b).mpr ⟨y, hy⟩⟩
  not_same_of_less := by
    intro a b h
    obtain ⟨x, y, hx, hy, hbefore⟩ := (less_iff a b).mp h
    rw [← Bool.not_eq_true, same_iff]
    rintro ⟨z, hxz, hyz⟩
    obtain rfl : x = z := Option.some.inj (hx.symm.trans hxz)
    obtain rfl : y = x := Option.some.inj (hy.symm.trans hyz)
    unfold Rank.Before at hbefore
    omega
  less_trans := by
    intro a b c hab hbc
    obtain ⟨x, y, hx, hy, hxy⟩ := (less_iff a b).mp hab
    obtain ⟨y', z, hy', hz, hyz⟩ := (less_iff b c).mp hbc
    obtain rfl : y = y' := Option.some.inj (hy.symm.trans hy')
    refine (less_iff a c).mpr ⟨x, z, hx, hz, ?_⟩
    unfold Rank.Before at hxy hyz ⊢
    omega
  less_or_same_or_less := by
    intro a b ha hb
    obtain ⟨x, hx⟩ := (isNumber_iff a).mp ha
    obtain ⟨y, hy⟩ := (isNumber_iff b).mp hb
    by_cases hxy : x.Before y
    · exact .inl ((less_iff a b).mpr ⟨x, y, hx, hy, hxy⟩)
    · by_cases hyx : y.Before x
      · exact .inr (.inr ((less_iff b a).mpr ⟨y, x, hy, hx, hyx⟩))
      · have heq : x = y := by
          obtain ⟨g, e, m⟩ := x
          obtain ⟨g', e', m'⟩ := y
          simp only [Rank.Before] at hxy hyx
          simp only [Rank.mk.injEq]
          omega
        exact .inr (.inl ((same_iff a b).mpr ⟨x, hx, heq ▸ hy⟩))
  less_of_same_of_less := by
    intro a b c hab hbc
    obtain ⟨x, hx, hx'⟩ := (same_iff a b).mp hab
    obtain ⟨y, z, hy, hz, hyz⟩ := (less_iff b c).mp hbc
    obtain rfl : x = y := Option.some.inj (hx'.symm.trans hy)
    exact (less_iff a c).mpr ⟨x, z, hx, hz, hyz⟩
  isNumber_of_isAboveBottom := by
    intro a h
    obtain ⟨y, hy, _⟩ := (isAboveBottom_iff a).mp h
    exact (isNumber_iff a).mpr ⟨y, hy⟩
  isAboveBottom_of_less := by
    intro a b h
    obtain ⟨x, y, hx, hy, hbefore⟩ := (less_iff a b).mp h
    refine (isAboveBottom_iff b).mpr ⟨y, hy, ?_⟩
    rcases rank_bounds hx with rfl | hgroup
    · exact hbefore
    · simp only [Rank.Before] at hbefore ⊢
      omega
  less_of_isAboveBottom := by
    intro a b ha hbottom hb
    obtain ⟨x, hx⟩ := (isNumber_iff a).mp ha
    obtain ⟨y, hy, hbefore⟩ := (isAboveBottom_iff b).mp hb
    rw [← Bool.not_eq_true, isAboveBottom_iff] at hbottom
    refine (less_iff a b).mpr ⟨x, y, hx, hy, ?_⟩
    rcases rank_bounds hx with rfl | hgroup
    · exact hbefore
    · exact absurd ⟨x, hx, .inl hgroup⟩ hbottom

/-! ## Comparisons -/

theorem isNaN_eq_false_iff
    (z : Float) :
    z.isNaN = false ↔ Scalar.IsNumber z := by
  rw [isNumber_iff]
  unfold rank?
  change z.toModel.unpack.isNaN = false ↔ _
  cases z.toModel.unpack with
  | notANumber => exact iff_of_false (by decide) (by rintro ⟨x, ⟨⟩⟩)
  | zero sign => exact iff_of_true rfl ⟨_, rfl⟩
  | infinity sign => cases sign <;> exact iff_of_true rfl ⟨_, rfl⟩
  | finite sign m e hm => cases sign <;> exact iff_of_true rfl ⟨_, rfl⟩

/-- A double is at most another when it is less or the same. -/
theorem le_iff
    (a b : Float) :
    a ≤ b ↔ less a b = true ∨ same a b = true := by
  have hle : a ≤ b ↔ a.toModel.unpack.le b.toModel.unpack = true := decide_eq_true_iff
  have hless : less a b = true ↔ a.toModel.unpack.compare b.toModel.unpack = some .lt :=
    (decide_eq_true_iff.trans decide_eq_true_iff).trans beq_iff_eq
  have hsame : same a b = true ↔ a.toModel.unpack.compare b.toModel.unpack = some .eq := by
    change (a.toModel.unpack.compare b.toModel.unpack == some .eq) = true ↔ _
    exact beq_iff_eq
  rw [hle, hless, hsame, Float.Model.UnpackedFloat.le]
  rcases a.toModel.unpack.compare b.toModel.unpack with _ | (_ | _ | _) <;> simp

/-- Of two numbers, one is above the other if it is not at most the other. -/
theorem lt_of_not_le
    {a b : Float}
    (ha : a.isNaN = false)
    (hb : b.isNaN = false)
    (h : ¬a ≤ b) :
    b < a := by
  rw [isNaN_eq_false_iff] at ha hb
  rw [le_iff, not_or] at h
  rcases Scalar.LawfulOrder.less_or_same_or_less ha hb with hless | hsame | hgreater
  · exact absurd hless h.1
  · exact absurd hsame h.2
  · exact of_decide_eq_true hgreater

theorem isNaN_of_lt
    {a b : Float}
    (h : a < b) :
    b.isNaN = false := by
  have hless : less a b = true := decide_eq_true h
  exact (isNaN_eq_false_iff b).mpr (Scalar.LawfulOrder.isNumber_of_less hless).2

end FloatOrder
end Diorama
