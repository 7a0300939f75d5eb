import Diorama.Canvas.Clip
import Diorama.Proofs.Number.Rational
import Mathlib.Data.Rat.Cast.Order
import Mathlib.Data.Real.Basic
import Mathlib.Order.Bounds.Basic

/-!
# Clipping in exact arithmetic

The points of a segment are numbered by parameters between zero and one.  Each side of the border
keeps the parameters on its inner side, which are a half-line, and cuts a part of the segment to
what it has in common with that half-line.  After all sides have cut it, the part holds exactly
the points on screen, so that its ends are the first and the last of them.

**Main statements.**
* `Segment.cutTo_narrow`: what one side leaves of a part.
* `Segment.cutTo_foldlM`: what several sides leave of it.
* `clipping_exact`: clipping keeps the points on screen.
-/

namespace Diorama

/-- Half a pixel: the reach of a pixel from its centre. -/
def halfPixel : Rat := 1 / 2

theorem halfPixel_eq :
    halfPixel = 1 / 2 :=
  rfl

/-- Within half a pixel around the centres of the pixels of a canvas. -/
def OnScreen
    (width height : Nat)
    (x y : Real) :
    Prop :=
  -halfPixel ≤ x ∧ x ≤ width - halfPixel ∧ -halfPixel ≤ y ∧ y ≤ height - halfPixel

namespace Segment

/-- The parameters of the points of a segment that are on screen. -/
def shown
    (width height : Nat)
    (s : Segment Rat) :
    Set Real :=
  {t | 0 ≤ t ∧ t ≤ 1 ∧ OnScreen width height
    (s.start.x + t * (s.stop.x - s.start.x)) (s.start.y + t * (s.stop.y - s.start.y))}

/-! ## Parts -/

/-- The parameters of a part. -/
def Part.Holds
    (part : Part Rat)
    (t : Real) :
    Prop :=
  part.first ≤ t ∧ t ≤ part.last

/-- What is left of a part after everything outside of a set is cut off; nothing, or some of it. -/
def Part.CutTo
    (part : Part Rat)
    (inside : Real → Prop) :
    Option (Part Rat) → Prop
  | none => ∀ t, part.Holds t → ¬inside t
  | some rest => rest.first ≤ rest.last ∧ ∀ t, rest.Holds t ↔ part.Holds t ∧ inside t

variable {part : Part Rat}

/-- A side of the border leaves of a part what is on its inner side. -/
theorem cutTo_narrow
    (hpart : part.first ≤ part.last)
    (p q : Rat) :
    part.CutTo (fun t => p * t ≤ q) (narrow part (p, q)) := by
  have hpart' : (part.first : Real) ≤ part.last := by exact_mod_cast hpart
  unfold narrow
  simp only [Scalar.same_rat_iff, Scalar.less_rat_iff, Scalar.zero_rat, Scalar.larger_rat,
    Scalar.smaller_rat]
  rcases lt_trichotomy p 0 with hneg | rfl | hpos
  · have hbound (t : Real) : p * t ≤ q ↔ ((q / p : Rat) : Real) ≤ t := by
      rw [Rat.cast_div, div_le_iff_of_neg (by exact_mod_cast hneg), mul_comm]
    simp only [hneg.ne, hneg, if_false, if_true]
    split
    · rename_i hbeyond
      have hbeyond : (part.last : Real) < (q / p : Rat) := by exact_mod_cast hbeyond
      intro t ht hinside
      exact absurd ((hbound t).mp hinside) (by linarith [ht.2])
    · rename_i hreach
      refine ⟨max_le hpart (not_lt.mp hreach), fun t => ?_⟩
      simp only [hbound, Part.Holds, Rat.cast_max, max_le_iff]
      tauto
  · simp only [if_true]
    split
    · rename_i houtside
      intro t _ hinside
      have hq : (q : Real) < 0 := by exact_mod_cast houtside
      simp only [Rat.cast_zero, zero_mul] at hinside
      linarith
    · rename_i hinside
      have hq : (0 : Real) ≤ q := by exact_mod_cast not_lt.mp hinside
      exact ⟨hpart, fun t => by simp [hq]⟩
  · have hbound (t : Real) : p * t ≤ q ↔ t ≤ ((q / p : Rat) : Real) := by
      rw [Rat.cast_div, le_div_iff₀ (by exact_mod_cast hpos), mul_comm]
    simp only [hpos.ne', hpos.not_gt, if_false]
    split
    · rename_i hbeyond
      have hbeyond : ((q / p : Rat) : Real) < part.first := by exact_mod_cast hbeyond
      intro t ht hinside
      exact absurd ((hbound t).mp hinside) (by linarith [ht.1])
    · rename_i hreach
      refine ⟨le_min hpart (not_lt.mp hreach), fun t => ?_⟩
      simp only [hbound, Part.Holds, Rat.cast_min, le_min_iff]
      tauto

/-- Several sides leave of a part what is on the inner side of them all. -/
theorem cutTo_foldlM
    (hpart : part.first ≤ part.last)
    (sides : List (Rat × Rat)) :
    part.CutTo (fun t => ∀ side ∈ sides, side.1 * t ≤ side.2) (sides.foldlM narrow part) := by
  induction sides generalizing part with
  | nil => exact ⟨hpart, fun t => by simp⟩
  | cons side rest ih =>
      obtain ⟨p, q⟩ := side
      have hfirst := cutTo_narrow hpart p q
      rw [List.foldlM_cons]
      cases hnarrow : narrow part (p, q) with
      | none =>
          rw [hnarrow] at hfirst
          intro t ht hinside
          exact hfirst t ht (hinside (p, q) List.mem_cons_self)
      | some next =>
          rw [hnarrow] at hfirst
          obtain ⟨hnext, hholds⟩ := hfirst
          have hrest := ih hnext
          change part.CutTo _ (rest.foldlM narrow next)
          cases hlast : rest.foldlM narrow next with
          | none =>
              rw [hlast] at hrest
              intro t ht hinside
              rw [List.forall_mem_cons] at hinside
              exact hrest t ((hholds t).mpr ⟨ht, hinside.1⟩) hinside.2
          | some last =>
              rw [hlast] at hrest
              refine ⟨hrest.1, fun t => ?_⟩
              simp only [hrest.2, hholds, List.forall_mem_cons, and_assoc]

/-! ## Clipped segments -/

variable {width height : Nat} {s : Segment Rat}

/-- The inner sides of the border have the screen in common. -/
theorem forall_sides_iff
    (width height : Nat)
    (s : Segment Rat)
    (t : Real) :
    (∀ side ∈ s.sides width height, side.1 * t ≤ side.2)
      ↔ OnScreen width height
        (s.start.x + t * (s.stop.x - s.start.x)) (s.start.y + t * (s.stop.y - s.start.y)) := by
  simp only [sides, Scalar.half_rat, Scalar.ofInt_rat, List.forall_mem_cons, List.not_mem_nil,
    false_imp_iff, implies_true, and_true, OnScreen, halfPixel_eq]
  push_cast
  constructor
  · rintro ⟨hleft, hright, hbottom, htop⟩
    refine ⟨?_, ?_, ?_, ?_⟩ <;> linarith
  · rintro ⟨hleft, hright, hbottom, htop⟩
    refine ⟨?_, ?_, ?_, ?_⟩ <;> linarith

theorem mem_shown_iff
    {t : Real} :
    t ∈ s.shown width height ↔ (⟨0, 1⟩ : Part Rat).Holds t ∧ OnScreen width height
      (s.start.x + t * (s.stop.x - s.start.x)) (s.start.y + t * (s.stop.y - s.start.y)) := by
  simp only [shown, Set.mem_ofPred_eq, Part.Holds, Rat.cast_zero, Rat.cast_one, and_assoc]

theorem onScreen_pointAt
    {t : Rat}
    (h : (t : Real) ∈ s.shown width height) :
    OnScreen width height (s.pointAt t).x (s.pointAt t).y := by
  have hpoint := (mem_shown_iff.mp h).2
  unfold pointAt
  push_cast
  exact hpoint

theorem pointAt_zero
    (s : Segment Rat) :
    s.pointAt 0 = s.start := by
  simp [pointAt]

theorem pointAt_one
    (s : Segment Rat) :
    s.pointAt 1 = s.stop := by
  simp [pointAt]

/-- Clipping leaves nothing if nothing is shown, and otherwise the ends of what is shown. -/
theorem clip_cases
    (width height : Nat)
    (s : Segment Rat) :
    s.clip width height = none ∧ s.shown width height = ∅
      ∨ ∃ first last : Rat, s.clip width height = some ⟨s.pointAt first, s.pointAt last⟩
        ∧ IsLeast (s.shown width height) first ∧ IsGreatest (s.shown width height) last := by
  have hunit : (⟨0, 1⟩ : Part Rat).first ≤ (⟨0, 1⟩ : Part Rat).last := zero_le_one
  have hcut := cutTo_foldlM hunit (s.sides width height)
  simp only [forall_sides_iff] at hcut
  have hclip : s.clip width height = ((s.sides width height).foldlM narrow ⟨0, 1⟩).map fun part =>
      ⟨s.pointAt part.first, s.pointAt part.last⟩ := rfl
  rw [hclip]
  cases hpart : (s.sides width height).foldlM narrow (⟨0, 1⟩ : Part Rat) with
  | none =>
      rw [hpart] at hcut
      refine .inl ⟨rfl, Set.eq_empty_iff_forall_notMem.mpr fun t ht => ?_⟩
      obtain ⟨hholds, hscreen⟩ := mem_shown_iff.mp ht
      exact hcut t hholds hscreen
  | some part =>
      rw [hpart] at hcut
      obtain ⟨hordered, hholds⟩ := hcut
      have hordered : (part.first : Real) ≤ part.last := by exact_mod_cast hordered
      have hshown (t : Real) : t ∈ s.shown width height ↔ part.Holds t :=
        mem_shown_iff.trans (hholds t).symm
      refine .inr ⟨part.first, part.last, rfl, ⟨?_, ?_⟩, ?_, ?_⟩
      · exact (hshown _).mpr ⟨le_rfl, hordered⟩
      · exact fun t ht => ((hshown t).mp ht).1
      · exact (hshown _).mpr ⟨hordered, le_rfl⟩
      · exact fun t ht => ((hshown t).mp ht).2

/-- What is shown of a segment from its first to its last point is what clipping leaves. -/
theorem clip_eq_some_iff
    {s' : Segment Rat} :
    s.clip width height = some s' ↔ ∃ first last : Rat,
      IsLeast (s.shown width height) first ∧ IsGreatest (s.shown width height) last
        ∧ s' = ⟨s.pointAt first, s.pointAt last⟩ := by
  rcases clip_cases width height s with ⟨hclip, hempty⟩ | ⟨first, last, hclip, hfirst, hlast⟩
  · rw [hclip]
    refine iff_of_false (by simp) ?_
    rintro ⟨first, _, hfirst, _⟩
    exact (hempty ▸ hfirst.1 : (first : Real) ∈ (∅ : Set Real))
  · rw [hclip, Option.some.injEq]
    constructor
    · rintro rfl
      exact ⟨first, last, hfirst, hlast, rfl⟩
    · rintro ⟨first', last', hfirst', hlast', rfl⟩
      rw [Rat.cast_injective (hfirst.unique hfirst'), Rat.cast_injective (hlast.unique hlast')]

/-- A segment whose ends are on screen is kept as it is. -/
theorem clip_of_onScreen
    (hstart : OnScreen width height s.start.x s.start.y)
    (hstop : OnScreen width height s.stop.x s.stop.y) :
    s.clip width height = some s := by
  refine clip_eq_some_iff.mpr ⟨0, 1, ⟨?_, fun t ht => ?_⟩, ⟨?_, fun t ht => ?_⟩, ?_⟩
  · refine ⟨by simp, by simp, ?_⟩
    simpa using hstart
  · simpa using ht.1
  · refine ⟨by simp, by simp, ?_⟩
    simpa using hstop
  · simpa using ht.2.1
  · rw [pointAt_zero, pointAt_one]

end Segment

/--
Clipping leaves nothing of a segment that has no point on screen.  Of any other segment it leaves
the part from the first to the last point on screen, with the depths of the segment there; so a
segment on screen is kept as it is, and what was clipped is not clipped again.
-/
theorem clipping_exact
    (width height : Nat)
    (s : Segment Rat) :
    (s.clip width height = none ↔ s.shown width height = ∅)
      ∧ (∀ s', s.clip width height = some s' ↔ ∃ first last : Rat,
        IsLeast (s.shown width height) first ∧ IsGreatest (s.shown width height) last
          ∧ s' = ⟨s.pointAt first, s.pointAt last⟩)
      ∧ (OnScreen width height s.start.x s.start.y → OnScreen width height s.stop.x s.stop.y →
        s.clip width height = some s)
      ∧ ∀ s', s.clip width height = some s' → s'.clip width height = some s' := by
  refine ⟨?nothing, fun s' => Segment.clip_eq_some_iff, Segment.clip_of_onScreen, ?again⟩
  case nothing =>
    rcases Segment.clip_cases width height s with ⟨hclip, hempty⟩ | ⟨first, _, hclip, hfirst, _⟩
    · exact iff_of_true hclip hempty
    · refine iff_of_false (by simp [hclip]) ?_
      exact Set.Nonempty.ne_empty ⟨_, hfirst.1⟩
  case again =>
    intro s' hclip
    obtain ⟨first, last, hfirst, hlast, rfl⟩ := Segment.clip_eq_some_iff.mp hclip
    exact Segment.clip_of_onScreen (Segment.onScreen_pointAt hfirst.1)
      (Segment.onScreen_pointAt hlast.1)

end Diorama
