import Diorama.Proofs.Canvas.Clipping
import Diorama.Proofs.Canvas.VertexOrder
import Diorama.Proofs.Canvas.Stepping
import Mathlib.Tactic.Rify

/-!
# The pixels that a clipped line visits

A line is clipped half a pixel around the centres of the pixels, and its ends are rounded to pixels
afterwards.  What is clipped to the lower border is rounded up to the first pixel.  What is clipped
to the upper border of an even number of pixels is rounded to the even neighbour, which is one pixel
beyond the last; with an odd number it is rounded to the last.  So a line leaves the canvas by at
most one pixel, and it does so if and only if it touches such a border.

**Main statements.**
* `nearestToRat_eq_size_iff`: what is rounded to the pixel beyond the last one.
* `lineFragments_rat`: a line in exact arithmetic walks between the rounded ends of what is shown.
* `line_visible`: where a line is plotted, and when all of that is visible.
-/

namespace Diorama

/-! ## Rounding at the border -/

section Border

variable {size : Nat} {x : Rat}

theorem nearestToRat_nonneg
    (hlow : -halfPixel ≤ x) :
    0 ≤ nearestToRat x := by
  rw [halfPixel_eq] at hlow
  obtain ⟨hbelow, habove⟩ := abs_le.mp (abs_nearestToRat_sub_le x)
  have hge : -1 ≤ nearestToRat x := by
    have hge : (-1 : Rat) ≤ nearestToRat x := by linarith
    exact_mod_cast hge
  -- one half below the first pixel the lower neighbour is odd
  refine lt_of_le_of_ne hge fun hone => ?_
  have hvalue : (nearestToRat x : Rat) = -1 := by exact_mod_cast hone.symm
  have hx : x = -(1 / 2) := by linarith
  have heven := even_nearestToRat (q := x) (by rw [hvalue, hx]; norm_num)
  rw [← hone] at heven
  exact absurd heven (by decide)

theorem nearestToRat_le_size
    (hhigh : x ≤ size - halfPixel) :
    nearestToRat x ≤ size := by
  rw [halfPixel_eq] at hhigh
  obtain ⟨-, habove⟩ := abs_le.mp (abs_nearestToRat_sub_le x)
  have hle : (nearestToRat x : Rat) ≤ size := by linarith
  exact_mod_cast hle

/-- The pixel beyond the last one is reached from the border of an even number of pixels only. -/
theorem nearestToRat_eq_size_iff
    (hhigh : x ≤ size - halfPixel) :
    nearestToRat x = size ↔ Even size ∧ x = size - halfPixel := by
  rw [halfPixel_eq] at hhigh ⊢
  obtain ⟨hbelow, habove⟩ := abs_le.mp (abs_nearestToRat_sub_le x)
  constructor
  · intro hsize
    have hvalue : (nearestToRat x : Rat) = size := by exact_mod_cast hsize
    have hx : x = size - 1 / 2 := by linarith
    have heven := even_nearestToRat (q := x) (by rw [hvalue, hx]; norm_num)
    rw [hsize] at heven
    exact ⟨by exact_mod_cast heven, hx⟩
  · rintro ⟨heven, rfl⟩
    have hle := nearestToRat_le_size hhigh
    have hge : (size : Int) - 1 ≤ nearestToRat ((size : Rat) - 1 / 2) := by
      have hge : (size : Rat) - 1 ≤ nearestToRat ((size : Rat) - 1 / 2) := by linarith
      exact_mod_cast hge
    -- both neighbours are equally near
    by_contra hne
    have hlast : nearestToRat ((size : Rat) - 1 / 2) = size - 1 := by omega
    have hodd := even_nearestToRat (q := (size : Rat) - 1 / 2) (by rw [hlast]; norm_num)
    rw [hlast] at hodd
    have heven : Even (size : Int) := by exact_mod_cast heven
    obtain ⟨m, hm⟩ := heven
    obtain ⟨k, hk⟩ := hodd
    omega

end Border

/-! ## Where a line goes -/

section Walk

variable {width height : Nat} {s : Segment Rat}

/-- In exact arithmetic a segment is walked from one rounded end to the other. -/
theorem Segment.fragments_rat
    (s : Segment Rat) :
    ∃ rise fs, s.fragments = .ok fs
      ∧ Stepped (nearestToRat s.start.x) (nearestToRat s.start.y) (nearestToRat s.stop.x)
        (nearestToRat s.stop.y) s.start.z rise fs := by
  have hends : s.RoundsTo (nearestToRat s.start.x) (nearestToRat s.start.y)
      (nearestToRat s.stop.x) (nearestToRat s.stop.y) := ⟨rfl, rfl, rfl, rfl⟩
  have hfragments := Segment.fragments_eq hends rfl
  cases hrise : s.rise? (max (nearestToRat s.stop.x - nearestToRat s.start.x).natAbs
      (nearestToRat s.stop.y - nearestToRat s.start.y).natAbs) with
  | none =>
      obtain ⟨-, hdivisor⟩ := Segment.rise?_eq_none_iff.mp hrise
      cases hdivisor
  | some rise =>
      rw [hrise] at hfragments
      exact ⟨rise, _, hfragments, LineWalk.stepped_pixels _ _ _ _ _ rise rfl⟩

/-- A line is walked between the rounded ends of what is shown of it. -/
theorem lineFragments_rat
    (width height : Nat)
    (s : Segment Rat) :
    s.shown width height = ∅ ∧ lineFragments width height s = .ok []
      ∨ ∃ first last : Rat, IsLeast (s.shown width height) first
        ∧ IsGreatest (s.shown width height) last
        ∧ ∃ rise fs, lineFragments width height s = .ok fs
          ∧ Stepped (nearestToRat (s.pointAt first).x) (nearestToRat (s.pointAt first).y)
            (nearestToRat (s.pointAt last).x) (nearestToRat (s.pointAt last).y)
            (s.pointAt first).z rise fs := by
  unfold lineFragments
  rcases s.clip_cases width height with ⟨hclip, hempty⟩ | ⟨first, last, hclip, hfirst, hlast⟩
  · rw [hclip]
    exact .inl ⟨hempty, rfl⟩
  · rw [hclip]
    exact .inr ⟨first, last, hfirst, hlast, Segment.fragments_rat _⟩

/-- What is shown of a segment touches the right or the upper border of an even number of pixels. -/
def Segment.TouchesEvenBorder
    (width height : Nat)
    (s : Segment Rat) :
    Prop :=
  Even width ∧ (∃ t ∈ s.shown width height,
      s.start.x + t * (s.stop.x - s.start.x) = (width : Real) - halfPixel)
    ∨ Even height ∧ ∃ t ∈ s.shown width height,
      s.start.y + t * (s.stop.y - s.start.y) = (height : Real) - halfPixel

/-- A straight way that does not pass a bound reaches it at one of its ends, if at all. -/
theorem exists_eq_bound_iff
    {shown : Set Real}
    {first last : Rat}
    (hfirst : IsLeast shown first)
    (hlast : IsGreatest shown last)
    {p d bound : Real}
    (hbound : ∀ t ∈ shown, p + t * d ≤ bound) :
    (∃ t ∈ shown, p + t * d = bound) ↔ p + first * d = bound ∨ p + last * d = bound := by
  constructor
  · rintro ⟨t, ht, rfl⟩
    rcases le_total 0 d with hd | hd
    · have hle := mul_le_mul_of_nonneg_right (hlast.2 ht) hd
      exact .inr ((hbound last hlast.1).antisymm (add_le_add_right hle p))
    · have hle := mul_le_mul_of_nonpos_right (hfirst.2 ht) hd
      exact .inl ((hbound first hfirst.1).antisymm (add_le_add_right hle p))
  · rintro (hend | hend)
    · exact ⟨first, hfirst.1, hend⟩
    · exact ⟨last, hlast.1, hend⟩

/-- What is shown touches a border if one of its ends does. -/
theorem Segment.touchesEvenBorder_iff
    {first last : Rat}
    (hfirst : IsLeast (s.shown width height) first)
    (hlast : IsGreatest (s.shown width height) last) :
    s.TouchesEvenBorder width height
      ↔ Even width
          ∧ ((s.pointAt first).x = width - halfPixel ∨ (s.pointAt last).x = width - halfPixel)
        ∨ Even height
          ∧ ((s.pointAt first).y = height - halfPixel
            ∨ (s.pointAt last).y = height - halfPixel) := by
  have hscreen (t : Real) (ht : t ∈ s.shown width height) := (mem_shown_iff.mp ht).2
  unfold TouchesEvenBorder
  rw [exists_eq_bound_iff hfirst hlast fun t ht => (hscreen t ht).2.1,
    exists_eq_bound_iff hfirst hlast fun t ht => (hscreen t ht).2.2.2]
  unfold pointAt
  rify

/-- A point that is shown is rounded to a pixel of the canvas, or to one beyond an even border. -/
theorem Segment.nearest_pointAt
    {c : Canvas Rat}
    {t : Rat}
    (ht : (t : Real) ∈ s.shown c.width c.height) :
    (0 ≤ nearestToRat (s.pointAt t).x ∧ nearestToRat (s.pointAt t).x ≤ c.width
        ∧ 0 ≤ nearestToRat (s.pointAt t).y ∧ nearestToRat (s.pointAt t).y ≤ c.height)
      ∧ (c.Covers (nearestToRat (s.pointAt t).x) (nearestToRat (s.pointAt t).y)
        ↔ ¬(Even c.width ∧ (s.pointAt t).x = c.width - halfPixel)
          ∧ ¬(Even c.height ∧ (s.pointAt t).y = c.height - halfPixel)) := by
  obtain ⟨hxlow, hxhigh, hylow, hyhigh⟩ := onScreen_pointAt ht
  have hx : -halfPixel ≤ (s.pointAt t).x ∧ (s.pointAt t).x ≤ c.width - halfPixel := by
    rify
    exact ⟨hxlow, hxhigh⟩
  have hy : -halfPixel ≤ (s.pointAt t).y ∧ (s.pointAt t).y ≤ c.height - halfPixel := by
    rify
    exact ⟨hylow, hyhigh⟩
  have hcolumn := nearestToRat_le_size hx.2
  have hrow := nearestToRat_le_size hy.2
  refine ⟨⟨nearestToRat_nonneg hx.1, hcolumn, nearestToRat_nonneg hy.1, hrow⟩, ?_⟩
  rw [← nearestToRat_eq_size_iff hx.2, ← nearestToRat_eq_size_iff hy.2]
  constructor
  · rintro ⟨-, hwidth, -, hheight⟩
    exact ⟨hwidth.ne, hheight.ne⟩
  · rintro ⟨hwidth, hheight⟩
    exact ⟨nearestToRat_nonneg hx.1, lt_of_le_of_ne hcolumn hwidth, nearestToRat_nonneg hy.1,
      lt_of_le_of_ne hrow hheight⟩

end Walk

section Positions

variable {xa ya xb yb : Int} {depth rise : Rat} {fs : List (Fragment Rat)}

/-- A walk between two pixels is on a canvas if both of them are. -/
theorem Stepped.forall_covers_iff
    {c : Canvas Rat}
    (h : Stepped xa ya xb yb depth rise fs) :
    (∀ f ∈ fs, c.Covers f.x f.y) ↔ c.Covers xa ya ∧ c.Covers xb yb := by
  constructor
  · intro hall
    obtain ⟨z, hlast⟩ := h.last
    exact ⟨hall _ (List.mem_of_getElem? h.first), hall _ (List.mem_of_getLast? hlast)⟩
  · rintro ⟨⟨hxa, hxa', hya, hya'⟩, hxb, hxb', hyb, hyb'⟩ f hf
    have hwithin := h.within f hf
    exact ⟨by omega, by omega, by omega, by omega⟩

end Positions

/--
A line is plotted on the canvas and at most one pixel to the right of it or above it, in at most one
step more than the canvas has pixels along its longer side.  It is plotted within the canvas, and in
no more steps than that, if and only if what is shown of it does not touch the right border of an
even number of columns or the upper border of an even number of rows.
-/
theorem line_visible
    (c : Canvas Rat)
    (s : Segment Rat)
    (colour : Colour) :
    ∃ fs, lineFragments c.width c.height s = .ok fs
      ∧ Draw.line s colour c = (fs.forM fun f => Draw.plot f.x f.y f.depth colour) c
      ∧ (∀ f ∈ fs, 0 ≤ f.x ∧ f.x ≤ c.width ∧ 0 ≤ f.y ∧ f.y ≤ c.height)
      ∧ fs.length ≤ max c.width c.height + 1
      ∧ ((∀ f ∈ fs, c.Covers f.x f.y) ↔ ¬s.TouchesEvenBorder c.width c.height)
      ∧ (¬s.TouchesEvenBorder c.width c.height → fs.length ≤ max c.width c.height) := by
  have hdraw {fs : List (Fragment Rat)} (hfs : lineFragments c.width c.height s = .ok fs) :
      Draw.line s colour c = (fs.forM fun f => Draw.plot f.x f.y f.depth colour) c := by
    have hget : Draw.line s colour c
        = (Draw.lift (lineFragments c.width c.height s) >>= fun fragments =>
            Draw.plotAll fragments colour) c := rfl
    rw [hget, hfs]
    exact Draw.plotAll_eq_forM fs colour c
  rcases lineFragments_rat c.width c.height s with
    ⟨hempty, hfs⟩ | ⟨first, last, hfirst, hlast, rise, fs, hfs, hstepped⟩
  · refine ⟨[], hfs, hdraw hfs, by simp, by simp, iff_of_true (by simp) ?_, by simp⟩
    simp [Segment.TouchesEvenBorder, hempty]
  · refine ⟨fs, hfs, hdraw hfs, ?_⟩
    obtain ⟨hstart, hstarts⟩ := Segment.nearest_pointAt hfirst.1
    obtain ⟨hstop, hstops⟩ := Segment.nearest_pointAt hlast.1
    have hvisible : (∀ f ∈ fs, c.Covers f.x f.y) ↔ ¬s.TouchesEvenBorder c.width c.height := by
      rw [Segment.touchesEvenBorder_iff hfirst hlast, hstepped.forall_covers_iff, hstarts, hstops,
        and_or_left, and_or_left, not_or, not_or, not_or, and_and_and_comm]
    refine ⟨fun f hf => ?near, ?length, hvisible, fun haway => ?short⟩
    case near =>
      have hwithin := hstepped.within f hf
      omega
    case length =>
      rw [hstepped.length_eq]
      omega
    case short =>
      obtain ⟨⟨-, hxa, -, hya⟩, -, hxb, -, hyb⟩ :=
        hstepped.forall_covers_iff.mp (hvisible.mpr haway)
      rw [hstepped.length_eq]
      omega

/-- A line along the right border of four columns is plotted beside the canvas, and one that ends
there takes five steps. -/
theorem line_visible_even_border :
    (lineFragments 4 4 (⟨⟨7 / 2, 0, 0⟩, ⟨7 / 2, 3, 0⟩⟩ : Segment Rat)).map
        (List.map fun f => (f.x, f.y)) = .ok [(4, 0), (4, 1), (4, 2), (4, 3)]
      ∧ (lineFragments 4 4 (⟨⟨0, 0, 0⟩, ⟨7 / 2, 0, 0⟩⟩ : Segment Rat)).map
        (List.map fun f => (f.x, f.y)) = .ok [(0, 0), (1, 0), (2, 0), (3, 0), (4, 0)]
      ∧ ((Draw.line ⟨⟨7 / 2, 0, 0⟩, ⟨7 / 2, 3, 0⟩⟩ ⟨255, 0, 0⟩).left
        (Canvas.blank 4 4 ⟨0, 0, 0⟩ : Canvas Rat)).pixels = List.replicate 16 ⟨0, 0, 0⟩ := by
  decide +kernel

end Diorama
