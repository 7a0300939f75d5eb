import Diorama.Proofs.Canvas.DepthBuffer
import Diorama.Proofs.Number.Rational
import Mathlib.Data.Real.Basic
import Mathlib.Tactic.LinearCombination

/-!
# The pixels of a triangle

In exact arithmetic filling a triangle never fails, and the pixels that it draws are those between
the rounded ends of its rows.  A row of a triangle without a horizontal side runs from one edge to
another that starts or ends in the same vertex, so every point of the triangle in that row lies
between the two meeting points.

A row along a horizontal upper side is different.  It belongs to the edge from the middle to the
highest vertex, which is that side, and where an edge is horizontal only its second end counts:
of the whole row one pixel is drawn.

**Main statements.**
* `Draw.triangle_clear`: the pixels that a triangle draws on a cleared canvas.
* `sorted_sortByHeight`: what the order of the vertices is.
* `InTriangle.between_edges`: a point of a triangle between two edges with a common vertex.
* `triangle_coverage`: which pixels inside a triangle are drawn.
-/

namespace Diorama

open Scalar (LawfulOrder)

/-! ## Drawn pixels -/

/-- A position that something is drawn at. -/
def Canvas.Drawn
    {α : Type}
    (c : Canvas α)
    (x y : Int) :
    Prop :=
  ∃ cell, c.cell? x y = some cell ∧ cell.depth ≠ none

section Exact

/-- Every rational depth is above that of the background. -/
theorem Cell.depth_receiveAll_ne_none_iff
    (background : Pixel)
    (marks : List (Mark Rat)) :
    ((⟨background, none⟩ : Cell Rat).receiveAll marks).depth ≠ none ↔ ∃ m, m ∈ marks := by
  have hdecided := Cell.decided_receiveAll background marks
  generalize (⟨background, none⟩ : Cell Rat).receiveAll marks = cell at hdecided
  cases hdecided with
  | background low =>
      refine iff_of_false (by simp) ?_
      rintro ⟨m, hm⟩
      cases low m hm
  | @mark earlier later m split above farther closest =>
      exact iff_of_true (by simp) ⟨m, by simp [split]⟩

theorem Canvas.drawn_putAll_clear_iff
    {c : Canvas Rat}
    {x y : Int}
    (hcovers : c.Covers x y)
    (fragments : List (Fragment Rat))
    (pixel : Pixel) :
    (c.clear.putAll fragments pixel).Drawn x y ↔ ∃ f ∈ fragments, f.x = x ∧ f.y = y := by
  rw [Canvas.Drawn, Canvas.putAll_eq_markAll, Canvas.cell?_markAll_clear hcovers]
  simp only [Option.some.injEq, exists_eq_left', Cell.depth_receiveAll_ne_none_iff,
    List.mem_filter, List.mem_map, Mark.isAt, decide_eq_true_eq]
  constructor
  · rintro ⟨m, ⟨f, hf, rfl⟩, rfl, rfl⟩
    exact ⟨f, hf, rfl, rfl⟩
  · rintro ⟨f, hf, rfl, rfl⟩
    exact ⟨_, ⟨f, hf, rfl⟩, rfl, rfl⟩

/-! ## Spans and triangles in exact arithmetic -/

theorem spanSides_rat
    (a b : SpanEnd Rat) :
    (spanSides a b).1.x = min a.x b.x ∧ (spanSides a b).2.x = max a.x b.x := by
  unfold spanSides
  split
  · rename_i h
    have hle := (Scalar.less_rat_iff.mp h).le
    exact ⟨(min_eq_right hle).symm, (max_eq_left hle).symm⟩
  · rename_i h
    have hle := not_lt.mp (mt Scalar.less_rat_iff.mpr h)
    exact ⟨(min_eq_left hle).symm, (max_eq_right hle).symm⟩

theorem exists_columnFragment
    (y : Int)
    (a b : SpanEnd Rat)
    (first last x : Int) :
    ∃ f, columnFragment y (spanDepth a b first last) x = .ok f := by
  unfold columnFragment spanDepth
  split
  · exact ⟨_, rfl⟩
  · exact ⟨_, rfl⟩

/-- The columns between the rounded ends of a span. -/
def Spans
    (a b : SpanEnd Rat)
    (x : Int) :
    Prop :=
  nearestToRat (min a.x b.x) ≤ x ∧ x ≤ nearestToRat (max a.x b.x)

theorem spanFragments_rat
    (width : Nat)
    (y : Int)
    (a b : SpanEnd Rat) :
    ∃ fragments, spanFragments width y a b = .ok fragments
      ∧ ∀ x y', (∃ f ∈ fragments, f.x = x ∧ f.y = y')
        ↔ y' = y ∧ 0 ≤ x ∧ x < width ∧ Spans a b x := by
  obtain ⟨hleft, hright⟩ := spanSides_rat a b
  obtain ⟨fragments, hmap⟩ := Crash.exists_mapM_eq_ok
    (columns (max (nearestToRat (min a.x b.x)) 0) (min (nearestToRat (max a.x b.x)) (width - 1)))
    (fun x _ => exists_columnFragment y (spanSides a b).1 (spanSides a b).2
      (nearestToRat (min a.x b.x)) (nearestToRat (max a.x b.x)) x)
  refine ⟨fragments, spanFragments_eq_ok.mpr ⟨_, _, ?_, ?_, hmap⟩, fun x y' => ?_⟩
  · rw [hleft]
    rfl
  · rw [hright]
    rfl
  · obtain ⟨hxs, hys⟩ := places_of_mapM hmap
    have hcolumn : (∃ f ∈ fragments, f.x = x) ↔ x ∈ columns (max (nearestToRat (min a.x b.x)) 0)
        (min (nearestToRat (max a.x b.x)) (width - 1)) := by
      rw [← hxs, List.mem_map]
    rw [mem_columns] at hcolumn
    unfold Spans
    constructor
    · rintro ⟨f, hf, hfx, hfy⟩
      have hbounds := hcolumn.mp ⟨f, hf, hfx⟩
      exact ⟨hfy.symm.trans (hys f hf), by omega⟩
    · rintro ⟨rfl, hbounds⟩
      obtain ⟨f, hf, hfx⟩ := hcolumn.mpr (by omega)
      exact ⟨f, hf, hfx, hys f hf⟩

theorem triangleRows_rat
    (height : Nat)
    (bottom top : Vec3 Rat) :
    triangleRows height bottom top
      = .ok (columns (max (bottom.y + 1 / 2).floor 0) (min (top.y + 1 / 2).floor (height - 1))) :=
  rfl

theorem rowFragments_rat
    (width height : Nat)
    (y : Int)
    (a b : SpanEnd Rat) :
    ∃ fragments, rowFragments width height y a b = .ok fragments
      ∧ ∀ x y', (∃ f ∈ fragments, f.x = x ∧ f.y = y')
        ↔ y' = y ∧ (0 ≤ y ∧ y < height) ∧ 0 ≤ x ∧ x < width ∧ Spans a b x := by
  unfold rowFragments
  split
  · rename_i hrow
    obtain ⟨fragments, hfragments, hplaces⟩ := spanFragments_rat width y a b
    refine ⟨fragments, hfragments, fun x y' => (hplaces x y').trans ?_⟩
    rw [and_iff_right hrow]
  · rename_i hrow
    exact ⟨[], rfl, fun x y' => iff_of_false (by simp) fun h => hrow h.2.1⟩

/-- The places that a triangle with sorted vertices reaches. -/
structure Fills
    (bottom middle top : Vec3 Rat)
    (x y : Int) : Prop where
  above : (bottom.y + 1 / 2).floor ≤ y
  below : y ≤ (top.y + 1 / 2).floor
  spans : Spans (spanEnds bottom middle top y).1 (spanEnds bottom middle top y).2 x

theorem triangleFragments_rat
    (width height : Nat)
    {p q r bottom middle top : Vec3 Rat}
    (hsorted : sortByHeight p q r = (bottom, middle, top)) :
    ∃ fragments, triangleFragments width height p q r = .ok fragments
      ∧ ∀ x y : Int, 0 ≤ x → x < width → 0 ≤ y → y < height →
        ((∃ f ∈ fragments, f.x = x ∧ f.y = y) ↔ Fills bottom middle top x y) := by
  choose row hrow hplaces using fun y : Int => rowFragments_rat width height y
    (spanEnds bottom middle top y).1 (spanEnds bottom middle top y).2
  obtain ⟨spans, hspans⟩ := Crash.exists_mapM_eq_ok
    (columns (max (bottom.y + 1 / 2).floor 0) (min (top.y + 1 / 2).floor (height - 1)))
    (fun y _ => ⟨row y, hrow y⟩)
  refine ⟨spans.flatten, ?_, fun x y hx hwidth hy hheight => ?_⟩
  · unfold triangleFragments
    rw [hsorted]
    exact bind_eq_ok_iff.mpr ⟨_, triangleRows_rat height bottom top,
      bind_eq_ok_iff.mpr ⟨spans, hspans, rfl⟩⟩
  · constructor
    · rintro ⟨f, hf, hat⟩
      obtain ⟨fragments, hfragments, hf⟩ := List.mem_flatten.mp hf
      obtain ⟨y', hy', hrow'⟩ := (Crash.mem_of_mapM_eq_ok hspans).mp hfragments
      obtain rfl := Except.ok.inj ((hrow y').symm.trans hrow')
      obtain ⟨rfl, -, -, -, hspan⟩ := (hplaces y' x y).mp ⟨f, hf, hat⟩
      rw [mem_columns] at hy'
      exact ⟨by omega, by omega, hspan⟩
    · rintro ⟨habove, hbelow, hspan⟩
      obtain ⟨f, hf, hat⟩ := (hplaces y x y).mpr ⟨rfl, ⟨hy, hheight⟩, hx, hwidth, hspan⟩
      have hmem : row y ∈ spans :=
        (Crash.mem_of_mapM_eq_ok hspans).mpr ⟨y, mem_columns.mpr (by omega), hrow y⟩
      exact ⟨f, List.mem_flatten.mpr ⟨_, hmem, hf⟩, hat⟩

/-- What filling a triangle does to a cleared canvas. -/
theorem Draw.triangle_clear
    (c : Canvas Rat)
    {p q r bottom middle top : Vec3 Rat}
    (hsorted : sortByHeight p q r = (bottom, middle, top))
    {colour : Colour}
    {pixel : Pixel}
    (hcolour : colour.toPixel? = some pixel) :
    ∃ d, triangle p q r colour c.clear = .ok () d ∧ c.SameGrid d
      ∧ ∀ x y, c.Covers x y → (d.Drawn x y ↔ Fills bottom middle top x y) := by
  obtain ⟨fragments, hfragments, hplaces⟩ := triangleFragments_rat c.width c.height hsorted
  refine ⟨c.clear.putAll fragments pixel, ?_, ?_, ?_⟩
  · exact (triangle_eq_ok hcolour p q r).mpr ⟨fragments, hfragments, rfl⟩
  · rw [Canvas.putAll_eq_markAll]
    exact c.sameGrid_clear.trans (c.clear.sameGrid_markAll _)
  · rintro x y ⟨hx, hwidth, hy, hheight⟩
    rw [Canvas.drawn_putAll_clear_iff ⟨hx, hwidth, hy, hheight⟩]
    exact hplaces x y hx hwidth hy hheight

end Exact

/-! ## Sorted vertices -/

/-- A point inside a triangle or on its boundary, as seen from the front: a mean of its vertices. -/
def InTriangle
    (p q r : Vec3 Rat)
    (x y : Rat) :
    Prop :=
  ∃ a b c : Real, 0 ≤ a ∧ 0 ≤ b ∧ 0 ≤ c ∧ a + b + c = 1
    ∧ x = a * p.x + b * q.x + c * r.x
    ∧ y = a * p.y + b * q.y + c * r.y

section Vertices

variable {p q r : Vec3 Rat} {x y : Rat}

theorem InTriangle.swap
    (h : InTriangle p q r x y) :
    InTriangle q p r x y := by
  obtain ⟨a, b, c, ha, hb, hc, hsum, hx, hy⟩ := h
  exact ⟨b, a, c, hb, ha, hc, by linarith, by linarith, by linarith⟩

theorem InTriangle.rotate
    (h : InTriangle p q r x y) :
    InTriangle q r p x y := by
  obtain ⟨a, b, c, ha, hb, hc, hsum, hx, hy⟩ := h
  exact ⟨b, c, a, hb, hc, ha, by linarith, by linarith, by linarith⟩

/-- Coordinates from a vertex. -/
theorem InTriangle.from_vertex
    (h : InTriangle p q r x y) :
    ∃ b c : Real, 0 ≤ b ∧ 0 ≤ c
      ∧ (x - p.x : Real) = b * (q.x - p.x) + c * (r.x - p.x)
      ∧ (y - p.y : Real) = b * (q.y - p.y) + c * (r.y - p.y) := by
  obtain ⟨a, b, c, ha, hb, hc, hsum, hx, hy⟩ := h
  refine ⟨b, c, hb, hc, ?_, ?_⟩
  · linear_combination hx + p.x * hsum
  · linear_combination hy + p.y * hsum

/-- Vertices from the lowest to the highest, with equally high ones in their given order. -/
structure SortedVertices
    (p q r bottom middle top : Vec3 Rat) : Prop where
  bottom_le : bottom.y ≤ middle.y
  middle_le : middle.y ≤ top.y
  same : ∀ v, v ∈ [bottom, middle, top] ↔ v ∈ [p, q, r]
  stable : ∀ y, [bottom, middle, top].filter (fun v => v.y = y)
    = [p, q, r].filter (fun v => v.y = y)
  inside : ∀ {x y}, InTriangle p q r x y → InTriangle bottom middle top x y

theorem filter_swap
    (hne : p.y ≠ q.y)
    (rest : List (Vec3 Rat))
    (y : Rat) :
    (p :: q :: rest).filter (fun v => v.y = y) = (q :: p :: rest).filter (fun v => v.y = y) := by
  by_cases hp : p.y = y
  · have hq : q.y ≠ y := fun hq => hne (hp.trans hq.symm)
    simp [hp, hq]
  · simp [List.filter_cons, hp]

namespace SortedVertices

variable {bottom middle top : Vec3 Rat}

theorem refl
    (hpq : p.y ≤ q.y)
    (hqr : q.y ≤ r.y) :
    SortedVertices p q r p q r :=
  ⟨hpq, hqr, fun _ => Iff.rfl, fun _ => rfl, id⟩

theorem swap_first
    (hlt : q.y < p.y)
    (h : SortedVertices q p r bottom middle top) :
    SortedVertices p q r bottom middle top where
  bottom_le := h.bottom_le
  middle_le := h.middle_le
  same v := (h.same v).trans (List.Perm.swap p q [r]).mem_iff
  stable y := (h.stable y).trans (filter_swap hlt.ne [r] y)
  inside hpoint := h.inside hpoint.swap

theorem swap_last
    (hlt : r.y < q.y)
    (h : SortedVertices p r q bottom middle top) :
    SortedVertices p q r bottom middle top where
  bottom_le := h.bottom_le
  middle_le := h.middle_le
  same v := (h.same v).trans ((List.Perm.swap q r []).cons p).mem_iff
  stable y := by
    have hrest := filter_swap hlt.ne [] y
    rw [h.stable y, ← List.singleton_append, List.filter_append, hrest, ← List.filter_append]
    rfl
  inside hpoint := h.inside hpoint.rotate.swap.rotate.rotate

end SortedVertices

/-- Sorting exchanges neighbours of which the first is higher. -/
theorem sorted_sortByHeight
    {bottom middle top : Vec3 Rat}
    (h : sortByHeight p q r = (bottom, middle, top)) :
    SortedVertices p q r bottom middle top := by
  unfold sortByHeight at h
  simp only [Scalar.less_rat_iff] at h
  split_ifs at h with hqp hrp hrq hrq hrp <;> obtain ⟨rfl, rfl, rfl⟩ := h
  · exact .swap_first hqp (.swap_last hrp (.swap_first hrq (.refl hrq.le hqp.le)))
  · exact .swap_first hqp (.swap_last hrp (.refl (not_lt.mp hrq) hrp.le))
  · exact .swap_first hqp (.refl hqp.le (not_lt.mp hrp))
  · exact .swap_last hrq (.swap_first hrp (.refl hrp.le (not_lt.mp hqp)))
  · exact .swap_last hrq (.refl (not_lt.mp hrp) hrq.le)
  · exact .refl (not_lt.mp hqp) (not_lt.mp hrq)

/-- A height along a horizontal upper side, and the last of the vertices there. -/
structure FlatTop
    (p q r last : Vec3 Rat)
    (y : Rat) : Prop where
  highest : ∀ v ∈ [p, q, r], v.y ≤ y
  several : 1 < ([p, q, r].filter fun v => v.y = y).length
  getLast : ([p, q, r].filter fun v => v.y = y).getLast? = some last

theorem SortedVertices.flatTop_iff
    {bottom middle top last : Vec3 Rat}
    (h : SortedVertices p q r bottom middle top) :
    FlatTop p q r last y ↔ middle.y = y ∧ top.y = y ∧ last = top := by
  have hsorted : FlatTop p q r last y ↔ FlatTop bottom middle top last y := by
    constructor
    · rintro ⟨hhighest, hseveral, hlast⟩
      rw [← h.stable] at hseveral hlast
      exact ⟨fun v hv => hhighest v ((h.same v).mp hv), hseveral, hlast⟩
    · rintro ⟨hhighest, hseveral, hlast⟩
      rw [h.stable] at hseveral hlast
      exact ⟨fun v hv => hhighest v ((h.same v).mpr hv), hseveral, hlast⟩
  rw [hsorted]
  have hbottom := h.bottom_le
  have hmiddle := h.middle_le
  constructor
  · rintro ⟨hhighest, hseveral, hlast⟩
    have htop : top.y ≤ y := hhighest top (by simp)
    -- with one of them alone, the lower two would be higher than the highest
    have hm : middle.y = y := by
      by_contra hm
      have hmlt : middle.y < y := lt_of_le_of_ne (hmiddle.trans htop) hm
      have hblt : bottom.y ≠ y := (hbottom.trans_lt hmlt).ne
      by_cases ht : top.y = y <;> simp [hm, hblt, ht] at hseveral
    have ht : top.y = y := le_antisymm htop (hm ▸ hmiddle)
    rw [← List.singleton_append, List.filter_append] at hlast
    exact ⟨hm, ht, by simpa [hm, ht, eq_comm] using hlast⟩
  · rintro ⟨hm, ht, rfl⟩
    refine ⟨?_, ?_, ?_⟩
    · simp [hm, ht, hbottom.trans_eq hm]
    · by_cases hb : bottom.y = y <;> simp [hm, ht, hb]
    · by_cases hb : bottom.y = y <;> simp [hm, ht, hb]

end Vertices

/-! ## Points between two edges -/

section Edges

variable {p q : Vec3 Rat} {y : Rat}

theorem edgeAt_of_eq
    (h : q.y = p.y) :
    (edgeAt p q y).x = q.x := by
  rw [edgeAt, if_pos (Scalar.same_rat_iff.mpr h)]

/-- Within its height an edge meets a row where the straight line does. -/
theorem edgeAt_mul
    (hlt : p.y < q.y)
    (hfrom : p.y ≤ y)
    (hto : y ≤ q.y) :
    ((edgeAt p q y).x - p.x) * (q.y - p.y) = (q.x - p.x) * (y - p.y) := by
  have hpos : 0 < q.y - p.y := sub_pos.mpr hlt
  have hzero : 0 ≤ (y - p.y) / (q.y - p.y) := div_nonneg (sub_nonneg.mpr hfrom) hpos.le
  have hone : (y - p.y) / (q.y - p.y) ≤ 1 := (div_le_one hpos).mpr (by linarith)
  rw [edgeAt, if_neg (mt Scalar.same_rat_iff.mp hlt.ne')]
  simp only [Scalar.larger_rat, Scalar.smaller_rat, Scalar.zero_rat, Scalar.one_rat,
    max_eq_right hzero, min_eq_right hone]
  field_simp
  ring

/-- The same line, seen from its upper end. -/
theorem edgeAt_mul_top
    (hlt : p.y < q.y)
    (hfrom : p.y ≤ y)
    (hto : y ≤ q.y) :
    ((edgeAt p q y).x - q.x) * (p.y - q.y) = (p.x - q.x) * (y - q.y) := by
  linear_combination -edgeAt_mul hlt hfrom hto

theorem edgeAt_top
    (h : p.y ≤ q.y) :
    (edgeAt p q q.y).x = q.x := by
  rcases h.eq_or_lt with heq | hlt
  · exact edgeAt_of_eq heq.symm
  · have hpos : 0 < q.y - p.y := sub_pos.mpr hlt
    have hline := edgeAt_mul hlt hlt.le le_rfl
    linarith [mul_right_cancel₀ hpos.ne' hline]

end Edges

/-- How far a vertex lies beside the edge between two others, as an area. -/
def besideEdge
    (p q r : Vec3 Rat) :
    Rat :=
  (r.x - p.x) * (q.y - p.y) - (q.x - p.x) * (r.y - p.y)

/-- A point of a triangle lies between the places where two edges from one vertex meet its row, if
both edges leave that vertex upward or both leave it downward. -/
theorem InTriangle.between_edges
    {p q r : Vec3 Rat}
    {x y xq xr : Rat}
    (h : InTriangle p q r x y)
    (hside : 0 < (q.y - p.y) * (r.y - p.y))
    (hq : (xq - p.x) * (q.y - p.y) = (q.x - p.x) * (y - p.y))
    (hr : (xr - p.x) * (r.y - p.y) = (r.x - p.x) * (y - p.y)) :
    (x - xq) * (x - xr) ≤ 0 := by
  obtain ⟨b, c, hb, hc, hx, hy⟩ := h.from_vertex
  have hq : ((xq : Real) - p.x) * (q.y - p.y) = (q.x - p.x) * (y - p.y) := by exact_mod_cast hq
  have hr : ((xr : Real) - p.x) * (r.y - p.y) = (r.x - p.x) * (y - p.y) := by exact_mod_cast hr
  have hfirst : (x - xq : Real) * (q.y - p.y) = c * besideEdge p q r := by
    unfold besideEdge
    push_cast
    linear_combination (q.y - p.y) * hx - hq - (q.x - p.x) * hy
  have hsecond : (x - xr : Real) * (r.y - p.y) = -(b * besideEdge p q r) := by
    unfold besideEdge
    push_cast
    linear_combination (r.y - p.y) * hx - hr - (r.x - p.x) * hy
  have hproduct : ((x - xq) * (x - xr) * ((q.y - p.y) * (r.y - p.y)) : Real) ≤ 0 := by
    calc
      ((x - xq) * (x - xr) * ((q.y - p.y) * (r.y - p.y)) : Real)
          = ((x - xq) * (q.y - p.y)) * ((x - xr) * (r.y - p.y)) := by ring
      _ = -(b * c * besideEdge p q r ^ 2) := by
          rw [hfirst, hsecond]
          ring
      _ ≤ 0 := neg_nonpos.mpr (mul_nonneg (mul_nonneg hb hc) (sq_nonneg _))
  exact nonpos_of_mul_nonpos_left (by exact_mod_cast hproduct) hside

theorem between_of_sub_mul_sub_nonpos
    {a b x : Rat}
    (h : (x - a) * (x - b) ≤ 0) :
    min a b ≤ x ∧ x ≤ max a b := by
  rcases mul_nonpos_iff.mp h with ⟨ha, hb⟩ | ⟨ha, hb⟩
  · exact ⟨min_le_of_left_le (by linarith), le_max_of_le_right (by linarith)⟩
  · exact ⟨min_le_of_right_le (by linarith), le_max_of_le_left (by linarith)⟩

/-! ## Rows of a triangle -/

section Rows

variable {bottom middle top : Vec3 Rat} {x : Rat} {y : Int}

theorem InTriangle.bottom_le
    (h : InTriangle bottom middle top x y)
    (hbottom : bottom.y ≤ middle.y)
    (hmiddle : middle.y ≤ top.y) :
    bottom.y ≤ y ∧ y ≤ top.y := by
  obtain ⟨b, c, hb, hc, -, habove⟩ := h.from_vertex
  obtain ⟨b', c', hb', hc', -, hbelow⟩ := h.rotate.rotate.from_vertex
  have hbottom : (bottom.y : Real) ≤ middle.y := by exact_mod_cast hbottom
  have hmiddle : (middle.y : Real) ≤ top.y := by exact_mod_cast hmiddle
  have hmb := mul_nonneg hb (sub_nonneg.mpr hbottom)
  have htb := mul_nonneg hc (sub_nonneg.mpr (hbottom.trans hmiddle))
  have hbt := mul_nonneg hb' (sub_nonneg.mpr (hbottom.trans hmiddle))
  have hmt := mul_nonneg hc' (sub_nonneg.mpr hmiddle)
  have hfrom : (bottom.y : Real) ≤ (y : Rat) := by linarith
  have hto : ((y : Rat) : Real) ≤ top.y := by linarith
  exact ⟨by exact_mod_cast hfrom, by exact_mod_cast hto⟩

/-- Below the middle vertex both edges of a row start at the lowest one. -/
theorem spanEnds_of_lt
    (h : InTriangle bottom middle top x y)
    (hbottom : bottom.y ≤ y)
    (hmiddle : middle.y ≤ top.y)
    (hlow : y < middle.y) :
    (x - (spanEnds bottom middle top y).1.x) * (x - (spanEnds bottom middle top y).2.x) ≤ 0 := by
  have hends : spanEnds bottom middle top y
      = (edgeAt bottom top (y : Rat), edgeAt bottom middle (y : Rat)) := by
    simp [spanEnds, hlow]
  have hlong : bottom.y < top.y := by linarith
  have hshort : bottom.y < middle.y := by linarith
  rw [hends, mul_comm]
  exact h.between_edges (mul_pos (sub_pos.mpr hshort) (sub_pos.mpr hlong))
    (edgeAt_mul hshort hbottom hlow.le) (edgeAt_mul hlong hbottom (by linarith))

/-- From the middle vertex on both edges of a row end at the highest one. -/
theorem spanEnds_of_le
    (h : InTriangle bottom middle top x y)
    (hbottom : bottom.y ≤ middle.y)
    (htop : y ≤ top.y)
    (hhigh : middle.y ≤ y)
    (hslope : middle.y < top.y) :
    (x - (spanEnds bottom middle top y).1.x) * (x - (spanEnds bottom middle top y).2.x) ≤ 0 := by
  have hends : spanEnds bottom middle top y
      = (edgeAt bottom top (y : Rat), edgeAt middle top (y : Rat)) := by
    simp [spanEnds, not_lt.mpr hhigh]
  have hlong : bottom.y < top.y := by linarith
  rw [hends]
  exact h.rotate.rotate.between_edges
    (mul_pos_of_neg_of_neg (sub_neg.mpr hlong) (sub_neg.mpr hslope))
    (edgeAt_mul_top hlong (by linarith) htop) (edgeAt_mul_top hslope hhigh htop)

/-- Along a horizontal upper side both ends of a row are the highest vertex. -/
theorem spanEnds_of_flat
    (hbottom : bottom.y ≤ top.y)
    (hmiddle : middle.y = y)
    (htop : top.y = y) :
    (spanEnds bottom middle top y).1.x = top.x ∧ (spanEnds bottom middle top y).2.x = top.x := by
  have hends : spanEnds bottom middle top y
      = (edgeAt bottom top (y : Rat), edgeAt middle top (y : Rat)) := by
    simp [spanEnds, hmiddle]
  rw [hends]
  constructor
  · rw [← htop]
    exact edgeAt_top hbottom
  · exact edgeAt_of_eq (htop.trans hmiddle.symm)

theorem fills_iff_spans
    (hbottom : bottom.y ≤ y)
    (htop : y ≤ top.y)
    {column : Int} :
    Fills bottom middle top column y
      ↔ Spans (spanEnds bottom middle top y).1 (spanEnds bottom middle top y).2 column := by
  refine ⟨Fills.spans, fun hspans => ⟨?_, ?_, hspans⟩⟩
  · by_contra hlt
    have hle : (y + 1 : Int) ≤ bottom.y + 1 / 2 :=
      Rat.le_floor_iff.mp (Int.add_one_le_iff.mpr (not_le.mp hlt))
    push_cast at hle
    linarith
  · exact Rat.le_floor_iff.mpr (by linarith)

/-- A row of a triangle is filled from edge to edge, but for a horizontal upper side. -/
theorem fills_iff_of_inTriangle
    (hbottom : bottom.y ≤ middle.y)
    (hmiddle : middle.y ≤ top.y)
    {column : Int}
    (h : InTriangle bottom middle top column y) :
    Fills bottom middle top column y
      ↔ (middle.y = y ∧ top.y = y → column = nearestToRat top.x) := by
  obtain ⟨hfrom, hto⟩ := h.bottom_le hbottom hmiddle
  rw [fills_iff_spans hfrom hto]
  by_cases hflat : middle.y = y ∧ top.y = y
  · obtain ⟨hleft, hright⟩ := spanEnds_of_flat (hbottom.trans hmiddle) hflat.1 hflat.2
    simp only [Spans, hleft, hright, min_self, max_self, hflat, and_self, true_imp_iff]
    exact ⟨fun ⟨hle, hge⟩ => le_antisymm hge hle, fun h => ⟨h.ge, h.le⟩⟩
  · refine iff_of_true ?_ fun htop => absurd htop hflat
    have hnonpos : ((column : Rat) - (spanEnds bottom middle top y).1.x)
        * (column - (spanEnds bottom middle top y).2.x) ≤ 0 := by
      rcases lt_or_ge (y : Rat) middle.y with hlow | hhigh
      · exact spanEnds_of_lt h hfrom hmiddle hlow
      · have hslope : middle.y < top.y := by
          refine lt_of_le_of_ne hmiddle fun heq => hflat ?_
          exact ⟨le_antisymm hhigh (heq ▸ hto), le_antisymm (heq ▸ hhigh) hto⟩
        exact spanEnds_of_le h hbottom hto hhigh hslope
    obtain ⟨hle, hge⟩ := between_of_sub_mul_sub_nonpos hnonpos
    exact ⟨nearestToRat_le_of_le hle, le_nearestToRat_of_le hge⟩

end Rows

/-- A triangle that is filled on a cleared canvas draws the pixels whose centres lie inside it or on
its boundary; of a row along a horizontal upper side, that is only the column nearest to the last of
the highest vertices. -/
theorem triangle_coverage
    (c : Canvas Rat)
    (p q r : Vec3 Rat)
    {colour : Colour}
    {pixel : Pixel}
    (hcolour : colour.toPixel? = some pixel) :
    ∃ d, Draw.triangle p q r colour c.clear = .ok () d ∧ c.SameGrid d
      ∧ ∀ x y : Int, c.Covers x y → InTriangle p q r x y →
        (d.Drawn x y ↔ ∀ last, FlatTop p q r last y → x = nearestToRat last.x) := by
  rcases hsort : sortByHeight p q r with ⟨bottom, middle, top⟩
  have hsorted := sorted_sortByHeight hsort
  obtain ⟨d, hdraw, hgrid, hdrawn⟩ := Draw.triangle_clear c hsort hcolour
  refine ⟨d, hdraw, hgrid, fun x y hcovers hinside => ?_⟩
  rw [hdrawn x y hcovers, fills_iff_of_inTriangle hsorted.bottom_le hsorted.middle_le
    (hsorted.inside hinside)]
  simp only [hsorted.flatTop_iff]
  constructor
  · rintro h last ⟨hm, ht, rfl⟩
    exact h ⟨hm, ht⟩
  · rintro h ⟨hm, ht⟩
    exact h top ⟨hm, ht, rfl⟩

/-- A horizontal lower side is drawn from end to end, and so are the slopes above it. -/
theorem triangle_coverage_flat_bottom :
    ∃ d, Draw.triangle ⟨0, 0, 0⟩ ⟨4, 0, 0⟩ ⟨0, 4, 0⟩ ⟨255, 0, 0⟩
          (Canvas.blank 5 5 ⟨0, 0, 0⟩ : Canvas Rat).clear = .ok () d
      ∧ d.Drawn 0 0 ∧ d.Drawn 4 0 ∧ d.Drawn 1 3 := by
  have hcolour : (⟨255, 0, 0⟩ : Colour).toPixel? = some ⟨255, 0, 0⟩ := rfl
  obtain ⟨d, hdraw, -, hdrawn⟩ := triangle_coverage (Canvas.blank 5 5 ⟨0, 0, 0⟩)
    ⟨0, 0, 0⟩ ⟨4, 0, 0⟩ ⟨0, 4, 0⟩ hcolour
  have hcovers {x y : Int} (h : 0 ≤ x ∧ x < 5 ∧ 0 ≤ y ∧ y < 5) :
      (Canvas.blank 5 5 ⟨0, 0, 0⟩ : Canvas Rat).Covers x y := h
  have hbelow {last : Vec3 Rat} {y : Rat} (hy : y < 4) :
      ¬ FlatTop ⟨0, 0, 0⟩ ⟨4, 0, 0⟩ ⟨0, 4, 0⟩ last y :=
    fun h => absurd (h.highest ⟨0, 4, 0⟩ (by simp)) (not_le.mpr hy)
  refine ⟨d, hdraw, ?_, ?_, ?_⟩
  · refine (hdrawn 0 0 (hcovers (by decide)) ⟨1, 0, 0, by norm_num⟩).mpr fun _ htop => ?_
    exact absurd htop (hbelow (by norm_num))
  · refine (hdrawn 4 0 (hcovers (by decide)) ⟨0, 1, 0, by norm_num⟩).mpr fun _ htop => ?_
    exact absurd htop (hbelow (by norm_num))
  · refine (hdrawn 1 3 (hcovers (by decide)) ⟨0, 1 / 4, 3 / 4, by norm_num⟩).mpr fun _ htop => ?_
    exact absurd htop (hbelow (by norm_num))

/-- The other way up, the far end of the horizontal side stays undrawn. -/
theorem triangle_flat_top_uncovered :
    ∃ d, Draw.triangle ⟨0, 0, 0⟩ ⟨0, 4, 0⟩ ⟨4, 4, 0⟩ ⟨255, 0, 0⟩
          (Canvas.blank 5 5 ⟨0, 0, 0⟩ : Canvas Rat).clear = .ok () d
      ∧ (Canvas.blank 5 5 ⟨0, 0, 0⟩ : Canvas Rat).Covers 0 4
      ∧ InTriangle ⟨0, 0, 0⟩ ⟨0, 4, 0⟩ ⟨4, 4, 0⟩ 0 4
      ∧ ¬ d.Drawn 0 4 := by
  have hcolour : (⟨255, 0, 0⟩ : Colour).toPixel? = some ⟨255, 0, 0⟩ := rfl
  have hcovers : (Canvas.blank 5 5 ⟨0, 0, 0⟩ : Canvas Rat).Covers 0 4 :=
    ⟨by decide, by decide, by decide, by decide⟩
  have hinside : InTriangle ⟨0, 0, 0⟩ ⟨0, 4, 0⟩ ⟨4, 4, 0⟩ 0 4 := ⟨0, 1, 0, by norm_num⟩
  have hsort : sortByHeight (⟨0, 0, 0⟩ : Vec3 Rat) ⟨0, 4, 0⟩ ⟨4, 4, 0⟩
      = (⟨0, 0, 0⟩, ⟨0, 4, 0⟩, ⟨4, 4, 0⟩) := by
    simp [sortByHeight]
  obtain ⟨d, hdraw, -, hdrawn⟩ := Draw.triangle_clear (Canvas.blank 5 5 ⟨0, 0, 0⟩) hsort hcolour
  refine ⟨d, hdraw, hcovers, hinside, ?_⟩
  rw [hdrawn 0 4 hcovers, fills_iff_of_inTriangle (by norm_num) (by norm_num)
    (by simpa using hinside)]
  intro h
  have hcolumn : (0 : Int) = nearestToRat 4 := h (by norm_num)
  have hnearest : nearestToRat 4 = 4 := nearestToRat_intCast 4
  omega

end Diorama
