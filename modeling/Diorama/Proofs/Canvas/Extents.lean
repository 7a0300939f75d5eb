import Diorama.Proofs.Canvas.VertexOrder
import Mathlib.Analysis.Convex.Basic
import Mathlib.Data.Int.ConditionallyCompleteOrder

/-!
# Triangles stay within their vertices

In exact arithmetic an edge goes from one of its ends to the other and no farther, and so do the
depths of a span from one of its rounded ends to the other: the part of a span that a canvas shows
lies between them.  A triangle is thereby within the rounded extents of its vertices and no deeper
or closer than all of them.  What it does not reach it leaves alone.

**Main statements.**
* `Canvas.receives_putAll`: places that are all different receive one mark each.
* `edgeAt_mem`, `spanDepth_mem`: edges and spans stay between their ends.
* `triangle_extents`: where a triangle is drawn, how deep, and what remains unchanged.
-/

namespace Diorama

/-! ## Showing a colour at different places -/

/-- Places of which no two are in the same column and row. -/
def Apart
    {α : Type}
    (fragments : List (Fragment α)) :
    Prop :=
  fragments.Pairwise fun f g => ¬(g.x = f.x ∧ g.y = f.y)

/-- A canvas that has received one colour at some places and is otherwise unchanged. -/
structure Canvas.Receives
    {α : Type}
    [Scalar α]
    (c : Canvas α)
    (fragments : List (Fragment α))
    (pixel : Pixel)
    (d : Canvas α) : Prop where
  grid : c.SameGrid d
  reached : ∀ f ∈ fragments,
    d.cell? f.x f.y = (c.cell? f.x f.y).map fun cell => cell.receive f.depth pixel
  others : ∀ x y, (∀ f ∈ fragments, ¬(x = f.x ∧ y = f.y)) → d.cell? x y = c.cell? x y

section Receives

variable {α : Type} [Scalar α]

theorem Canvas.receives_putAll
    {fragments : List (Fragment α)}
    (hapart : Apart fragments)
    (c : Canvas α)
    (pixel : Pixel) :
    c.Receives fragments pixel (c.putAll fragments pixel) := by
  induction fragments generalizing c with
  | nil => exact ⟨.refl c, by simp, fun _ _ _ => rfl⟩
  | cons f rest ih =>
      obtain ⟨hfirst, hrest⟩ := List.pairwise_cons.mp hapart
      have hput := c.cell?_put f.x f.y f.depth pixel
      obtain ⟨hgrid, hreached, hothers⟩ := ih hrest (c.put f.x f.y f.depth pixel)
      refine ⟨(c.sameGrid_put f.x f.y f.depth pixel).trans hgrid, fun g hg => ?_,
        fun x y haway => ?_⟩
      · rcases List.mem_cons.mp hg with rfl | hg
        · -- the place of the first one is not touched again
          have hkept := hothers g.x g.y fun h hh hsame => hfirst h hh (hsame.imp Eq.symm Eq.symm)
          rw [hput, if_pos ⟨rfl, rfl⟩] at hkept
          exact hkept
        · have hcell := hreached g hg
          rw [hput, if_neg (hfirst g hg)] at hcell
          exact hcell
      · have hkept := hothers x y fun g hg => haway g (List.mem_cons_of_mem f hg)
        rw [hput, if_neg (haway f List.mem_cons_self)] at hkept
        exact hkept

/-- What a canvas has received shows where it differs. -/
theorem Canvas.Receives.exists_of_ne
    {c d : Canvas α}
    {fragments : List (Fragment α)}
    {pixel : Pixel}
    (h : c.Receives fragments pixel d)
    {x y : Int}
    (hne : d.cell? x y ≠ c.cell? x y) :
    ∃ f ∈ fragments, x = f.x ∧ y = f.y ∧ d.cell? x y = some ⟨pixel, some f.depth⟩ := by
  by_contra! haway
  refine hne (h.others x y fun f hf hplace => ?_)
  obtain ⟨rfl, rfl⟩ := hplace
  have hkept := haway f hf rfl rfl
  rw [h.reached f hf] at hne hkept
  cases hcell : c.cell? f.x f.y with
  | none => simp [hcell] at hne
  | some cell =>
      simp only [hcell, Option.map_some, Cell.receive, ne_eq, Option.some.injEq] at hne hkept
      split at hne
      · rename_i hshows
        exact hkept (if_pos hshows)
      · exact hne rfl

end Receives

/-! ## Edges and spans between their ends -/

section Between

variable {low high : Rat}

theorem mix_mem
    {a b t : Rat}
    (ha : a ∈ Set.Icc low high)
    (hb : b ∈ Set.Icc low high)
    (ht : t ∈ Set.Icc (0 : Rat) 1) :
    a + (b - a) * t ∈ Set.Icc low high := by
  have hmix := (convex_Icc low high).add_smul_sub_mem ha hb ht
  rwa [smul_eq_mul, mul_comm] at hmix

/-- How far along an edge a row meets it: at its ends or in between. -/
theorem clamp_mem
    (t : Rat) :
    Scalar.smaller Scalar.one (Scalar.larger Scalar.zero t) ∈ Set.Icc (0 : Rat) 1 := by
  simp only [Scalar.larger_rat, Scalar.smaller_rat, Scalar.zero_rat, Scalar.one_rat]
  exact ⟨le_min zero_le_one (le_max_left 0 t), min_le_left _ _⟩

theorem edgeAt_mem
    {p q : Vec3 Rat}
    {left right far close : Rat}
    (hx : p.x ∈ Set.Icc left right ∧ q.x ∈ Set.Icc left right)
    (hz : p.z ∈ Set.Icc far close ∧ q.z ∈ Set.Icc far close)
    (y : Rat) :
    (edgeAt p q y).x ∈ Set.Icc left right ∧ (edgeAt p q y).depth ∈ Set.Icc far close := by
  unfold edgeAt
  split
  · exact ⟨hx.2, hz.2⟩
  · exact ⟨mix_mem hx.1 hx.2 (clamp_mem _), mix_mem hz.1 hz.2 (clamp_mem _)⟩

/-- Between the rounded ends of a span the depth is between those of its ends. -/
theorem spanDepth_mem
    {a b : SpanEnd Rat}
    (ha : a.depth ∈ Set.Icc low high)
    (hb : b.depth ∈ Set.Icc low high)
    {first last x : Int}
    (hx : x ∈ Set.Icc first last)
    {z : Rat}
    (hz : spanDepth a b first last x = .ok z) :
    z ∈ Set.Icc low high := by
  unfold spanDepth at hz
  split at hz
  · rename_i hlt
    obtain rfl := Except.ok.inj hz
    have hwidth : (0 : Rat) ≤ (last - first : Int) := by exact_mod_cast (sub_pos.mpr hlt).le
    have hoffset : (0 : Rat) ≤ (x - first : Int) := by exact_mod_cast sub_nonneg.mpr hx.1
    have hwithin : ((x - first : Int) : Rat) ≤ (last - first : Int) := by
      exact_mod_cast sub_le_sub_right hx.2 first
    rw [mul_div_assoc]
    exact mix_mem ha hb ⟨div_nonneg hoffset hwidth, div_le_one_of_le₀ hwithin hwidth⟩
  · obtain rfl := Except.ok.inj hz
    rw [Scalar.larger_rat]
    exact ⟨ha.1.trans (le_max_left _ _), max_le ha.2 hb.2⟩

end Between

/-! ## The places of a row -/

/-- A place in a row of a canvas, between two columns and two depths. -/
structure InRow
    (width : Nat)
    (y : Int)
    (left right : Int)
    (far close : Rat)
    (f : Fragment Rat) : Prop where
  row : f.y = y
  shown : 0 ≤ f.x ∧ f.x < width
  column : f.x ∈ Set.Icc left right
  depth : f.depth ∈ Set.Icc far close

section Rows

variable {a b : SpanEnd Rat} {left right far close : Rat} {width : Nat} {y : Int}
  {fragments : List (Fragment Rat)}

theorem spanFragments_inRow
    (hx : a.x ∈ Set.Icc left right ∧ b.x ∈ Set.Icc left right)
    (hz : a.depth ∈ Set.Icc far close ∧ b.depth ∈ Set.Icc far close)
    (h : spanFragments width y a b = .ok fragments) :
    ∀ f ∈ fragments, InRow width y (nearestToRat left) (nearestToRat right) far close f := by
  intro f hf
  have hsides : (spanSides a b).1.depth ∈ Set.Icc far close
      ∧ (spanSides a b).2.depth ∈ Set.Icc far close := by
    unfold spanSides
    split
    · exact hz.symm
    · exact hz
  rw [spanFragments_eq] at h
  obtain ⟨x, hcolumn, hfragment⟩ := (Crash.mem_of_mapM_eq_ok h).mp hf
  obtain ⟨z, hdepth, heq⟩ := bind_eq_ok_iff.mp hfragment
  obtain rfl := Except.ok.inj heq
  obtain ⟨hfrom, hto⟩ := mem_columns.mp hcolumn
  obtain ⟨hfirst, hzero⟩ := max_le_iff.mp hfrom
  obtain ⟨hlast, hwidth⟩ := le_min_iff.mp hto
  refine ⟨rfl, ⟨hzero, Int.lt_of_le_sub_one hwidth⟩, ⟨?_, ?_⟩, ?_⟩
  · exact (nearestToRat_mono (le_min hx.1.1 hx.2.1)).trans hfirst
  · exact hlast.trans (nearestToRat_mono (max_le hx.1.2 hx.2.2))
  · exact spanDepth_mem hsides.1 hsides.2 ⟨hfirst, hlast⟩ hdepth

theorem rowFragments_inRow
    {height : Nat}
    (hx : a.x ∈ Set.Icc left right ∧ b.x ∈ Set.Icc left right)
    (hz : a.depth ∈ Set.Icc far close ∧ b.depth ∈ Set.Icc far close)
    (h : rowFragments width height y a b = .ok fragments) :
    Apart fragments
      ∧ ∀ f ∈ fragments, InRow width y (nearestToRat left) (nearestToRat right) far close f := by
  unfold rowFragments at h
  split at h
  · exact ⟨pairwise_spanFragments h, spanFragments_inRow hx hz h⟩
  · obtain rfl := Except.ok.inj h
    exact ⟨.nil, by simp⟩

end Rows

/-! ## The extents of a triangle -/

/-- A place within the rounded extents of three vertices, not deeper or closer than all of them. -/
structure WithinExtents
    (p q r : Vec3 Rat)
    (f : Fragment Rat) : Prop where
  row : f.y ∈ Set.Icc (min p.y (min q.y r.y) + 1 / 2).floor (max p.y (max q.y r.y) + 1 / 2).floor
  column : f.x ∈ Set.Icc (nearestToRat (min p.x (min q.x r.x)))
    (nearestToRat (max p.x (max q.x r.x)))
  depth : f.depth ∈ Set.Icc (min p.z (min q.z r.z)) (max p.z (max q.z r.z))

section Main

variable {p q r bottom middle top : Vec3 Rat}

/-- Every vertex is within the extents of all three. -/
theorem coordinate_mem
    (coordinate : Vec3 Rat → Rat)
    {v : Vec3 Rat}
    (hv : v ∈ [p, q, r]) :
    coordinate v ∈ Set.Icc (min (coordinate p) (min (coordinate q) (coordinate r)))
      (max (coordinate p) (max (coordinate q) (coordinate r))) := by
  simp only [List.mem_cons, List.not_mem_nil, or_false] at hv
  rcases hv with rfl | rfl | rfl <;> simp

theorem spanEnds_mem
    {left right far close : Rat}
    (hx : ∀ v ∈ [bottom, middle, top], v.x ∈ Set.Icc left right)
    (hz : ∀ v ∈ [bottom, middle, top], v.z ∈ Set.Icc far close)
    (y : Int) :
    ((spanEnds bottom middle top y).1.x ∈ Set.Icc left right
        ∧ (spanEnds bottom middle top y).2.x ∈ Set.Icc left right)
      ∧ (spanEnds bottom middle top y).1.depth ∈ Set.Icc far close
        ∧ (spanEnds bottom middle top y).2.depth ∈ Set.Icc far close := by
  simp only [List.forall_mem_cons, List.not_mem_nil, false_implies, implies_true, and_true] at hx hz
  obtain ⟨hbottomx, hmiddlex, htopx⟩ := hx
  obtain ⟨hbottomz, hmiddlez, htopz⟩ := hz
  have hlong := edgeAt_mem ⟨hbottomx, htopx⟩ ⟨hbottomz, htopz⟩ (y : Rat)
  have hlower := edgeAt_mem ⟨hbottomx, hmiddlex⟩ ⟨hbottomz, hmiddlez⟩ (y : Rat)
  have hupper := edgeAt_mem ⟨hmiddlex, htopx⟩ ⟨hmiddlez, htopz⟩ (y : Rat)
  rcases lt_or_ge (y : Rat) middle.y with hlow | hhigh
  · rw [spanEnds_low hlow]
    exact ⟨⟨hlong.1, hlower.1⟩, hlong.2, hlower.2⟩
  · rw [spanEnds_high hhigh]
    exact ⟨⟨hlong.1, hupper.1⟩, hlong.2, hupper.2⟩

theorem triangleFragments_within
    (width height : Nat)
    (p q r : Vec3 Rat) :
    ∃ fragments, triangleFragments width height p q r = .ok fragments
      ∧ Apart fragments
      ∧ ∀ f ∈ fragments, (0 ≤ f.x ∧ f.x < width ∧ 0 ≤ f.y ∧ f.y < height)
        ∧ WithinExtents p q r f := by
  rcases hsort : sortByHeight p q r with ⟨bottom, middle, top⟩
  have hsame := (sorted_sortByHeight hsort).same
  have hvertex (coordinate : Vec3 Rat → Rat) (v : Vec3 Rat) (hv : v ∈ [bottom, middle, top]) :=
    coordinate_mem coordinate ((hsame v).mp hv)
  choose row hrow _ using fun y : Int => rowFragments_rat width height y
    (spanEnds bottom middle top y).1 (spanEnds bottom middle top y).2
  have hfragments : triangleFragments width height p q r
      = .ok ((fillRows height bottom top).flatMap row) := by
    have hrows : (fillRows height bottom top).mapM (fun y => rowFragments width height y
        (spanEnds bottom middle top y).1 (spanEnds bottom middle top y).2)
          = .ok ((fillRows height bottom top).map row) := by
      simp only [hrow]
      exact List.mapM_pure
    unfold triangleFragments
    rw [hsort]
    exact bind_eq_ok_iff.mpr ⟨_, triangleRows_rat height bottom top,
      bind_eq_ok_iff.mpr ⟨_, hrows, rfl⟩⟩
  have hrow (y : Int) := by
    have hends := spanEnds_mem (hvertex Vec3.x) (hvertex Vec3.z) y
    exact rowFragments_inRow hends.1 hends.2 (hrow y)
  refine ⟨_, hfragments, List.pairwise_flatMap.mpr ⟨fun y _ => (hrow y).1, ?_⟩, fun f hf => ?_⟩
  · -- places of different rows are different
    refine (pairwise_columns _ _).imp fun hne f hf g hg hplace => hne ?_
    rw [← ((hrow _).2 f hf).row, ← ((hrow _).2 g hg).row, hplace.2]
  · obtain ⟨y, hy, hf⟩ := List.mem_flatMap.mp hf
    obtain ⟨rfl, hshown, hcolumn, hdepth⟩ := (hrow y).2 f hf
    have hrows := mem_columns.mp hy
    have hlow := Rat.floor_monotone (add_le_add_left (hvertex Vec3.y bottom (by simp)).1 (1 / 2))
    have hhigh := Rat.floor_monotone (add_le_add_left (hvertex Vec3.y top (by simp)).2 (1 / 2))
    refine ⟨⟨hshown.1, hshown.2, by omega, by omega⟩, ⟨⟨by omega, by omega⟩, hcolumn, hdepth⟩⟩

/-- What filling a triangle does to a canvas: where, how deep, and what is left alone. -/
structure Canvas.FilledWithin
    (c : Canvas Rat)
    (p q r : Vec3 Rat)
    (colour : Colour)
    (fragments : List (Fragment Rat)) : Prop where
  places : triangleFragments c.width c.height p q r = .ok fragments
  apart : Apart fragments
  shown : ∀ f ∈ fragments, c.Covers f.x f.y
  within : ∀ f ∈ fragments, WithinExtents p q r f
  drawn : ∀ pixel, colour.toPixel? = some pixel →
    ∃ d, Draw.triangle p q r colour c = .ok () d ∧ c.Receives fragments pixel d
  refused : colour.toPixel? = none → (Draw.triangle p q r colour).left c = c
  changed : ∀ x y, ((Draw.triangle p q r colour).left c).cell? x y ≠ c.cell? x y →
    ∃ f ∈ fragments, x = f.x ∧ y = f.y ∧ ∃ pixel, colour.toPixel? = some pixel
      ∧ ((Draw.triangle p q r colour).left c).cell? x y = some ⟨pixel, some f.depth⟩

/-- A colour that cannot be stored changes nothing, wherever the triangle is. -/
theorem Draw.left_triangle_of_not_storable
    {colour : Colour}
    (hcolour : colour.toPixel? = none)
    (p q r : Vec3 Rat)
    (c : Canvas Rat) :
    (triangle p q r colour).left c = c := by
  rcases hsort : sortByHeight p q r with ⟨bottom, middle, top⟩
  have hmarks : (fillRows c.height bottom top).flatMap (fun y =>
      (DrawCall.span y (spanEnds bottom middle top y).1 (spanEnds bottom middle top y).2
        colour).marks c.width c.height) = [] := by
    simp [DrawCall.marks, DrawCall.colour, hcolour]
  rw [left_triangle hsort, hmarks]
  rfl

/-- A triangle stays within the extents of its vertices, on every canvas and in every colour. -/
theorem triangle_extents
    (c : Canvas Rat)
    (p q r : Vec3 Rat)
    (colour : Colour) :
    ∃ fragments, c.FilledWithin p q r colour fragments := by
  obtain ⟨fragments, hfragments, hapart, hwithin⟩ :=
    triangleFragments_within c.width c.height p q r
  have hdrawn (pixel : Pixel) (hcolour : colour.toPixel? = some pixel) :
      Draw.triangle p q r colour c = .ok () (c.putAll fragments pixel) :=
    (Draw.triangle_eq_ok hcolour p q r).mpr ⟨fragments, hfragments, rfl⟩
  refine ⟨fragments, hfragments, hapart, fun f hf => (hwithin f hf).1, fun f hf => (hwithin f hf).2,
    fun pixel hcolour => ⟨_, hdrawn pixel hcolour, Canvas.receives_putAll hapart c pixel⟩,
    fun hcolour => Draw.left_triangle_of_not_storable hcolour p q r c, fun x y hne => ?changed⟩
  cases hcolour : colour.toPixel? with
  | none => exact absurd (by rw [Draw.left_triangle_of_not_storable hcolour]) hne
  | some pixel =>
      have hleft : (Draw.triangle p q r colour).left c = c.putAll fragments pixel := by
        simp only [Draw.left, hdrawn pixel hcolour]
      rw [hleft] at hne ⊢
      obtain ⟨f, hf, hx, hy, hcell⟩ := (Canvas.receives_putAll hapart c pixel).exists_of_ne hne
      exact ⟨f, hf, hx, hy, pixel, rfl, hcell⟩

end Main
end Diorama
