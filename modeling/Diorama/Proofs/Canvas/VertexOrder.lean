import Diorama.Proofs.Canvas.Coverage

/-!
# The order of vertices

In exact arithmetic the two ends of a span may be exchanged: which of them is on the left is decided
by their columns, and where these agree the greater depth is taken.  Of the vertices of a triangle
the sorting by height leaves open which of two equally high ones comes first.  Between the two
lowest ones this exchanges the ends of every row.  Between the two highest ones it does so below
their height only; the row of a horizontal upper side is drawn as the last of its vertices has it.

**Main statements.**
* `Draw.span_comm`: the ends of a span may be exchanged.
* `Draw.left_triangle_eq_iff`: triangles between two heights are compared row by row.
* `vertex_order`: when the order of the vertices does not matter.
-/

namespace Diorama

/-- The canvas that a step of drawing leaves behind, whether it crashes or not. -/
def Draw.left
    {α β : Type}
    (step : Draw α β)
    (c : Canvas α) :
    Canvas α :=
  match step c with
  | .ok _ d | .error _ d => d

/-- Three vertices in all their orders. -/
def orders
    (p q r : Vec3 Rat) :
    List (Vec3 Rat × Vec3 Rat × Vec3 Rat) :=
  [(p, q, r), (p, r, q), (q, p, r), (q, r, p), (r, p, q), (r, q, p)]

section Ends

variable {a b : SpanEnd Rat}

/-! ## The ends of a span -/

theorem spanSides_comm
    (hne : a.x ≠ b.x) :
    spanSides a b = spanSides b a := by
  unfold spanSides
  simp only [Scalar.less_rat_iff]
  rcases hne.lt_or_gt with hlt | hgt
  · rw [if_neg hlt.not_gt, if_pos hlt]
  · rw [if_pos hgt, if_neg hgt.not_gt]

theorem spanDepth_comm
    (first column : Int) :
    spanDepth a b first first column = spanDepth b a first first column := by
  simp only [spanDepth, lt_irrefl, if_false, Scalar.larger_rat, max_comm]

/-- The places of a span with its ends in order. -/
theorem spanFragments_eq
    (width : Nat)
    (y : Int)
    (a b : SpanEnd Rat) :
    spanFragments width y a b
      = (columns (max (nearestToRat (min a.x b.x)) 0)
          (min (nearestToRat (max a.x b.x)) (width - 1))).mapM
        (columnFragment y (spanDepth (spanSides a b).1 (spanSides a b).2
          (nearestToRat (min a.x b.x)) (nearestToRat (max a.x b.x)))) := by
  obtain ⟨hleft, hright⟩ := spanSides_rat a b
  rw [← hleft, ← hright]
  unfold spanFragments spanSides
  cases Scalar.less b.x a.x <;> rfl

theorem spanFragments_comm
    (width : Nat)
    (y : Int)
    (a b : SpanEnd Rat) :
    spanFragments width y a b = spanFragments width y b a := by
  rw [spanFragments_eq, spanFragments_eq, min_comm b.x, max_comm b.x]
  by_cases hx : a.x = b.x
  · -- over one column nothing depends on which of the two is called the first
    have hdepth : spanDepth (spanSides a b).1 (spanSides a b).2 (nearestToRat a.x)
          (nearestToRat a.x)
        = spanDepth (spanSides b a).1 (spanSides b a).2 (nearestToRat a.x)
          (nearestToRat a.x) := by
      funext column
      have hsides : spanSides a b = (a, b) ∧ spanSides b a = (b, a) := by
        simp [spanSides, hx]
      rw [hsides.1, hsides.2]
      exact spanDepth_comm _ column
    rw [← hx, min_self, max_self, hdepth]
  · rw [spanSides_comm hx]

/-- The ends of a span may be exchanged. -/
theorem Draw.span_comm
    (y : Int)
    (a b : SpanEnd Rat)
    (colour : Colour) :
    span y a b colour = span y b a colour := by
  unfold span
  simp only [spanFragments_comm _ y a b]

end Ends

/-! ## What spans and triangles leave -/

theorem Draw.left_forM_of_unchanged
    {α β : Type}
    {step : β → Draw α Unit}
    {c : Canvas α}
    (h : ∀ b, (step b).left c = c)
    (bs : List β) :
    (bs.forM step).left c = c := by
  induction bs with
  | nil => rfl
  | cons b rest ih =>
      have hb := h b
      have hcons : ((b :: rest).forM step) c = (step b >>= fun _ => rest.forM step) c := rfl
      unfold left at hb ih ⊢
      rw [hcons]
      simp only [bind, EStateM.bind]
      cases hstep : step b c with
      | ok u d =>
          rw [hstep] at hb
          obtain rfl : d = c := hb
          exact ih
      | error cause d =>
          rw [hstep] at hb
          exact hb

section Left

variable {α : Type} [Scalar α] {colour : Colour}

/-- A span whose colour cannot be stored changes nothing, whether it crashes or not. -/
theorem Draw.left_span_of_not_storable
    (hcolour : colour.toPixel? = none)
    (y : Int)
    (a b : SpanEnd α)
    (c : Canvas α) :
    (span y a b colour).left c = c := by
  have hget : span y a b colour c
      = (if 0 ≤ y ∧ y < c.height then (do
          let fragments ← lift (spanFragments c.width y a b)
          if fragments.isEmpty then return
          throw .channelOutOfRange : Draw α Unit)
        else return) c := by
    unfold span
    rw [hcolour]
    rfl
  unfold left
  rw [hget]
  split_ifs
  · cases spanFragments c.width y a b with
    | error cause => rfl
    | ok fragments => cases fragments <;> rfl
  · rfl

theorem row_of_mem_marks
    {width height : Nat}
    {y : Int}
    {a b : SpanEnd α}
    {m : Mark α}
    (hm : m ∈ (DrawCall.span y a b colour).marks width height) :
    m.y = y := by
  unfold DrawCall.marks at hm
  split at hm
  · rename_i fragments pixel hfragments _
    obtain ⟨f, hf, rfl⟩ := List.mem_map.mp hm
    simp only [DrawCall.fragments, rowFragments] at hfragments
    split at hfragments
    · obtain ⟨first, last, -, -, hmap⟩ := spanFragments_eq_ok.mp hfragments
      exact (places_of_mapM hmap).2 f hf
    · cases hfragments
      cases hf
  · cases hm

/-- Marks of one row leave the others alone. -/
theorem Canvas.cell?_markAll_of_row
    {marks : List (Mark α)}
    {y y' : Int}
    (hmarks : ∀ m ∈ marks, m.y = y')
    (hne : y ≠ y')
    (c : Canvas α)
    (x : Int) :
    (c.markAll marks).cell? x y = c.cell? x y := by
  have hfilter : marks.filter (fun m => m.isAt x y) = [] := by
    refine List.filter_eq_nil_iff.mpr fun m hm hat => hne ?_
    exact (of_decide_eq_true hat).2.trans (hmarks m hm)
  rw [cell?_markAll, hfilter]
  cases c.cell? x y <;> rfl

/-- Marks that are put row by row: every row has its own ones only. -/
theorem Canvas.cell?_markAll_rows
    {marks : Int → List (Mark α)}
    (hmarks : ∀ y, ∀ m ∈ marks y, m.y = y)
    {rows : List Int}
    (hrows : rows.Nodup)
    (c : Canvas α)
    (x y : Int) :
    (c.markAll (rows.flatMap marks)).cell? x y
      = if y ∈ rows then (c.markAll (marks y)).cell? x y else c.cell? x y := by
  induction rows generalizing c with
  | nil => rfl
  | cons y' rest ih =>
      obtain ⟨hfresh, hrest⟩ := List.nodup_cons.mp hrows
      rw [List.flatMap_cons, markAll_append, ih hrest]
      by_cases hy : y = y'
      · subst hy
        rw [if_neg hfresh, if_pos List.mem_cons_self]
      · have hother := cell?_markAll_of_row (hmarks y') hy c x
        rw [hother]
        simp only [List.mem_cons, hy, false_or]
        split
        · rw [cell?_markAll, hother, ← cell?_markAll]
        · rfl

end Left

section Rows

/-- What a span leaves behind is the canvas with the marks of the span. -/
theorem Draw.left_span
    (y : Int)
    (a b : SpanEnd Rat)
    (colour : Colour)
    (c : Canvas Rat) :
    (span y a b colour).left c
      = c.markAll ((DrawCall.span y a b colour).marks c.width c.height) := by
  obtain ⟨fragments, hfragments, -⟩ := rowFragments_rat c.width c.height y a b
  cases hcolour : colour.toPixel? with
  | none =>
      have hmarks : (DrawCall.span y a b colour).marks c.width c.height = [] := by
        simp [DrawCall.marks, DrawCall.colour, hcolour]
      rw [hmarks]
      exact left_span_of_not_storable hcolour y a b c
  | some pixel =>
      have hdraw : span y a b colour c
          = .ok () (c.markAll ((DrawCall.span y a b colour).marks c.width c.height)) :=
        (@DrawCall.draw_eq_ok Rat _ c _ (.span y a b colour) pixel hcolour).mpr
          ⟨⟨fragments, hfragments⟩, rfl⟩
      simp only [left, hdraw]

theorem Draw.left_forM_span
    (ends : Int → SpanEnd Rat × SpanEnd Rat)
    (rows : List Int)
    (colour : Colour)
    (c : Canvas Rat) :
    (rows.forM fun y => span y (ends y).1 (ends y).2 colour).left c
      = c.markAll (rows.flatMap fun y =>
          (DrawCall.span y (ends y).1 (ends y).2 colour).marks c.width c.height) := by
  cases hcolour : colour.toPixel? with
  | none =>
      rw [left_forM_of_unchanged fun y => left_span_of_not_storable hcolour y _ _ c]
      have hmarks : (rows.flatMap fun y =>
          (DrawCall.span y (ends y).1 (ends y).2 colour).marks c.width c.height) = [] := by
        simp [DrawCall.marks, DrawCall.colour, hcolour]
      rw [hmarks]
      rfl
  | some pixel =>
      induction rows generalizing c with
      | nil => rfl
      | cons y rest ih =>
          have hspan := left_span y (ends y).1 (ends y).2 colour c
          obtain ⟨fragments, hfragments, -⟩ :=
            rowFragments_rat c.width c.height y (ends y).1 (ends y).2
          have hdraw := (span_eq_ok (c := c) hcolour).mpr ⟨fragments, hfragments, rfl⟩
          have hleft := ih (c.putAll fragments pixel)
          have hgrid := c.sameGrid_markAll
            ((DrawCall.span y (ends y).1 (ends y).2 colour).marks c.width c.height)
          simp only [left, hdraw] at hspan
          rw [hspan, hgrid.width, hgrid.height] at hleft
          rw [List.flatMap_cons, Canvas.markAll_append, ← hleft, ← hspan]
          have hcons : ((y :: rest).forM fun y => span y (ends y).1 (ends y).2 colour) c
              = (span y (ends y).1 (ends y).2 colour >>= fun _ =>
                  rest.forM fun y => span y (ends y).1 (ends y).2 colour) c := rfl
          simp only [left, hcons, bind, EStateM.bind, hdraw]

/-- The rows of a triangle with sorted vertices. -/
def fillRows
    (height : Nat)
    (bottom top : Vec3 Rat) :
    List Int :=
  columns (max (bottom.y + 1 / 2).floor 0) (min (top.y + 1 / 2).floor (height - 1))

theorem Draw.left_triangle
    {p q r bottom middle top : Vec3 Rat}
    (hsort : sortByHeight p q r = (bottom, middle, top))
    (colour : Colour)
    (c : Canvas Rat) :
    (triangle p q r colour).left c
      = c.markAll ((fillRows c.height bottom top).flatMap fun y =>
          (DrawCall.span y (spanEnds bottom middle top y).1 (spanEnds bottom middle top y).2
            colour).marks c.width c.height) := by
  rw [← left_forM_span]
  unfold left triangle
  rw [hsort]
  rfl

section Compare

variable {p q r bottom middle top p' q' r' bottom' middle' top' : Vec3 Rat}

/-- Triangles between the same two heights leave the same if each of their rows does. -/
theorem Draw.left_triangle_eq_iff
    (hsort : sortByHeight p q r = (bottom, middle, top))
    (hsort' : sortByHeight p' q' r' = (bottom', middle', top'))
    (hbottom : bottom'.y = bottom.y)
    (htop : top'.y = top.y)
    (colour : Colour)
    (c : Canvas Rat) :
    (triangle p q r colour).left c = (triangle p' q' r' colour).left c
      ↔ ∀ y ∈ fillRows c.height bottom top,
        (span y (spanEnds bottom middle top y).1 (spanEnds bottom middle top y).2 colour).left c
          = (span y (spanEnds bottom' middle' top' y).1 (spanEnds bottom' middle' top' y).2
            colour).left c := by
  have hrows : fillRows c.height bottom' top' = fillRows c.height bottom top := by
    unfold fillRows
    rw [hbottom, htop]
  have hnodup : (fillRows c.height bottom top).Nodup :=
    (pairwise_columns _ _).imp Ne.symm
  rw [left_triangle hsort, left_triangle hsort', hrows]
  constructor
  · intro heq y hy
    rw [left_span, left_span]
    refine Canvas.ext_cell? ((c.sameGrid_markAll _).symm.trans (c.sameGrid_markAll _)) ?_
    intro x y'
    have hcells := congrArg (fun d => Canvas.cell? d x y') heq
    simp only [Canvas.cell?_markAll_rows (fun y m => row_of_mem_marks) hnodup] at hcells
    by_cases hy' : y' = y
    · subst hy'
      simpa only [if_pos hy] using hcells
    · rw [Canvas.cell?_markAll_of_row (fun m => row_of_mem_marks) hy',
        Canvas.cell?_markAll_of_row (fun m => row_of_mem_marks) hy']
  · intro h
    refine Canvas.ext_cell? ((c.sameGrid_markAll _).symm.trans (c.sameGrid_markAll _)) ?_
    intro x y
    rw [Canvas.cell?_markAll_rows (fun y m => row_of_mem_marks) hnodup,
      Canvas.cell?_markAll_rows (fun y m => row_of_mem_marks) hnodup]
    split
    · rename_i hy
      rw [← left_span, ← left_span, h y hy]
    · rfl

end Compare
end Rows

/-! ## Orders of three vertices -/

section Orders

variable {p q r bottom middle top bottom' middle' top' : Vec3 Rat}

/-- Three vertices have the same orders in whatever order they are given. -/
theorem orders_subset
    (h : (bottom, middle, top) ∈ orders p q r) :
    orders bottom middle top ⊆ orders p q r := by
  simp only [orders, List.mem_cons, List.not_mem_nil, or_false, Prod.mk.injEq] at h
  rcases h with ⟨rfl, rfl, rfl⟩ | ⟨rfl, rfl, rfl⟩ | ⟨rfl, rfl, rfl⟩ | ⟨rfl, rfl, rfl⟩
    | ⟨rfl, rfl, rfl⟩ | ⟨rfl, rfl, rfl⟩ <;> simp [orders]

theorem mem_orders_symm
    (h : (bottom, middle, top) ∈ orders p q r) :
    (p, q, r) ∈ orders bottom middle top := by
  simp only [orders, List.mem_cons, List.not_mem_nil, or_false, Prod.mk.injEq] at h
  rcases h with ⟨rfl, rfl, rfl⟩ | ⟨rfl, rfl, rfl⟩ | ⟨rfl, rfl, rfl⟩ | ⟨rfl, rfl, rfl⟩
    | ⟨rfl, rfl, rfl⟩ | ⟨rfl, rfl, rfl⟩ <;> simp [orders]

theorem sortByHeight_mem_orders
    (h : sortByHeight p q r = (bottom, middle, top)) :
    (bottom, middle, top) ∈ orders p q r := by
  rw [← h]
  unfold sortByHeight
  split_ifs <;> simp [orders]

theorem sortByHeight_of_le
    (hbottom : bottom.y ≤ middle.y)
    (hmiddle : middle.y ≤ top.y) :
    sortByHeight bottom middle top = (bottom, middle, top) := by
  simp [sortByHeight, hbottom.not_gt, hmiddle.not_gt]

/-- An order of three vertices from the lowest to the highest. -/
structure Upward
    (p q r bottom middle top : Vec3 Rat) : Prop where
  mem : (bottom, middle, top) ∈ orders p q r
  bottom_le : bottom.y ≤ middle.y
  middle_le : middle.y ≤ top.y

theorem upward_of_sortByHeight
    (h : sortByHeight p q r = (bottom, middle, top)) :
    Upward p q r bottom middle top :=
  ⟨sortByHeight_mem_orders h, (sorted_sortByHeight h).bottom_le, (sorted_sortByHeight h).middle_le⟩

/-- How an upward order of some vertices may differ from another one. -/
inductive Reordered
    (bottom middle top : Vec3 Rat) :
    Vec3 Rat → Vec3 Rat → Vec3 Rat → Prop
  | same : Reordered bottom middle top bottom middle top
  | lower
      (level : bottom.y = middle.y)
      (slope : middle.y < top.y) :
      Reordered bottom middle top middle bottom top
  | upper
      (slope : bottom.y < top.y)
      (level : middle.y = top.y) :
      Reordered bottom middle top bottom top middle
  | flat
      {bottom' middle' top' : Vec3 Rat}
      (level : bottom.y = top.y ∧ middle.y = top.y)
      (level' : bottom'.y = top.y ∧ middle'.y = top.y ∧ top'.y = top.y) :
      Reordered bottom middle top bottom' middle' top'

theorem Upward.reordered
    (h : Upward p q r bottom middle top)
    (h' : Upward p q r bottom' middle' top') :
    Reordered bottom middle top bottom' middle' top' := by
  have hbottom := h.bottom_le
  have hmiddle := h.middle_le
  have hbottom' := h'.bottom_le
  have hmiddle' := h'.middle_le
  have hmem := orders_subset (mem_orders_symm h.mem) h'.mem
  simp only [orders, List.mem_cons, List.not_mem_nil, or_false, Prod.mk.injEq] at hmem
  rcases hmem with ⟨rfl, rfl, rfl⟩ | ⟨rfl, rfl, rfl⟩ | ⟨rfl, rfl, rfl⟩ | ⟨rfl, rfl, rfl⟩
    | ⟨rfl, rfl, rfl⟩ | ⟨rfl, rfl, rfl⟩
  · exact .same
  · have hlevel := le_antisymm hmiddle hmiddle'
    rcases hbottom'.lt_or_eq with hlt | heq
    · exact .upper hlt hlevel
    · exact .flat ⟨heq, hlevel⟩ ⟨heq, rfl, hlevel⟩
  · have hlevel := le_antisymm hbottom hbottom'
    rcases hmiddle.lt_or_eq with hlt | heq
    · exact .lower hlevel hlt
    · exact .flat ⟨hlevel.trans heq, heq⟩ ⟨heq, hlevel.trans heq, rfl⟩
  all_goals
    refine .flat ⟨?_, ?_⟩ ⟨?_, ?_, ?_⟩ <;> linarith

theorem Reordered.heights
    (h : Reordered bottom middle top bottom' middle' top') :
    bottom'.y = bottom.y ∧ middle'.y = middle.y ∧ top'.y = top.y := by
  cases h with
  | same => exact ⟨rfl, rfl, rfl⟩
  | lower level slope => exact ⟨level.symm, level, rfl⟩
  | upper slope level => exact ⟨rfl, level.symm, level⟩
  | flat level level' =>
      exact ⟨level'.1.trans level.1.symm, level'.2.1.trans level.2.symm, level'.2.2⟩

end Orders

/-! ## Edges and rows -/

/-- A vertex as the end of a span. -/
def Vec3.spanEnd
    (v : Vec3 Rat) :
    SpanEnd Rat :=
  ⟨v.x, v.z⟩

section Edges

variable {p q : Vec3 Rat} {y : Rat}

theorem edgeAt_level
    (h : q.y = p.y) :
    edgeAt p q y = q.spanEnd := by
  rw [edgeAt, if_pos (Scalar.same_rat_iff.mpr h)]
  rfl

theorem edgeAt_below
    (hslope : p.y < q.y)
    (hy : y ≤ p.y) :
    edgeAt p q y = p.spanEnd := by
  have hnonpos : (y - p.y) / (q.y - p.y) ≤ 0 :=
    div_nonpos_of_nonpos_of_nonneg (sub_nonpos.mpr hy) (sub_nonneg.mpr hslope.le)
  rw [edgeAt, if_neg (mt Scalar.same_rat_iff.mp hslope.ne')]
  simp [max_eq_left hnonpos, Vec3.spanEnd]

theorem edgeAt_above
    (hslope : p.y < q.y)
    (hy : q.y ≤ y) :
    edgeAt p q y = q.spanEnd := by
  have hone : 1 ≤ (y - p.y) / (q.y - p.y) :=
    (one_le_div (sub_pos.mpr hslope)).mpr (sub_le_sub_right hy _)
  rw [edgeAt, if_neg (mt Scalar.same_rat_iff.mp hslope.ne')]
  simp [max_eq_right (zero_le_one.trans hone), min_eq_left hone, Vec3.spanEnd]

end Edges

section Ends

variable {bottom middle top : Vec3 Rat} {y : Int}

theorem spanEnds_low
    (h : y < middle.y) :
    spanEnds bottom middle top y = (edgeAt bottom top (y : Rat), edgeAt bottom middle (y : Rat)) := by
  simp [spanEnds, h]

theorem spanEnds_high
    (h : middle.y ≤ y) :
    spanEnds bottom middle top y = (edgeAt bottom top (y : Rat), edgeAt middle top (y : Rat)) := by
  simp [spanEnds, not_lt.mpr h]

/-- Exchanging two equally high lowest vertices exchanges the ends of every row. -/
theorem spanEnds_lower
    (level : bottom.y = middle.y)
    (slope : middle.y < top.y) :
    spanEnds middle bottom top y = (spanEnds bottom middle top y).swap := by
  rcases lt_or_ge (y : Rat) middle.y with hlow | hhigh
  · rw [spanEnds_low hlow, spanEnds_low (level ▸ hlow), edgeAt_level level, edgeAt_level level.symm,
      edgeAt_below slope hlow.le, edgeAt_below (level ▸ slope) (level ▸ hlow.le)]
    rfl
  · rw [spanEnds_high hhigh, spanEnds_high (level ▸ hhigh)]
    rfl

/-- Exchanging two equally high highest vertices exchanges the ends of the rows below them. -/
theorem spanEnds_upper
    (level : middle.y = top.y)
    (hlow : y < top.y) :
    spanEnds bottom top middle y = (spanEnds bottom middle top y).swap := by
  rw [spanEnds_low hlow, spanEnds_low (level ▸ hlow)]
  rfl

end Ends

/-! ## Horizontal upper sides -/

/-- The row that a height is rounded to. -/
def crestRow
    (height : Rat) :
    Int :=
  (height + 1 / 2).floor

/-- What is drawn of the horizontal side between the last two vertices of an order. -/
def crestSpan
    (middle top : Vec3 Rat)
    (colour : Colour) :
    Draw Rat Unit :=
  Draw.span (crestRow top.y) top.spanEnd
    (if crestRow top.y < top.y then middle.spanEnd else top.spanEnd) colour

/-- The last two vertices of an upward order are equally high, and the side between them has a row to
itself: their height is rounded up to it, or the third vertex is as high as they are. -/
structure Crest
    (p q r middle top : Vec3 Rat) : Prop where
  last : ∃ bottom, (bottom, middle, top) ∈ orders p q r ∧ bottom.y ≤ top.y
    ∧ (top.y ≤ crestRow top.y ∨ bottom.y = top.y)
  level : middle.y = top.y

section Crests

variable {bottom middle top : Vec3 Rat} {y : Int}

theorem crestRow_bounds
    (height : Rat) :
    crestRow height ≤ height + 1 / 2 ∧ height + 1 / 2 < crestRow height + 1 :=
  ⟨Rat.floor_le _, by exact_mod_cast Rat.lt_floor_add_one _⟩

/-- A row of a triangle that is not below its highest vertex is the last one. -/
theorem eq_crestRow_of_le
    {height : Nat}
    (hrow : y ∈ fillRows height bottom top)
    (h : top.y ≤ y) :
    y = crestRow top.y := by
  have hlast : y ≤ crestRow top.y := by
    have hbounds := (mem_columns.mp hrow).2
    unfold crestRow
    omega
  have hlt : (crestRow top.y : Rat) < y + 1 := by
    linarith [(crestRow_bounds top.y).1]
  have hlt : crestRow top.y < y + 1 := by exact_mod_cast hlt
  omega

theorem eq_crestRow_of_flat
    {height : Nat}
    (hrow : y ∈ fillRows height bottom top)
    (h : bottom.y = top.y) :
    y = crestRow top.y := by
  have hbounds := mem_columns.mp hrow
  rw [h] at hbounds
  unfold crestRow
  omega

theorem spanEnds_crest
    (hbottom : bottom.y ≤ top.y)
    (hcrest : top.y ≤ crestRow top.y ∨ bottom.y = top.y)
    (level : middle.y = top.y) :
    spanEnds bottom middle top (crestRow top.y)
      = (top.spanEnd, if crestRow top.y < top.y then middle.spanEnd else top.spanEnd) := by
  split
  · rename_i hlow
    have hflat := hcrest.resolve_left (not_le.mpr hlow)
    rw [spanEnds_low (level ▸ hlow), edgeAt_level hflat.symm, edgeAt_level (level.trans hflat.symm)]
  · rename_i hhigh
    have hhigh := not_lt.mp hhigh
    rw [spanEnds_high (level ▸ hhigh), edgeAt_level level.symm]
    rcases hbottom.lt_or_eq with hslope | hflat
    · rw [edgeAt_above hslope hhigh]
    · rw [edgeAt_level hflat.symm]

end Crests

section Main

variable {p q r bottom middle top bottom' middle' top' : Vec3 Rat} (colour : Colour) (c : Canvas Rat)

/-- Three vertices leave the same in all orders if they do in all upward orders. -/
theorem forall_orders_iff_upward :
    (∀ o ∈ orders p q r, (Draw.triangle o.1 o.2.1 o.2.2 colour).left c
        = (Draw.triangle p q r colour).left c)
      ↔ ∀ {bottom middle top bottom' middle' top'},
        Upward p q r bottom middle top → Upward p q r bottom' middle' top' →
          (Draw.triangle bottom middle top colour).left c
            = (Draw.triangle bottom' middle' top' colour).left c := by
  have hsorted {u v w bottom middle top : Vec3 Rat}
      (hsort : sortByHeight u v w = (bottom, middle, top)) :
      (Draw.triangle u v w colour).left c = (Draw.triangle bottom middle top colour).left c := by
    have hup := upward_of_sortByHeight hsort
    rw [Draw.left_triangle hsort,
      Draw.left_triangle (sortByHeight_of_le hup.bottom_le hup.middle_le)]
  constructor
  · intro h bottom middle top bottom' middle' top' hup hup'
    exact (h _ hup.mem).trans (h _ hup'.mem).symm
  · rintro h ⟨u, v, w⟩ ho
    rcases hsort : sortByHeight u v w with ⟨bottom, middle, top⟩
    rcases hsort' : sortByHeight p q r with ⟨bottom', middle', top'⟩
    have hup := upward_of_sortByHeight hsort
    rw [hsorted hsort, hsorted hsort']
    exact h ⟨orders_subset ho hup.mem, hup.bottom_le, hup.middle_le⟩
      (upward_of_sortByHeight hsort')

theorem Upward.crest_iff
    (hup : Upward p q r bottom middle top) :
    Crest p q r middle top
      ↔ middle.y = top.y ∧ (top.y ≤ crestRow top.y ∨ bottom.y = top.y) := by
  constructor
  · rintro ⟨⟨other, hmem, hother, hrow⟩, level⟩
    -- which vertex is the third one is settled up to its height
    have hother : Upward p q r other middle top := ⟨hmem, hother.trans_eq level.symm, level.le⟩
    rw [← (hup.reordered hother).heights.1]
    exact ⟨level, hrow⟩
  · rintro ⟨level, hrow⟩
    exact ⟨⟨bottom, hup.mem, hup.bottom_le.trans hup.middle_le, hrow⟩, level⟩

theorem Upward.span_eq_crestSpan
    (hup : Upward p q r bottom middle top)
    (hcrest : Crest p q r middle top) :
    Draw.span (crestRow top.y) (spanEnds bottom middle top (crestRow top.y)).1
        (spanEnds bottom middle top (crestRow top.y)).2 colour
      = crestSpan middle top colour := by
  obtain ⟨level, hrow⟩ := hup.crest_iff.mp hcrest
  rw [spanEnds_crest (hup.bottom_le.trans hup.middle_le) hrow level]
  rfl

/-- Outside of the rows of a canvas nothing is drawn. -/
theorem left_crestSpan_of_notMem
    (hup : Upward p q r bottom middle top)
    (hrow : crestRow top.y ∉ fillRows c.height bottom top)
    (u : Vec3 Rat)
    {v : Vec3 Rat}
    (hv : v.y = top.y) :
    (crestSpan u v colour).left c = c := by
  have hle : (bottom.y + 1 / 2).floor ≤ crestRow top.y :=
    Rat.floor_monotone (add_le_add_left (hup.bottom_le.trans hup.middle_le) _)
  have houtside : ¬(0 ≤ crestRow top.y ∧ crestRow top.y < c.height) := by
    rintro ⟨hfrom, hto⟩
    refine hrow (mem_columns.mpr ⟨max_le hle hfrom, le_min le_rfl ?_⟩)
    omega
  have hmarks : (DrawCall.span (crestRow top.y) v.spanEnd
      (if crestRow top.y < top.y then u.spanEnd else v.spanEnd) colour).marks c.width c.height
        = [] := by
    cases hcolour : colour.toPixel? with
    | none => simp [DrawCall.marks, DrawCall.colour, hcolour]
    | some pixel =>
        simp [DrawCall.marks, DrawCall.fragments, DrawCall.colour, rowFragments, houtside, hcolour]
  rw [crestSpan, hv, Draw.left_span, hmarks]
  rfl

theorem left_eq_iff_of_upward
    (hup : Upward p q r bottom middle top)
    (hup' : Upward p q r bottom' middle' top') :
    (Draw.triangle bottom middle top colour).left c
        = (Draw.triangle bottom' middle' top' colour).left c
      ↔ (Crest p q r middle top → Crest p q r middle' top' →
        (crestSpan middle top colour).left c = (crestSpan middle' top' colour).left c) := by
  have hreordered := hup.reordered hup'
  obtain ⟨hbottom, hmiddle, htop⟩ := hreordered.heights
  rw [Draw.left_triangle_eq_iff (sortByHeight_of_le hup.bottom_le hup.middle_le)
    (sortByHeight_of_le hup'.bottom_le hup'.middle_le) hbottom htop]
  constructor
  · intro h hcrest hcrest'
    by_cases hrow : crestRow top.y ∈ fillRows c.height bottom top
    · have hspans := h _ hrow
      rw [hup.span_eq_crestSpan colour hcrest, ← htop, hup'.span_eq_crestSpan colour hcrest']
        at hspans
      exact hspans
    · rw [left_crestSpan_of_notMem colour c hup hrow middle rfl,
        left_crestSpan_of_notMem colour c hup hrow middle' htop]
  · intro h y hy
    have hlast (hcrest : Crest p q r middle top) (hcrest' : Crest p q r middle' top')
        (hy : y = crestRow top.y) :
        (Draw.span y (spanEnds bottom middle top y).1 (spanEnds bottom middle top y).2 colour).left c
          = (Draw.span y (spanEnds bottom' middle' top' y).1
            (spanEnds bottom' middle' top' y).2 colour).left c := by
      subst hy
      rw [hup.span_eq_crestSpan colour hcrest, h hcrest hcrest',
        ← hup'.span_eq_crestSpan colour hcrest', htop]
    cases hreordered with
    | same => rfl
    | lower level slope =>
        rw [spanEnds_lower level slope, Prod.fst_swap, Prod.snd_swap, Draw.span_comm]
    | upper slope level =>
        rcases lt_or_ge (y : Rat) top.y with hlow | hhigh
        · rw [spanEnds_upper level hlow, Prod.fst_swap, Prod.snd_swap, Draw.span_comm]
        · have hy := eq_crestRow_of_le hy hhigh
          refine hlast (hup.crest_iff.mpr ⟨level, .inl (hy ▸ hhigh)⟩)
            (hup'.crest_iff.mpr ⟨level.symm, .inl ?_⟩) hy
          rw [level]
          exact hy ▸ hhigh
    | flat level level' =>
        refine hlast (hup.crest_iff.mpr ⟨level.2, .inr level.1⟩) (hup'.crest_iff.mpr ⟨?_, .inr ?_⟩)
          (eq_crestRow_of_flat hy level.1)
        · rw [level'.2.1, level'.2.2]
        · rw [level'.1, level'.2.2]

/-- The ends of a span may be exchanged on every canvas.  The vertices of a triangle may if and only
if the canvas receives the same from the horizontal upper side, whichever two of the highest
vertices come last; without a side of this kind they always may. -/
theorem vertex_order :
    (∀ y a b, Draw.span y a b colour c = Draw.span y b a colour c)
      ∧ ∀ p q r : Vec3 Rat,
        (∀ o ∈ orders p q r, (Draw.triangle o.1 o.2.1 o.2.2 colour).left c
            = (Draw.triangle p q r colour).left c)
          ↔ ∀ u v u' v', Crest p q r u v → Crest p q r u' v' →
            (crestSpan u v colour).left c = (crestSpan u' v' colour).left c := by
  refine ⟨fun y a b => by rw [Draw.span_comm], fun p q r => ?_⟩
  rw [forall_orders_iff_upward]
  constructor
  · rintro h u v u' v' hcrest hcrest'
    obtain ⟨⟨w, hmem, hle, -⟩, level⟩ := id hcrest
    obtain ⟨⟨w', hmem', hle', -⟩, level'⟩ := id hcrest'
    have hup : Upward p q r w u v := ⟨hmem, hle.trans_eq level.symm, level.le⟩
    have hup' : Upward p q r w' u' v' := ⟨hmem', hle'.trans_eq level'.symm, level'.le⟩
    exact (left_eq_iff_of_upward colour c hup hup').mp (h hup hup') hcrest hcrest'
  · intro h bottom middle top bottom' middle' top' hup hup'
    exact (left_eq_iff_of_upward colour c hup hup').mpr (h _ _ _ _)

/-- The upper side of this triangle leaves one of its ends undrawn, in each order another one. -/
theorem vertex_order_flat_top :
    ((Draw.triangle ⟨0, 0, 0⟩ ⟨0, 4, 0⟩ ⟨4, 4, 0⟩ ⟨255, 0, 0⟩).left
        (Canvas.blank 5 5 ⟨0, 0, 0⟩ : Canvas Rat)).pixels
      ≠ ((Draw.triangle ⟨0, 0, 0⟩ ⟨4, 4, 0⟩ ⟨0, 4, 0⟩ ⟨255, 0, 0⟩).left
        (Canvas.blank 5 5 ⟨0, 0, 0⟩ : Canvas Rat)).pixels := by
  decide +kernel

end Main
end Diorama
