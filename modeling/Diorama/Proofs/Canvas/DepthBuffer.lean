import Diorama.Canvas.Line
import Diorama.Canvas.Triangle
import Diorama.Proofs.Canvas.Marks
import Diorama.Proofs.Canvas.Spans

/-!
# The depth buffer

Plotting, drawing lines, drawing spans and filling triangles are calls that put marks on a canvas.
Which marks these are is decided by the arguments of the call and the size of the canvas, not by
what is already drawn.  A picture is thereby decided position by position, by the marks of all
calls that arrive there.

**Main statements.**
* `DrawCall.draw_eq_ok`: a call puts its marks.
* `DrawCall.drawAll_eq_ok`: so do calls one after the other.
* `depth_buffer`: what a cleared canvas shows after drawing.
-/

namespace Diorama

variable {α β : Type} [Scalar α]

/-- A call that draws on a canvas. -/
inductive DrawCall (α : Type)
  | plot (x y : Int) (z : α) (colour : Colour)
  | line (s : Segment α) (colour : Colour)
  | span (y : Int) (a b : SpanEnd α) (colour : Colour)
  | triangle (p q r : Vec3 α) (colour : Colour)

/-- The places of a triangle, row by row. -/
def triangleFragments
    (width height : Nat)
    (p q r : Vec3 α) :
    Except Crash (List (Fragment α)) := do
  let (bottom, middle, top) := sortByHeight p q r
  let rows ← triangleRows height bottom top
  let spans ← rows.mapM fun y =>
    rowFragments width height y (spanEnds bottom middle top y).1 (spanEnds bottom middle top y).2
  return spans.flatten

namespace DrawCall

/-- The colour of a call. -/
def colour : DrawCall α → Colour
  | plot _ _ _ colour | line _ colour | span _ _ _ colour | triangle _ _ _ colour => colour

/-- What a call does. -/
def draw : DrawCall α → Draw α Unit
  | plot x y z colour => Draw.plot x y z colour
  | line s colour => Draw.line s colour
  | span y a b colour => Draw.span y a b colour
  | triangle p q r colour => Draw.triangle p q r colour

/-- Calls one after the other. -/
def drawAll
    (calls : List (DrawCall α)) :
    Draw α Unit :=
  calls.forM draw

/-- The places of a call on a canvas of some size. -/
def fragments
    (width height : Nat) :
    DrawCall α → Except Crash (List (Fragment α))
  | plot x y z _ => .ok [⟨x, y, z⟩]
  | line s _ => lineFragments width height s
  | span y a b _ => rowFragments width height y a b
  | triangle p q r _ => triangleFragments width height p q r

/-- The marks of a call on a canvas of some size; a call that crashes has none. -/
def marks
    (width height : Nat)
    (call : DrawCall α) :
    List (Mark α) :=
  match call.fragments width height, call.colour.toPixel? with
  | .ok fragments, some pixel => fragments.map fun f => ⟨f.x, f.y, f.depth, pixel⟩
  | _, _ => []

end DrawCall

/-- Putting places in one pixel is putting marks. -/
theorem Canvas.putAll_eq_markAll
    (c : Canvas α)
    (fragments : List (Fragment α))
    (pixel : Pixel) :
    c.putAll fragments pixel
      = c.markAll (fragments.map fun f => ⟨f.x, f.y, f.depth, pixel⟩) := by
  unfold putAll markAll
  rw [List.foldl_map]

theorem Canvas.putAll_append
    (c : Canvas α)
    (fragments rest : List (Fragment α))
    (pixel : Pixel) :
    c.putAll (fragments ++ rest) pixel = (c.putAll fragments pixel).putAll rest pixel :=
  List.foldl_append

namespace Draw

variable {colour : Colour} {pixel : Pixel} {c d : Canvas α}

theorem plotAll_eq
    (hcolour : colour.toPixel? = some pixel)
    (fragments : List (Fragment α))
    (c : Canvas α) :
    plotAll fragments colour c = .ok () (c.putAll fragments pixel) := by
  simp only [plotAll, hcolour]

theorem line_eq_ok
    (hcolour : colour.toPixel? = some pixel)
    (s : Segment α) :
    line s colour c = .ok () d
      ↔ ∃ fragments, lineFragments c.width c.height s = .ok fragments
        ∧ d = c.putAll fragments pixel := by
  have hget : line s colour c
      = (lift (lineFragments c.width c.height s) >>= fun fragments =>
          plotAll fragments colour) c := rfl
  rw [hget, lift_bind_eq_ok]
  refine exists_congr fun fragments => and_congr_right fun _ => ?_
  rw [plotAll_eq hcolour]
  constructor
  · intro h
    cases h
    rfl
  · rintro rfl
    rfl

/-- Spans in several rows put their places, row by row. -/
theorem forM_span_eq_ok
    (hcolour : colour.toPixel? = some pixel)
    (ends : Int → SpanEnd α × SpanEnd α)
    (rows : List Int)
    (width height : Nat)
    (hwidth : c.width = width)
    (hheight : c.height = height) :
    (rows.forM fun y => span y (ends y).1 (ends y).2 colour) c = .ok () d
      ↔ ∃ spans, rows.mapM (fun y => rowFragments width height y (ends y).1 (ends y).2) = .ok spans
        ∧ d = c.putAll spans.flatten pixel := by
  induction rows generalizing c with
  | nil =>
      constructor
      · intro h
        cases h
        exact ⟨[], rfl, rfl⟩
      · rintro ⟨spans, hspans, rfl⟩
        cases hspans
        rfl
  | cons y rest ih =>
      have hgrid : ∀ fragments, (c.putAll fragments pixel).width = width
          ∧ (c.putAll fragments pixel).height = height := by
        intro fragments
        have hsame := Canvas.sameGrid_markAll c
          (fragments.map fun f => ⟨f.x, f.y, f.depth, pixel⟩)
        rw [← Canvas.putAll_eq_markAll] at hsame
        exact ⟨hsame.width.trans hwidth, hsame.height.trans hheight⟩
      have hcons : ((y :: rest).forM fun y => span y (ends y).1 (ends y).2 colour) c
          = (span y (ends y).1 (ends y).2 colour >>= fun _ =>
              rest.forM fun y => span y (ends y).1 (ends y).2 colour) c := rfl
      rw [hcons, bind_eq_ok]
      constructor
      · rintro ⟨_, e, hfirst, hrest⟩
        obtain ⟨fragments, hfragments, rfl⟩ := (span_eq_ok hcolour).mp hfirst
        rw [hwidth, hheight] at hfragments
        obtain ⟨hw, hh⟩ := hgrid fragments
        obtain ⟨spans, hspans, rfl⟩ := (ih hw hh).mp hrest
        refine ⟨fragments :: spans, ?_, ?_⟩
        · exact Crash.mapM_cons_eq_ok.mpr ⟨fragments, spans, hfragments, hspans, rfl⟩
        · rw [List.flatten_cons, Canvas.putAll_append]
      · rintro ⟨results, hresults, rfl⟩
        obtain ⟨fragments, spans, hfragments, hspans, rfl⟩ := Crash.mapM_cons_eq_ok.mp hresults
        obtain ⟨hw, hh⟩ := hgrid fragments
        refine ⟨(), c.putAll fragments pixel, ?_, ?_⟩
        · refine (span_eq_ok hcolour).mpr ⟨fragments, ?_, rfl⟩
          rw [hwidth, hheight]
          exact hfragments
        · refine (ih hw hh).mpr ⟨spans, hspans, ?_⟩
          rw [List.flatten_cons, Canvas.putAll_append]

theorem triangle_eq_ok
    (hcolour : colour.toPixel? = some pixel)
    (p q r : Vec3 α) :
    triangle p q r colour c = .ok () d
      ↔ ∃ fragments, triangleFragments c.width c.height p q r = .ok fragments
        ∧ d = c.putAll fragments pixel := by
  rcases hsorted : sortByHeight p q r with ⟨bottom, middle, top⟩
  have hget : triangle p q r colour c
      = (lift (triangleRows c.height bottom top) >>= fun rows =>
          rows.forM fun y => span y (spanEnds bottom middle top y).1
            (spanEnds bottom middle top y).2 colour) c := by
    unfold triangle
    rw [hsorted]
    rfl
  have hplaces : triangleFragments c.width c.height p q r
      = (triangleRows c.height bottom top >>= fun rows =>
          (rows.mapM fun y => rowFragments c.width c.height y (spanEnds bottom middle top y).1
            (spanEnds bottom middle top y).2) >>= fun spans => pure spans.flatten) := by
    unfold triangleFragments
    rw [hsorted]
  rw [hget, hplaces, lift_bind_eq_ok]
  constructor
  · rintro ⟨rows, hrows, h⟩
    obtain ⟨spans, hspans, rfl⟩ := (forM_span_eq_ok hcolour _ rows _ _ rfl rfl).mp h
    refine ⟨spans.flatten, bind_eq_ok_iff.mpr ⟨rows, hrows, ?_⟩, rfl⟩
    exact bind_eq_ok_iff.mpr ⟨spans, hspans, rfl⟩
  · rintro ⟨fragments, hfragments, rfl⟩
    obtain ⟨rows, hrows, hspans⟩ := bind_eq_ok_iff.mp hfragments
    obtain ⟨spans, hmap, hflatten⟩ := bind_eq_ok_iff.mp hspans
    cases hflatten
    exact ⟨rows, hrows, (forM_span_eq_ok hcolour _ rows _ _ rfl rfl).mpr ⟨spans, hmap, rfl⟩⟩

end Draw

namespace DrawCall

variable {c d : Canvas α} {calls : List (DrawCall α)}

/-- A call that crashes on no canvas of some size. -/
def Runs
    (width height : Nat)
    (call : DrawCall α) :
    Prop :=
  ∃ fragments, call.fragments width height = .ok fragments

/-- A call whose colour can be stored puts its marks, unless it crashes. -/
theorem draw_eq_ok
    {call : DrawCall α}
    {pixel : Pixel}
    (hcolour : call.colour.toPixel? = some pixel) :
    call.draw c = .ok () d
      ↔ call.Runs c.width c.height ∧ d = c.markAll (call.marks c.width c.height) := by
  have hput : call.draw c = .ok () d
      ↔ ∃ fragments, call.fragments c.width c.height = .ok fragments
        ∧ d = c.putAll fragments pixel := by
    cases call with
    | plot x y z colour =>
        have hplot := Draw.plot_eq hcolour x y z c
        constructor
        · intro h
          cases hplot.symm.trans h
          exact ⟨_, rfl, rfl⟩
        · rintro ⟨fragments, hfragments, rfl⟩
          cases hfragments
          exact hplot
    | line s colour => exact Draw.line_eq_ok hcolour s
    | span y a b colour => exact Draw.span_eq_ok hcolour
    | triangle p q r colour => exact Draw.triangle_eq_ok hcolour p q r
  rw [hput]
  constructor
  · rintro ⟨fragments, hfragments, rfl⟩
    refine ⟨⟨fragments, hfragments⟩, ?_⟩
    rw [Canvas.putAll_eq_markAll]
    simp only [marks, hfragments, hcolour]
  · rintro ⟨⟨fragments, hfragments⟩, rfl⟩
    refine ⟨fragments, hfragments, ?_⟩
    rw [Canvas.putAll_eq_markAll]
    simp only [marks, hfragments, hcolour]

/-- Calls put their marks one after the other, unless one of them crashes. -/
theorem drawAll_eq_ok
    (width height : Nat)
    (hwidth : c.width = width)
    (hheight : c.height = height)
    (hcolours : ∀ call ∈ calls, ∃ pixel, call.colour.toPixel? = some pixel) :
    drawAll calls c = .ok () d
      ↔ (∀ call ∈ calls, call.Runs width height)
        ∧ d = c.markAll (calls.flatMap (marks width height)) := by
  induction calls generalizing c with
  | nil =>
      constructor
      · intro h
        cases h
        exact ⟨by simp, rfl⟩
      · rintro ⟨_, rfl⟩
        rfl
  | cons call rest ih =>
      obtain ⟨pixel, hpixel⟩ := hcolours call List.mem_cons_self
      have hothers : ∀ other ∈ rest, ∃ pixel, other.colour.toPixel? = some pixel :=
        fun other hother => hcolours other (List.mem_cons_of_mem _ hother)
      have hgrid := Canvas.sameGrid_markAll c (call.marks width height)
      have hrest := ih (hgrid.width.trans hwidth) (hgrid.height.trans hheight) hothers
      have hcons : drawAll (call :: rest) c = (call.draw >>= fun _ => drawAll rest) c := rfl
      rw [hcons, Draw.bind_eq_ok, List.flatMap_cons, Canvas.markAll_append]
      constructor
      · rintro ⟨_, e, hfirst, hlater⟩
        obtain ⟨hruns, rfl⟩ := (draw_eq_ok hpixel).mp hfirst
        rw [hwidth, hheight] at hruns hlater
        obtain ⟨hall, hd⟩ := hrest.mp hlater
        refine ⟨?_, hd⟩
        intro other hother
        rcases List.mem_cons.mp hother with rfl | hlate
        · exact hruns
        · exact hall other hlate
      · rintro ⟨hall, hd⟩
        refine ⟨(), c.markAll (call.marks width height), ?_, hrest.mpr ⟨?_, hd⟩⟩
        · rw [draw_eq_ok hpixel, hwidth, hheight]
          exact ⟨hall call List.mem_cons_self, rfl⟩
        · intro other hother
          exact hall other (List.mem_cons_of_mem _ hother)

/-- The marks of calls that arrive at a position. -/
def marksAt
    (width height : Nat)
    (calls : List (DrawCall α))
    (x y : Int) :
    List (Mark α) :=
  (calls.flatMap (marks width height)).filter fun m => m.isAt x y

end DrawCall

namespace Canvas

section Cleared

variable {c : Canvas β} {x y : Int}

theorem sameGrid_clear
    (c : Canvas β) :
    c.SameGrid c.clear :=
  ⟨rfl, rfl, rfl⟩

/-- A cleared canvas shows its background everywhere. -/
theorem cell?_clear
    (h : c.Covers x y) :
    c.clear.cell? x y = some ⟨c.background, none⟩ := by
  have hindex : c.clear.index? x y
      = some ((c.height - 1 - y.toNat) * c.width + x.toNat) := index?_eq_some h
  have hbound := index?_lt hindex
  rw [cell?, hindex, Option.bind_some, Array.getElem?_eq_getElem hbound]
  simp [clear, blank]

end Cleared

/-- What the positions of a cleared canvas show after marks are put on it. -/
theorem cell?_markAll_clear
    {c : Canvas α}
    {x y : Int}
    (h : c.Covers x y)
    (marks : List (Mark α)) :
    (c.clear.markAll marks).cell? x y
      = some ((⟨c.background, none⟩ : Cell α).receiveAll (marks.filter fun m => m.isAt x y)) := by
  rw [cell?_markAll, cell?_clear h, Option.map_some]

/--
What a canvas of the size of `c` shows when calls have drawn on it from a cleared start, and what
these calls do on any canvas of that size.
-/
structure DepthBuffered
    (c : Canvas α)
    (calls : List (DrawCall α))
    (d : Canvas α) : Prop where
  grid : c.SameGrid d
  marked :
    ∀ call ∈ calls, ∀ e, c.SameGrid e →
      call.draw e = .ok () (e.markAll (call.marks c.width c.height))
  plotted :
    ∀ y a b colour, .span y a b colour ∈ calls → ∀ e, c.SameGrid e →
      ∃ e', Draw.span y a b colour e = .ok () e' ∧ Draw.plotColumns y a b colour e = .ok () e'
  decided :
    ∀ x y, c.Covers x y → ∃ cell, d.cell? x y = some cell
      ∧ cell.Decided c.background (DrawCall.marksAt c.width c.height calls x y)
  background :
    ∀ x y cell, d.cell? x y = some cell → cell.depth = none → cell.pixel = c.background
  nearer :
    ∀ earlier later, calls = earlier ++ later →
      ∃ e, DrawCall.drawAll earlier c.clear = .ok () e ∧ ∀ x y cell next,
        e.cell? x y = some cell → d.cell? x y = some next → cell.NoDeeper next
  reordered :
    ∀ others, calls.Perm others →
      (∀ x y, c.Covers x y → (DrawCall.marksAt c.width c.height calls x y).Pairwise
        fun m n => Scalar.same m.depth n.depth = false) →
      DrawCall.drawAll others c.clear = .ok () d

end Canvas

namespace DrawCall

variable {c d : Canvas α} {calls others : List (DrawCall α)}

theorem drawAll_clear_eq_ok
    (hcolours : ∀ call ∈ calls, ∃ pixel, call.colour.toPixel? = some pixel) :
    drawAll calls c.clear = .ok () d
      ↔ (∀ call ∈ calls, call.Runs c.width c.height)
        ∧ d = c.clear.markAll (calls.flatMap (marks c.width c.height)) :=
  drawAll_eq_ok c.width c.height rfl rfl hcolours

theorem marksAt_perm
    (hperm : calls.Perm others)
    (width height : Nat)
    (x y : Int) :
    (marksAt width height calls x y).Perm (marksAt width height others x y) :=
  (hperm.flatMap_right (marks width height)).filter _

variable [Scalar.LawfulOrder α]

/-- The first of some calls leave nothing that is closer than what all of them leave. -/
theorem drawAll_clear_append
    {earlier later : List (DrawCall α)}
    (hcolours : ∀ call ∈ earlier ++ later, ∃ pixel, call.colour.toPixel? = some pixel)
    (hdraw : drawAll (earlier ++ later) c.clear = .ok () d) :
    ∃ e, drawAll earlier c.clear = .ok () e ∧ ∀ x y cell next,
      e.cell? x y = some cell → d.cell? x y = some next → cell.NoDeeper next := by
  obtain ⟨hruns, rfl⟩ := (drawAll_clear_eq_ok hcolours).mp hdraw
  have hearlier : ∀ call ∈ earlier, call ∈ earlier ++ later :=
    fun call hcall => List.mem_append_left later hcall
  have hfirst : drawAll earlier c.clear
      = .ok () (c.clear.markAll (earlier.flatMap (marks c.width c.height))) :=
    (drawAll_clear_eq_ok fun call hcall => hcolours call (hearlier call hcall)).mpr
      ⟨fun call hcall => hruns call (hearlier call hcall), rfl⟩
  refine ⟨_, hfirst, ?_⟩
  intro x y cell next hcell hnext
  rw [List.flatMap_append, Canvas.markAll_append, Canvas.cell?_markAll, hcell] at hnext
  cases hnext
  exact Cell.noDeeper_receiveAll cell _

/-- Where no position receives equal depths, the order of the calls does not matter. -/
theorem drawAll_clear_perm
    (hcolours : ∀ call ∈ calls, ∃ pixel, call.colour.toPixel? = some pixel)
    (hdraw : drawAll calls c.clear = .ok () d)
    (hperm : calls.Perm others)
    (hdistinct : ∀ x y, c.Covers x y → (marksAt c.width c.height calls x y).Pairwise
      fun m n => Scalar.same m.depth n.depth = false) :
    drawAll others c.clear = .ok () d := by
  obtain ⟨hruns, rfl⟩ := (drawAll_clear_eq_ok hcolours).mp hdraw
  have hothers : ∀ call ∈ others, call ∈ calls :=
    fun call hcall => hperm.mem_iff.mpr hcall
  refine (drawAll_clear_eq_ok fun call hcall => hcolours call (hothers call hcall)).mpr
    ⟨fun call hcall => hruns call (hothers call hcall), ?_⟩
  have hgrid := c.sameGrid_clear.trans
    (c.clear.sameGrid_markAll (calls.flatMap (marks c.width c.height)))
  have hgrid' := c.sameGrid_clear.trans
    (c.clear.sameGrid_markAll (others.flatMap (marks c.width c.height)))
  refine Canvas.ext_cell? (hgrid.symm.trans hgrid') ?_
  intro x y
  by_cases hcovers : c.Covers x y
  · have hmarks := marksAt_perm hperm c.width c.height x y
    rw [Canvas.cell?_markAll_clear hcovers, Canvas.cell?_markAll_clear hcovers]
    exact congrArg some (Cell.eq_of_decided_perm hmarks (hdistinct x y hcovers)
      (Cell.decided_receiveAll c.background _) (Cell.decided_receiveAll c.background _))
  · have hhidden : ¬(c.clear.markAll (calls.flatMap (marks c.width c.height))).Covers x y :=
      mt hgrid.covers_iff.mp hcovers
    have hhidden' : ¬(c.clear.markAll (others.flatMap (marks c.width c.height))).Covers x y :=
      mt hgrid'.covers_iff.mp hcovers
    rw [Canvas.cell?_eq_none hhidden, Canvas.cell?_eq_none hhidden']

end DrawCall

/-- Where drawing without a crash leads from a cleared canvas. -/
theorem depth_buffer
    (c d : Canvas Float)
    (calls : List (DrawCall Float))
    (hcolours : ∀ call ∈ calls, ∃ pixel, call.colour.toPixel? = some pixel)
    (hdraw : DrawCall.drawAll calls c.clear = .ok () d) :
    c.DepthBuffered calls d := by
  obtain ⟨hruns, hd⟩ := (DrawCall.drawAll_clear_eq_ok hcolours).mp hdraw
  have hgrid : c.SameGrid d := by
    rw [hd]
    exact c.sameGrid_clear.trans (c.clear.sameGrid_markAll _)
  have hmarked : ∀ call ∈ calls, ∀ e, c.SameGrid e →
      call.draw e = .ok () (e.markAll (call.marks c.width c.height)) := by
    intro call hcall e he
    obtain ⟨pixel, hpixel⟩ := hcolours call hcall
    rw [DrawCall.draw_eq_ok hpixel, he.width, he.height]
    exact ⟨hruns call hcall, rfl⟩
  have hdecided : ∀ x y, c.Covers x y → ∃ cell, d.cell? x y = some cell
      ∧ cell.Decided c.background (DrawCall.marksAt c.width c.height calls x y) := by
    intro x y hcovers
    rw [hd, Canvas.cell?_markAll_clear hcovers]
    exact ⟨_, rfl, Cell.decided_receiveAll c.background _⟩
  refine ⟨hgrid, hmarked, ?plotted, hdecided, ?background, ?nearer, ?reordered⟩
  case plotted =>
    intro y a b colour hcall e he
    obtain ⟨pixel, hpixel⟩ := hcolours _ hcall
    have hspan := hmarked _ hcall e he
    exact ⟨_, hspan, Draw.plotColumns_of_span hpixel hspan⟩
  case background =>
    intro x y cell hfound hnone
    have hcovers := hgrid.covers_iff.mp (Canvas.covers_of_cell? hfound)
    obtain ⟨shown, hshown, hwinner⟩ := hdecided x y hcovers
    rw [hfound] at hshown
    cases hshown
    exact hwinner.pixel_eq_background hnone
  case nearer =>
    rintro earlier later rfl
    exact DrawCall.drawAll_clear_append hcolours hdraw
  case reordered =>
    intro others hperm hdistinct
    exact DrawCall.drawAll_clear_perm hcolours hdraw hperm hdistinct

/-- Plots that are no number or equally close, a span, a line and a triangle over one another. -/
def overlapping : List (DrawCall Float) :=
  [.plot 0 0 (0 / 0) ⟨255, 0, 0⟩, .plot 1 0 0.5 ⟨0, 255, 0⟩, .plot 1 0 0.5 ⟨0, 0, 255⟩,
    .span 0 ⟨0, 0⟩ ⟨2, 1⟩ ⟨9, 9, 9⟩, .line ⟨⟨0, 0, -1⟩, ⟨2, 1, 1⟩⟩ ⟨7, 7, 7⟩,
    .triangle ⟨0, 0, -2⟩ ⟨2, 0, -2⟩ ⟨0, 1, -2⟩ ⟨5, 5, 5⟩]

theorem depth_buffer_overlapping :
    ∃ d, DrawCall.drawAll overlapping (Canvas.blank 3 2 ⟨0, 0, 0⟩).clear = .ok () d
      ∧ (Canvas.blank 3 2 ⟨0, 0, 0⟩).DepthBuffered overlapping d
      ∧ d.pixels = [⟨5, 5, 5⟩, ⟨7, 7, 7⟩, ⟨7, 7, 7⟩, ⟨9, 9, 9⟩, ⟨0, 255, 0⟩, ⟨9, 9, 9⟩] := by
  have hcolours : ∀ call ∈ overlapping, ∃ pixel, call.colour.toPixel? = some pixel := by
    intro call hcall
    apply Option.isSome_iff_exists.mp
    revert call
    decide +kernel
  have hpixels : (match DrawCall.drawAll overlapping (Canvas.blank 3 2 ⟨0, 0, 0⟩).clear with
      | .ok _ d => some d.pixels
      | .error _ _ => none)
      = some [⟨5, 5, 5⟩, ⟨7, 7, 7⟩, ⟨7, 7, 7⟩, ⟨9, 9, 9⟩, ⟨0, 255, 0⟩, ⟨9, 9, 9⟩] := by
    decide +kernel
  split at hpixels
  · rename_i d hdraw
    exact ⟨d, hdraw, depth_buffer _ d overlapping hcolours hdraw, Option.some.inj hpixels⟩
  · cases hpixels

end Diorama
