import Diorama.Canvas.Basic

/-!
# Spans

A span is a run of pixels within one row.  Its depth goes linearly from one rounded end to the
other; a span of one column has the greater depth of its ends.  A span is drawn as a whole: the
columns where it is closer than what the canvas shows are picked out first, and then overwritten.
-/

namespace Diorama

/-- One end of a span. -/
structure SpanEnd (α : Type) where
  x : α
  depth : α

variable {α : Type} [Scalar α]

/-- The depth in a column of a span whose rounded ends are `first` and `last`. -/
@[specialize]
def spanDepth
    (a b : SpanEnd α)
    (first last column : Int) :
    Except Crash α :=
  if first < last then
    match Scalar.columnOffset? first column, Scalar.divisor? (last - first) with
    | some offset, some width => .ok (a.depth + (b.depth - a.depth) * offset / width)
    | _, _ => .error .columnOutOfRange
  else .ok (Scalar.larger a.depth b.depth)

/-- The columns from `low` to `high`. -/
def columns
    (low high : Int) :
    List Int :=
  (List.range (high + 1 - low).toNat).map fun i => low + (i : Nat)

/-- The places that a span reaches in row `y` of a canvas of some width. -/
@[specialize]
def spanFragments
    (width : Nat)
    (y : Int)
    (a b : SpanEnd α) :
    Except Crash (List (Fragment α)) := do
  let (a, b) := if Scalar.less b.x a.x then (b, a) else (a, b)
  let first ← Crash.whole (Scalar.nearest a.x)
  let last ← Crash.whole (Scalar.nearest b.x)
  (columns (max first 0) (min last (width - 1))).mapM fun x => do
    return ⟨x, y, ← spanDepth a b first last x⟩

namespace Canvas

/-- Whether a place is closer than what the canvas shows there. -/
@[specialize]
def sees
    (c : Canvas α)
    (f : Fragment α) :
    Bool :=
  match c.cell? f.x f.y with
  | none => false
  | some cell => cell.shows f.depth

/-- Show a pixel at a place, whatever is there. -/
def store
    (c : Canvas α)
    (f : Fragment α)
    (pixel : Pixel) :
    Canvas α :=
  match c.index? f.x f.y with
  | none => c
  | some i => c.setCell i ⟨pixel, some f.depth⟩

/-- Show one colour at those places of a list that are closer than what the canvas shows. -/
@[specialize]
def overlay
    (c : Canvas α)
    (fragments : List (Fragment α))
    (pixel : Pixel) :
    Canvas α :=
  let visible := fragments.filter c.sees
  visible.foldl (fun c f => c.store f pixel) c

end Canvas

namespace Draw

/-- Draw a span; its colour has to be storable as soon as a column of it lies on the canvas. -/
@[specialize]
def span
    (y : Int)
    (a b : SpanEnd α)
    (colour : Colour) :
    Draw α Unit := do
  let c ← get
  let (width, height) := (c.width, c.height)
  if 0 ≤ y ∧ y < height then
    let fragments ← lift (spanFragments width y a b)
    if fragments.isEmpty then return
    match colour.toPixel? with
    | some pixel => modify fun c => c.overlay fragments pixel
    | none => throw .channelOutOfRange

end Draw
end Diorama
