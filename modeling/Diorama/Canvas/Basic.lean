import Diorama.Shading.Phong

/-!
# Canvases

A canvas is a grid of pixels that remember how far away they are.  Its origin is the bottom-left
pixel, larger depths are closer to the viewer, and a pixel is drawn over by whatever is strictly
closer.  Drawing outside the canvas has no effect.
-/

namespace Diorama

/-- A stored colour. -/
structure Pixel where
  red : UInt8
  green : UInt8
  blue : UInt8
  deriving DecidableEq

namespace Colour

/-- Whether a channel fits into a byte. -/
def fitsByte
    (channel : Int) :
    Bool :=
  decide (0 ≤ channel) && decide (channel < 256)

/-- The byte of a channel that fits. -/
def byte
    (channel : Int) :
    UInt8 :=
  UInt8.ofNat channel.toNat

/-- The stored form of a colour all of whose channels fit. -/
def toPixel?
    (c : Colour) :
    Option Pixel :=
  if fitsByte c.red && fitsByte c.green && fitsByte c.blue then
    some ⟨byte c.red, byte c.green, byte c.blue⟩
  else none

/-- A stored colour after the channels in front of the first one that does not fit are replaced. -/
def overwrite
    (c : Colour)
    (old : Pixel) :
    Pixel :=
  if fitsByte c.red then
    if fitsByte c.green then
      if fitsByte c.blue then ⟨byte c.red, byte c.green, byte c.blue⟩
      else ⟨byte c.red, byte c.green, old.blue⟩
    else ⟨byte c.red, old.green, old.blue⟩
  else old

end Colour

/-- A pixel of a canvas; without a depth it is farther away than everything. -/
structure Cell (α : Type) where
  pixel : Pixel
  depth : Option α

/-- Whether something at depth `z` is closer than what a cell shows. -/
@[specialize]
def Cell.shows
    {α : Type}
    [Scalar α]
    (cell : Cell α)
    (z : α) :
    Bool :=
  match cell.depth with
  | none => Scalar.isAboveBottom z
  | some depth => Scalar.less depth z

/-- A grid of cells, by rows from the top. -/
structure Canvas (α : Type) where
  width : Nat
  height : Nat
  background : Pixel
  cells : Array (Cell α)
  cells_size : cells.size = width * height

/-- Why there is no canvas of some size and background. -/
inductive CanvasError
  | notPositive
  | tooLarge
  | badBackground
  deriving DecidableEq

/-- The largest width and height of a canvas. -/
def maxDimension : Nat := 8192

/-- What a refused canvas is reported as, where the report is the library's own. -/
def CanvasError.message? : CanvasError → Option String
  | notPositive => some "width and height must be > 0"
  | tooLarge => some ("width/height must be <= " ++ Number.intText maxDimension)
  | badBackground => none

/-- A place that a drawing reaches, and its depth there. -/
structure Fragment (α : Type) where
  x : Int
  y : Int
  depth : α

/-- A position counted from the end when it is negative. -/
def wrapIndex
    (length : Nat)
    (i : Int) :
    Option Nat :=
  if 0 ≤ i ∧ i < length then some i.toNat
  else if -(length : Int) ≤ i ∧ i < 0 then some (i + length).toNat
  else none

namespace Canvas

variable {α : Type}

/-- A canvas that shows its background everywhere. -/
def blank
    (width height : Nat)
    (background : Pixel) :
    Canvas α :=
  ⟨width, height, background, Array.replicate (width * height) ⟨background, none⟩, by simp⟩

/-- The canvas of a size and background given as whole numbers. -/
def new?
    (width height : Int)
    (background : Colour) :
    Except CanvasError (Canvas α) :=
  if width ≤ 0 ∨ height ≤ 0 then .error .notPositive
  else if (maxDimension : Int) < width ∨ (maxDimension : Int) < height then .error .tooLarge
  else
    match background.toPixel? with
    | some pixel => .ok (blank width.toNat height.toNat pixel)
    | none => .error .badBackground

/-- The background everywhere again. -/
def clear
    (c : Canvas α) :
    Canvas α :=
  blank c.width c.height c.background

/-- The position of a pixel among the cells. -/
def index?
    (c : Canvas α)
    (x y : Int) :
    Option Nat :=
  if 0 ≤ x ∧ x < c.width ∧ 0 ≤ y ∧ y < c.height then
    some ((c.height - 1 - y.toNat) * c.width + x.toNat)
  else none

/-- The cell at a position of the canvas. -/
def cell?
    (c : Canvas α)
    (x y : Int) :
    Option (Cell α) :=
  (c.index? x y).bind fun i => c.cells[i]?

/-- Replace the cell at an index. -/
def setCell
    (c : Canvas α)
    (i : Nat)
    (cell : Cell α) :
    Canvas α :=
  { c with
    cells := c.cells.setIfInBounds i cell
    cells_size := by rw [Array.size_setIfInBounds]; exact c.cells_size }

/-- Show a pixel at a depth, unless something is there that is as close. -/
@[specialize]
def put
    [Scalar α]
    (c : Canvas α)
    (x y : Int)
    (z : α)
    (pixel : Pixel) :
    Canvas α :=
  match c.index? x y with
  | none => c
  | some i =>
      match c.cells[i]? with
      | none => c
      | some cell => if cell.shows z then c.setCell i ⟨pixel, some z⟩ else c

/-- Show one colour at every place of a list. -/
@[specialize]
def putAll
    [Scalar α]
    (c : Canvas α)
    (fragments : List (Fragment α))
    (pixel : Pixel) :
    Canvas α :=
  fragments.foldl (fun c f => c.put f.x f.y f.depth pixel) c

/-- The colour of a pixel; positions beyond the top or left edge count from the other end. -/
def pixel?
    (c : Canvas α)
    (x y : Int) :
    Option Pixel := do
  let row ← wrapIndex c.height (c.height - 1 - y)
  let column ← wrapIndex c.width x
  (c.cells[row * c.width + column]?).map Cell.pixel

/-- The depths of a row of pixels; rows beyond the top edge count from the other end. -/
def depths?
    (c : Canvas α)
    (y : Int) :
    Option (List (Option α)) := do
  let row ← wrapIndex c.height (c.height - 1 - y)
  return ((c.cells.extract (row * c.width) (row * c.width + c.width)).map Cell.depth).toList

/-- The pixels by rows from the top. -/
def pixels
    (c : Canvas α) :
    List Pixel :=
  c.cells.toList.map Cell.pixel

/-- A one-line description. -/
def display
    (c : Canvas α) :
    String :=
  "Canvas(" ++ Number.intText c.width ++ "x" ++ Number.intText c.height ++ ")"

end Canvas

/-- A step of drawing: it changes the canvas, and a crash keeps what was drawn before it. -/
abbrev Draw (α β : Type) := EStateM Crash (Canvas α) β

namespace Draw

variable {α : Type}

/-- Show a colour at a depth, unless something is there that is as close. -/
@[specialize]
def plot
    [Scalar α]
    (x y : Int)
    (z : α)
    (colour : Colour) :
    Draw α Unit := fun c =>
  match colour.toPixel? with
  | some pixel => .ok () (c.put x y z pixel)
  | none =>
      match c.index? x y with
      | none => .ok () c
      | some i =>
          match c.cells[i]? with
          | none => .ok () c
          | some cell =>
              if cell.shows z then
                .error .channelOutOfRange
                  (c.setCell i ⟨colour.overwrite cell.pixel, cell.depth⟩)
              else .ok () c

/-- Plot every place of a list, in order. -/
@[specialize]
def plotAll
    [Scalar α]
    (fragments : List (Fragment α))
    (colour : Colour) :
    Draw α Unit := fun c =>
  match colour.toPixel? with
  | some pixel => .ok () (c.putAll fragments pixel)
  | none => (fragments.forM fun f => plot f.x f.y f.depth colour) c

/-- Pass on a crash of a computation that does not draw. -/
def lift
    {β : Type} :
    Except Crash β → Draw α β
  | .ok b => pure b
  | .error e => throw e

end Draw
end Diorama
