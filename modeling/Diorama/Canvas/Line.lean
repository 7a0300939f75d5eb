import Diorama.Canvas.Clip
import Diorama.Geometry.PointBuffer
import Diorama.Notice

/-!
# Lines

A line is clipped, its ends are rounded to pixels, and the pixels between them are visited one
step along the longer axis at a time.  The depth grows by the same amount with every step.
-/

namespace Diorama

/-- The way between two pixels: extents, directions, and the end. -/
structure LineWalk where
  endX : Int
  endY : Int
  width : Int
  height : Int
  stepX : Int
  stepY : Int

/-- A place on the way: the pixel, the balance of steps, and the depth. -/
structure LinePlace (α : Type) where
  x : Int
  y : Int
  balance : Int
  depth : α

namespace LineWalk

variable {α : Type}

/-- The way between two pixels. -/
def between
    (xa ya xb yb : Int) :
    LineWalk where
  endX := xb
  endY := yb
  width := (xb - xa).natAbs
  height := (yb - ya).natAbs
  stepX := if xa < xb then 1 else -1
  stepY := if ya < yb then 1 else -1

/-- The number of steps along the longer axis. -/
def steps
    (w : LineWalk) :
    Int :=
  max w.width w.height

/-- Whether a place is the end of the way. -/
def atEnd
    (w : LineWalk)
    (p : LinePlace α) :
    Bool :=
  p.x == w.endX && p.y == w.endY

/-- The next place: a step along x, along y, or along both. -/
@[specialize]
def next
    [Scalar α]
    (w : LineWalk)
    (rise : α)
    (p : LinePlace α) :
    LinePlace α :=
  let twice := 2 * p.balance
  let alongX := decide (-w.height ≤ twice)
  let alongY := decide (twice ≤ w.width)
  { x := if alongX then p.x + w.stepX else p.x
    y := if alongY then p.y + w.stepY else p.y
    balance := p.balance - (if alongX then w.height else 0) + (if alongY then w.width else 0)
    depth := p.depth + rise }

/-- The places from one to the end, at most `fuel` steps on; `done` holds those before, last first. -/
@[specialize]
def trace
    [Scalar α]
    (w : LineWalk)
    (rise : α) :
    Nat → List (LinePlace α) → LinePlace α → List (LinePlace α)
  | 0, done, p => (p :: done).reverse
  | fuel + 1, done, p =>
      if w.atEnd p then (p :: done).reverse else trace w rise fuel (p :: done) (w.next rise p)

/-- All places of the way; a step never leads away from the end, which bounds their number. -/
@[specialize]
def places
    [Scalar α]
    (w : LineWalk)
    (rise : α)
    (xa ya : Int)
    (depth : α) :
    List (LinePlace α) :=
  w.trace rise (w.width.toNat + w.height.toNat) [] ⟨xa, ya, w.width - w.height, depth⟩

end LineWalk

variable {α : Type} [Scalar α]

/-- The places of a line between the rounded ends of a clipped segment. -/
@[specialize]
def Segment.fragments
    (s : Segment α) :
    Except Crash (List (Fragment α)) := do
  let xa ← Crash.whole (Scalar.nearest s.start.x)
  let ya ← Crash.whole (Scalar.nearest s.start.y)
  let xb ← Crash.whole (Scalar.nearest s.stop.x)
  let yb ← Crash.whole (Scalar.nearest s.stop.y)
  let w := LineWalk.between xa ya xb yb
  let rise ←
    if w.steps = 0 then .ok Scalar.zero
    else
      match Scalar.divisor? w.steps with
      | some steps => .ok ((s.stop.z - s.start.z) / steps)
      | none => .error .columnOutOfRange
  return (w.places rise xa ya s.start.z).map fun p => ⟨p.x, p.y, p.depth⟩

/-- The places that a line reaches on a canvas of some size. -/
@[specialize]
def lineFragments
    (width height : Nat)
    (s : Segment α) :
    Except Crash (List (Fragment α)) :=
  match s.clip width height with
  | none => .ok []
  | some clipped => clipped.fragments

namespace Draw

/-- Draw a line. -/
@[specialize]
def line
    (s : Segment α)
    (colour : Colour) :
    Draw α Unit := do
  let c ← get
  let (width, height) := (c.width, c.height)
  let fragments ← lift (lineFragments width height s)
  plotAll fragments colour

/-- Draw the edges of a buffer; one that is not finite is passed over with a notice. -/
def lines
    (edges : EdgeBuffer α)
    (colour : Colour) :
    Draw α (List Notice) :=
  edges.edges.foldlM
    (fun notices (p, q) =>
      if p.xyz.isFinite && q.xyz.isFinite then do
        line ⟨p.xyz, q.xyz⟩ colour
        return notices
      else return notices ++ [.lineSkipped])
    []

end Draw
end Diorama
