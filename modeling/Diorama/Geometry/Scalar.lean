import Diorama.Number.Exact

/-!
# Numbers that geometry is computed with

Points, transforms and pixels are computed over any type of numbers with the four operations, a
comparison and conversions from and to whole numbers.  Programs run over doubles; over the
rational numbers the same definitions compute without rounding.
-/

namespace Diorama

open Number

/-- Numbers that geometry can be computed with. -/
class Scalar (α : Type) extends Add α, Sub α, Mul α, Div α, Neg α where
  /-- A whole number. -/
  ofInt : Int → α
  /-- One half. -/
  half : α
  /-- Whether the first number is smaller. -/
  less : α → α → Bool
  /-- Whether two numbers are equal in value. -/
  same : α → α → Bool
  /-- Whether a number is neither infinite nor undefined. -/
  isFinite : α → Bool
  /-- Whether a number is greater than minus infinity. -/
  isAboveBottom : α → Bool
  /-- The largest whole number that is not larger. -/
  floor : α → Except Unroundable Int
  /-- The nearest whole number, a half going to the even neighbour. -/
  nearest : α → Except Unroundable Int
  /-- The distance between two columns as a number, if it is representable. -/
  columnOffset? : (first column : Int) → Option α
  /-- A whole number as a divisor, if it is representable. -/
  divisor? : Int → Option α

namespace Scalar

variable {α : Type} [Scalar α]

/-- Zero. -/
def zero : α :=
  ofInt 0

/-- One. -/
def one : α :=
  ofInt 1

/-- The second number if it is greater, else the first. -/
@[specialize]
def larger
    (a b : α) :
    α :=
  if less a b then b else a

/-- The second number if it is smaller, else the first. -/
@[specialize]
def smaller
    (a b : α) :
    α :=
  if less b a then b else a

end Scalar

/-- Half the number of values of a word of 64 bits. -/
def halfWord : Int := 9223372036854775808

/-- Whether a whole number fits into a signed word of 64 bits. -/
def fitsWord
    (n : Int) :
    Bool :=
  decide (-halfWord ≤ n) && decide (n < halfWord)

/--
Doubles.  Columns are counted in signed words of 64 bits, so a first column outside of them has
no distance and a distance outside of them wraps around.
-/
instance : Scalar Float where
  ofInt := Number.ofInt
  half := 0.5
  less a b := a < b
  same a b := a == b
  isFinite x := x.isFinite
  isAboveBottom x := -1.0 / 0.0 < x
  floor x := (Exact.ofFloat x).floor
  nearest x := (Exact.ofFloat x).nearest
  columnOffset? first column :=
    if fitsWord first then some (Number.ofInt ((column - first).bmod (2 * halfWord.toNat))) else none
  divisor? n :=
    let x := Number.ofInt n
    if x.isFinite then some x else none

/-- The whole number nearest to a rational number, a half going to the even neighbour. -/
def nearestToRat
    (q : Rat) :
    Int :=
  Exact.signed (decide (q.num < 0)) (roundHalfEven q.num.natAbs q.den)

/-- Rational numbers, without any limit. -/
instance : Scalar Rat where
  ofInt n := (n : Rat)
  half := 1 / 2
  less a b := a < b
  same a b := a == b
  isFinite _ := true
  isAboveBottom _ := true
  floor q := .ok q.floor
  nearest q := .ok (nearestToRat q)
  columnOffset? first column := some ((column - first : Int) : Rat)
  divisor? n := some (n : Rat)

end Diorama
