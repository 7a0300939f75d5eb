import Diorama.Number.Rounding

/-!
# The exact value of a double

A double is a sign, a whole mantissa and a power of two, or infinite, or not a number.  `Exact`
names these cases, and the conversions to whole numbers are read off them without any further
rounding of their own.
-/

namespace Diorama
namespace Number

/-- What a double stands for: `± mantissa * 2 ^ exponent`, an infinity, or no number at all. -/
inductive Exact
  | notANumber
  | infinite (negative : Bool)
  | finite (negative : Bool) (mantissa : Nat) (exponent : Int)
  deriving DecidableEq

/-- Why a number has no nearest whole number. -/
inductive Unroundable
  | notANumber
  | infinite
  deriving DecidableEq

namespace Exact

/-- The value of a double. -/
def ofFloat
    (x : Float) :
    Exact :=
  match x.toModel.unpack with
  | .notANumber => .notANumber
  | .infinity s => .infinite (s == .negative)
  | .zero s => .finite (s == .negative) 0 0
  | .finite s m e _ => .finite (s == .negative) m e

/-- The magnitude `mantissa * 2 ^ exponent` as a quotient of natural numbers. -/
def ratio
    (mantissa : Nat)
    (exponent : Int) :
    Nat × Nat :=
  if 0 ≤ exponent then (mantissa * Nat.pow 2 exponent.toNat, 1)
  else (mantissa, Nat.pow 2 (-exponent).toNat)

/-- A magnitude with its sign. -/
def signed
    (negative : Bool)
    (magnitude : Nat) :
    Int :=
  if negative then -(magnitude : Int) else magnitude

/-- The whole number reached by `round` from the magnitude of a finite value. -/
def toInt
    (round : Bool → Nat → Nat → Nat) :
    Exact → Except Unroundable Int
  | .notANumber => .error .notANumber
  | .infinite _ => .error .infinite
  | .finite negative mantissa exponent =>
      let (num, den) := ratio mantissa exponent
      .ok (signed negative (round negative num den))

/-- The nearest whole number, a half going to the even neighbour. -/
def nearest
    (x : Exact) :
    Except Unroundable Int :=
  x.toInt fun _ num den => roundHalfEven num den

/-- The largest whole number that is not larger. -/
def floor
    (x : Exact) :
    Except Unroundable Int :=
  x.toInt fun negative num den =>
    if negative then (num + den - 1) / den else num / den

/-- The whole number left when the fraction is cut off. -/
def truncate
    (x : Exact) :
    Except Unroundable Int :=
  x.toInt fun _ num den => num / den

/-- Whether the value has no fraction. -/
def isWhole : Exact → Bool
  | .finite _ mantissa exponent =>
      let (num, den) := ratio mantissa exponent
      num % den == 0
  | _ => false

end Exact

/-- The double nearest to a whole number; infinite when the number is out of range. -/
def ofInt
    (n : Int) :
    Float :=
  Float.ofInt n

end Number
end Diorama
