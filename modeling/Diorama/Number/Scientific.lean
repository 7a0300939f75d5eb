import Diorama.Number.Exact

/-!
# Decimal texts with a fixed number of digits

A positive quotient is written with a fixed number of significant digits by rounding it on the
decimal grid of its own magnitude.  `scientific` prints the digits with an exponent, `general`
chooses between positional and exponent form and drops trailing zeros.
-/

namespace Diorama
namespace Number

/-- A positive number `digits * 10 ^ scale`. -/
structure Decimal where
  digits : Nat
  scale : Int
  deriving DecidableEq

/-- `num / den` multiplied by a power of ten, as a quotient. -/
def scaleByTen
    (num den : Nat)
    (power : Int) :
    Nat × Nat :=
  if 0 ≤ power then (num * Nat.pow 10 power.toNat, den)
  else (num, den * Nat.pow 10 (-power).toNat)

/-- The exponent of the leading digit of the positive quotient `num / den`. -/
def leadingExponent
    (num den : Nat) :
    Int :=
  let guess : Int :=
    ((Nat.toDigits 10 num).length : Int) - ((Nat.toDigits 10 den).length : Int)
  let (n, d) := scaleByTen num den (-guess)
  if d ≤ n then guess else guess - 1

/-- The decimal with `places + 1` significant digits that is nearest to `num / den`. -/
def Decimal.nearest
    (places num den : Nat) :
    Decimal :=
  let leading := leadingExponent num den
  let (n, d) := scaleByTen num den (places - leading)
  let digits := roundHalfEven n d
  if digits < Nat.pow 10 (places + 1) then ⟨digits, leading - places⟩
  else ⟨digits / 10, leading - places + 1⟩

/-- A text repeated to the left until it has `width` characters. -/
def padLeft
    (width : Nat)
    (fill : Char)
    (text : List Char) :
    List Char :=
  List.replicate (width - text.length) fill ++ text

/-- An exponent with its sign and at least two digits. -/
def exponentText
    (exponent : Int) :
    List Char :=
  (if exponent < 0 then ['e', '-'] else ['e', '+'])
    ++ padLeft 2 '0' (Nat.toDigits 10 exponent.natAbs)

/-- Digits with a point after the first; a single digit stands alone. -/
def pointAfterFirst : List Char → List Char
  | [] => []
  | [d] => [d]
  | d :: ds => d :: '.' :: ds

/-- Digits with a point so that the first has weight `10 ^ exponent`; zeros fill up both sides. -/
def positional
    (digits : List Char)
    (exponent : Int) :
    List Char × List Char :=
  if exponent < 0 then
    (['0'], List.replicate ((-exponent).toNat - 1) '0' ++ digits)
  else
    let whole := exponent.toNat + 1
    (digits.take whole ++ List.replicate (whole - digits.length) '0', digits.drop whole)

/-- The sign of a printed number. -/
def signText
    (negative : Bool) :
    List Char :=
  if negative then ['-'] else []

/-- The decimal text of a whole number. -/
def intText
    (n : Int) :
    String :=
  String.ofList (signText (decide (n < 0)) ++ Nat.toDigits 10 n.natAbs)

/-- The text of a double, its finite nonzero magnitudes printed by `magnitude`. -/
def printWith
    (zero : List Char)
    (magnitude : Nat → Nat → List Char)
    (x : Float) :
    String :=
  match Exact.ofFloat x with
  | .notANumber => "nan"
  | .infinite negative => String.ofList (signText negative ++ "inf".toList)
  | .finite negative 0 _ => String.ofList (signText negative ++ zero)
  | .finite negative mantissa exponent =>
      let (num, den) := Exact.ratio mantissa exponent
      String.ofList (signText negative ++ magnitude num den)

/-- One digit before the point, `places` after it, and an exponent. -/
def scientific
    (places : Nat)
    (x : Float) :
    String :=
  printWith
    (pointAfterFirst (List.replicate (places + 1) '0') ++ exponentText 0)
    (fun num den =>
      let decimal := Decimal.nearest places num den
      pointAfterFirst (Nat.toDigits 10 decimal.digits)
        ++ exponentText (decimal.scale + places))
    x

/-- A list without the zeros at its end. -/
def dropTrailingZeros
    (digits : List Char) :
    List Char :=
  (digits.reverse.dropWhile (· == '0')).reverse

/-- A whole part, and a point and a fraction if the fraction is not empty. -/
def withFraction
    (whole fraction : List Char) :
    List Char :=
  if fraction.isEmpty then whole else whole ++ '.' :: fraction

/-- Six significant digits without trailing zeros, positional from `1e-4` to below `1e6`. -/
def general
    (x : Float) :
    String :=
  printWith ['0']
    (fun num den =>
      let decimal := Decimal.nearest 5 num den
      let exponent := decimal.scale + 5
      let digits := dropTrailingZeros (Nat.toDigits 10 decimal.digits)
      if exponent < -4 ∨ 6 ≤ exponent then
        pointAfterFirst digits ++ exponentText exponent
      else
        let (whole, fraction) := positional digits exponent
        withFraction whole fraction)
    x

end Number
end Diorama
