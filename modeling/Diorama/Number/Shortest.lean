import Diorama.Number.Scientific

/-!
# The shortest decimal that reads back

A double is printed with the fewest significant digits for which the decimal lies in the interval
of numbers that round to the double; among those of that length, the nearest is taken.
-/

namespace Diorama
namespace Number

/-- The numbers that round to one double, as an interval of multiples of `2 ^ unit`. -/
structure RoundingInterval where
  low : Nat
  value : Nat
  high : Nat
  unit : Int
  closed : Bool
  deriving DecidableEq

namespace RoundingInterval

/--
The interval around `mantissa * 2 ^ exponent`.  The gap below is half as wide at a power of two
above the smallest normal number, and both ends belong to the interval iff the mantissa is even.
-/
def ofDouble
    (mantissa : Nat)
    (exponent : Int) :
    RoundingInterval :=
  let narrow := mantissa == Nat.pow 2 52 && decide (-1074 < exponent)
  { low := 4 * mantissa - (if narrow then 1 else 2)
    value := 4 * mantissa
    high := 4 * mantissa + 2
    unit := exponent - 2
    closed := mantissa % 2 == 0 }

/-- Whether the decimal `digits * 10 ^ scale` lies in the interval. -/
def contains
    (i : RoundingInterval)
    (d : Decimal) :
    Bool :=
  let (num, den) := scaleByTen d.digits 1 d.scale
  let (unitNum, unitDen) := Exact.ratio 1 i.unit
  let position := num * unitDen
  let step := den * unitNum
  if i.closed then
    decide (i.low * step ≤ position) && decide (position ≤ i.high * step)
  else
    decide (i.low * step < position) && decide (position < i.high * step)

end RoundingInterval

/--
The neighbours of `num / den` on the grid of decimals with `places + 1` digits, the nearer one
first, and the one with an even last digit first when both are equally near.
-/
def gridNeighbours
    (places num den : Nat) :
    Decimal × Decimal :=
  let leading := leadingExponent num den
  let (n, d) := scaleByTen num den (places - leading)
  let below : Decimal := ⟨n / d, leading - places⟩
  let above : Decimal := ⟨n / d + 1, leading - places⟩
  if roundHalfEven n d = n / d then (below, above) else (above, below)

/-- The first decimal of the interval on the grids of `places + 1`, `places + 2`, … digits. -/
def shortestFrom
    (i : RoundingInterval)
    (num den : Nat) :
    Nat → Nat → Decimal
  | places, 0 => (gridNeighbours places num den).1
  | places, more + 1 =>
      let (first, second) := gridNeighbours places num den
      if i.contains first then first
      else if i.contains second then second
      else shortestFrom i num den (places + 1) more

/-- The shortest decimal that rounds to `mantissa * 2 ^ exponent`. -/
def Decimal.shortest
    (mantissa : Nat)
    (exponent : Int) :
    Decimal :=
  let (num, den) := Exact.ratio mantissa exponent
  shortestFrom (RoundingInterval.ofDouble mantissa exponent) num den 0 16

/--
The text of a number in programs and documents: positional from `1e-4` to below `1e16`, always
with a fraction there, and with an exponent otherwise.
-/
def shortest
    (x : Float) :
    String :=
  match Exact.ofFloat x with
  | .notANumber => "nan"
  | .infinite negative => String.ofList (signText negative ++ "inf".toList)
  | .finite negative 0 _ => String.ofList (signText negative ++ "0.0".toList)
  | .finite negative mantissa exponent =>
      let decimal := Decimal.shortest mantissa exponent
      let all := Nat.toDigits 10 decimal.digits
      let leading := decimal.scale + (all.length - 1 : Nat)
      let digits := dropTrailingZeros all
      let body :=
        if leading < -4 ∨ 16 ≤ leading then pointAfterFirst digits ++ exponentText leading
        else
          let (whole, fraction) := positional digits leading
          whole ++ '.' :: (if fraction.isEmpty then ['0'] else fraction)
      String.ofList (signText negative ++ body)

end Number
end Diorama
