/-!
# Tables of character ranges

A property of characters is kept as a sorted array of closed ranges of code points and is looked
up by halving.
-/

namespace Diorama
namespace Text

/-- Closed ranges of code points in ascending order. -/
abbrev RangeTable := Array (Nat × Nat)

namespace RangeTable

/-- Halving search between two positions, `fuel` times at most. -/
def search
    (table : RangeTable)
    (code : Nat) :
    Nat → Nat → Nat → Bool
  | 0, _, _ => false
  | fuel + 1, low, high =>
      if low < high then
        let middle := (low + high) / 2
        match table[middle]? with
        | none => false
        | some (first, last) =>
            if code < first then search table code fuel low middle
            else if last < code then search table code fuel (middle + 1) high
            else true
      else false

/-- Whether a code point lies in one of the ranges. -/
def contains
    (table : RangeTable)
    (code : Nat) :
    Bool :=
  table.search code (table.size + 1) 0 table.size

end RangeTable
end Text
end Diorama
