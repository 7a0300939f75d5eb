import Diorama.Text.Basic

/-!
# Blanks and words

A blank separates words.  Blanks are the white space of Unicode together with the four
information separators U+001C to U+001F.
-/

namespace Diorama
namespace Text

/-- Whether a character separates words. -/
def isBlank
    (c : Char) :
    Bool :=
  let n := c.toNat
  (decide (0x09 ≤ n) && decide (n ≤ 0x0d)) || (decide (0x1c ≤ n) && decide (n ≤ 0x20))
    || n == 0x85 || n == 0xa0 || n == 0x1680
    || (decide (0x2000 ≤ n) && decide (n ≤ 0x200a))
    || n == 0x2028 || n == 0x2029 || n == 0x202f || n == 0x205f || n == 0x3000

/-- The maximal runs of symbols that are not blank, in order. -/
def words
    (t : Text) :
    List Text :=
  match _h : t.dropWhile (·.is isBlank) with
  | [] => []
  | c :: rest =>
      (c :: rest.takeWhile fun d => !d.is isBlank) :: words (rest.dropWhile fun d => !d.is isBlank)
termination_by t.length
decreasing_by
  have hlen : (c :: rest).length ≤ t.length := by
    rw [← _h]
    exact (List.dropWhile_suffix _).length_le
  have hrest : (rest.dropWhile fun d => !d.is isBlank).length ≤ rest.length :=
    (List.dropWhile_suffix _).length_le
  simp only [List.length_cons] at hlen
  omega

/-- A text without the blanks at its ends. -/
def trim
    (t : Text) :
    Text :=
  ((t.dropWhile (·.is isBlank)).reverse.dropWhile (·.is isBlank)).reverse

end Text
end Diorama
