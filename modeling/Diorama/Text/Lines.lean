import Diorama.Text.Basic

/-!
# Lines

A text is cut into lines at every line boundary of Unicode; a carriage return followed by a line
feed is one boundary, and a boundary at the end of the text starts no further line.
-/

namespace Diorama
namespace Text

/-- Whether a character ends a line. -/
def isLineBreak
    (c : Char) :
    Bool :=
  let n := c.toNat
  (decide (0x0a ≤ n) && decide (n ≤ 0x0d)) || (decide (0x1c ≤ n) && decide (n ≤ 0x1e))
    || n == 0x85 || n == 0x2028 || n == 0x2029

/-- What follows a line break `c`: after a carriage return a line feed still belongs to it. -/
def afterBreak
    (c : Symbol) :
    Text → Text
  | .char '\n' :: rest => if c = .char '\r' then rest else .char '\n' :: rest
  | rest => rest

theorem length_afterBreak_le
    (c : Symbol)
    (rest : Text) :
    (afterBreak c rest).length ≤ rest.length := by
  unfold afterBreak
  split
  · split <;> simp
  · simp

/-- The lines of a text without their line breaks. -/
def lines
    (t : Text) :
    List Text :=
  match _h : t.dropWhile fun c => !c.is isLineBreak with
  | [] => if t.isEmpty then [] else [t]
  | c :: rest => (t.takeWhile fun c => !c.is isLineBreak) :: lines (afterBreak c rest)
termination_by t.length
decreasing_by
  have hlen : (c :: rest).length ≤ t.length := by
    rw [← _h]
    exact (List.dropWhile_suffix _).length_le
  have hrest := length_afterBreak_le c rest
  simp only [List.length_cons] at hlen
  omega

/-- Characters with every carriage return, alone or before a line feed, as a line feed. -/
def unifyLineBreaks : List Char → List Char
  | [] => []
  | '\r' :: '\n' :: rest => '\n' :: unifyLineBreaks rest
  | c :: rest => (if c = '\r' then '\n' else c) :: unifyLineBreaks rest

end Text
end Diorama
