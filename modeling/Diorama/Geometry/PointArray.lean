import Diorama.Geometry.Transform

/-!
# Points from nested arrays

Points may be given as an array of rows of three or four numbers, or as a single such row.  Any
other shape is refused.
-/

namespace Diorama

/--
A number or an array of arrays of numbers, nested to any depth.  An array without items may still
have the shape of such items; one that is listed empty has that of numbers.
-/
inductive PointArray (α : Type)
  | number (value : α)
  | array (items : List (PointArray α))
  | hollow (itemShape : List Nat)
  deriving Nonempty

/-- Why an array holds no points. -/
inductive ShapeError
  | ragged
  | tooManyDimensions
  | noColumns
  | notThreeOrFourColumns
  | notFourColumns
  | mixedDimensions
  | notMultipleOf (group : Nat)
  deriving DecidableEq

/-- What a refused shape is reported as, where the report is the library's own. -/
def ShapeError.message? : ShapeError → Option String
  | notThreeOrFourColumns => some "points must have shape (N, 3) or (N, 4)"
  | notFourColumns => some "points must have shape (N, 4)"
  | notMultipleOf group => some ("point count must be a multiple of " ++ Number.intText group)
  | ragged | tooManyDimensions | noColumns | mixedDimensions => none

namespace PointArray

variable {α : Type}

mutual

/-- The lengths of the array level by level; arrays of one level have to be equally long. -/
def shape? : PointArray α → Option (List Nat)
  | number _ => some []
  | array items => (commonShape? items).map (items.length :: ·)
  | hollow itemShape => some (0 :: itemShape)

/-- The shape shared by all items; the empty list shares the shape of a number. -/
def commonShape? : List (PointArray α) → Option (List Nat)
  | [] => some []
  | [item] => item.shape?
  | item :: rest =>
      match item.shape?, commonShape? rest with
      | some s, some t => if s = t then some s else none
      | _, _ => none

end

/-- Arrays are nested this deep at most. -/
def maxDimensions : Nat := 64

/-- The shape of an array that has one. -/
def regularShape
    (a : PointArray α) :
    Except ShapeError (List Nat) :=
  match a.shape? with
  | none => .error .ragged
  | some shape => if maxDimensions < shape.length then .error .tooManyDimensions else .ok shape

/-- The numbers of a row. -/
def rowNumbers : PointArray α → List α
  | number _ | hollow _ => []
  | array items =>
      items.filterMap fun item =>
        match item with
        | number x => some x
        | array _ | hollow _ => none

/-- The rows of an array of rows. -/
def rowLists : PointArray α → List (List α)
  | number _ | hollow _ => []
  | array items => items.map rowNumbers

variable [Scalar α]

/-- A point from a row of three or four numbers. -/
def pointOfRow? : List α → Option (Point α)
  | [x, y, z] => some (Point.ofVec ⟨x, y, z⟩)
  | [x, y, z, w] => some ⟨x, y, z, w⟩
  | _ => none

/-- The points of an array of rows of three or four numbers, or of one such row. -/
def points
    (a : PointArray α) :
    Except ShapeError (List (Point α)) :=
  match a.regularShape with
  | .error e => .error e
  | .ok [] => .error .noColumns
  | .ok [n] =>
      if n = 3 ∨ n = 4 then .ok ([a.rowNumbers].filterMap pointOfRow?)
      else .error .notThreeOrFourColumns
  | .ok [_, n] =>
      if n = 3 ∨ n = 4 then .ok (a.rowLists.filterMap pointOfRow?)
      else .error .notThreeOrFourColumns
  | .ok (_ :: n :: _ :: _) =>
      if n = 3 then .error .mixedDimensions else .error .notThreeOrFourColumns

/-- The points of an array of rows of four numbers. -/
def homogeneousPoints
    (a : PointArray α) :
    Except ShapeError (List (Point α)) :=
  match a.regularShape with
  | .error e => .error e
  | .ok [_, 4] => .ok (a.rowLists.filterMap pointOfRow?)
  | .ok _ => .error .notFourColumns

end PointArray
end Diorama
