import Diorama.Geometry.PointBuffer
import Mathlib.Data.Set.List

/-!
# The rows of an array

An array that points are read from is one row of three or four numbers, a list of such rows of one
width, or an array of that width without rows.  Its points are its rows, a row of three numbers
with one for its fourth.  Nothing else holds points: a number, a ragged or a deeper array and any
other width are refused.

**Main statements.**
* `shape?_eq_singleton_iff` and `shape?_eq_pair_iff`: what a row and a list of rows are.
* `points_eq_ok_iff`: which arrays hold points, and which ones.
-/

namespace Diorama
namespace PointArray

variable {α : Type}

/-- A row of numbers as an array. -/
def ofRow
    (row : List α) :
    PointArray α :=
  .array (row.map .number)

/-- A list of rows as an array. -/
def ofRows
    (rows : List (List α)) :
    PointArray α :=
  .array (rows.map ofRow)

/-- The numbers of coordinates that a row may have. -/
def IsWidth
    (n : Nat) :
    Prop :=
  n = 3 ∨ n = 4

/-- The rows that an array holds: it is one of them, lists them, or lists none of their width. -/
inductive HasRows : PointArray α → List (List α) → Prop
  | row {row : List α} (hwidth : IsWidth row.length) : HasRows (ofRow row) [row]
  | rows {width : Nat} (hwidth : IsWidth width) {rows : List (List α)} (hsome : rows ≠ [])
      (hrows : ∀ row ∈ rows, row.length = width) : HasRows (ofRows rows) rows
  | hollow {width : Nat} (hwidth : IsWidth width) : HasRows (.hollow [width]) []

@[simp]
theorem rowNumbers_ofRow
    (row : List α) :
    (ofRow row).rowNumbers = row := by
  rw [ofRow, rowNumbers, List.filterMap_map]
  exact List.filterMap_some

@[simp]
theorem rowLists_ofRows
    (rows : List (List α)) :
    (ofRows rows).rowLists = rows := by
  rw [ofRows, rowLists, List.map_map]
  exact List.map_id'' rowNumbers_ofRow rows

theorem ofRow_injective :
    (ofRow : List α → PointArray α).Injective :=
  Function.LeftInverse.injective rowNumbers_ofRow

theorem HasRows.isWidth
    {a : PointArray α}
    {rows : List (List α)}
    (h : a.HasRows rows) :
    ∀ row ∈ rows, IsWidth row.length := by
  cases h with
  | row hwidth => simpa using hwidth
  | rows hwidth _ hrows => exact fun row hrow => hrows row hrow ▸ hwidth
  | hollow _ => simp

/-! ## Shapes -/

section

variable {a : PointArray α} {items : List (PointArray α)} {shape : List Nat} {n width : Nat}

theorem commonShape?_eq_some_iff
    (hsome : items ≠ []) :
    commonShape? items = some shape ↔ ∀ item ∈ items, item.shape? = some shape := by
  induction items with
  | nil => exact absurd rfl hsome
  | cons first rest ih =>
      cases rest with
      | nil => simp [commonShape?]
      | cons second rest =>
          rw [List.forall_mem_cons, ← ih (List.cons_ne_nil _ _), commonShape?]
          rotate_left
          · exact List.cons_ne_nil _ _
          cases first.shape? with
          | none => simp
          | some s =>
              cases commonShape? (second :: rest) with
              | none => simp
              | some t =>
                  simp only [Option.ite_none_right_eq_some, Option.some.injEq]
                  constructor
                  · rintro ⟨rfl, rfl⟩
                    exact ⟨rfl, rfl⟩
                  · rintro ⟨rfl, rfl⟩
                    exact ⟨rfl, rfl⟩

theorem shape?_array_eq_some_iff :
    (array items).shape? = some (n :: shape)
      ↔ items.length = n ∧ commonShape? items = some shape := by
  simp only [shape?, Option.map_eq_some_iff, List.cons.injEq]
  constructor
  · rintro ⟨common, hcommon, hlength, rfl⟩
    exact ⟨hlength, hcommon⟩
  · rintro ⟨hlength, hcommon⟩
    exact ⟨shape, hcommon, hlength, rfl⟩

theorem shape?_eq_nil_iff :
    a.shape? = some [] ↔ ∃ x, number x = a := by
  cases a with
  | number x => simp [shape?]
  | array items => simp [shape?]
  | hollow itemShape => simp [shape?]

/-- An array of some numbers is one of so many numbers. -/
theorem shape?_eq_singleton_iff
    (hpos : 0 < n) :
    a.shape? = some [n] ↔ ∃ row : List α, row.length = n ∧ ofRow row = a := by
  cases a with
  | number x => simp [shape?, ofRow]
  | hollow itemShape => simp [shape?, ofRow, hpos.ne]
  | array items =>
      rw [shape?_array_eq_some_iff]
      constructor
      · rintro ⟨rfl, hcommon⟩
        have hnumbers := (commonShape?_eq_some_iff (List.ne_nil_of_length_pos hpos)).mp hcommon
        obtain ⟨row, rfl⟩ : items ∈ Set.range (List.map number) := by
          rw [Set.range_list_map]
          exact fun item hitem => shape?_eq_nil_iff.mp (hnumbers item hitem)
        exact ⟨row, (List.length_map _).symm, rfl⟩
      · rintro ⟨row, rfl, hrow⟩
        obtain rfl : row.map number = items := array.inj hrow
        have hsome : row.map number ≠ [] := List.ne_nil_of_length_pos (by simpa using hpos)
        refine ⟨List.length_map _, (commonShape?_eq_some_iff hsome).mpr ?_⟩
        simp [shape?]

/-- An array of so many arrays of some numbers lists them, or there are none. -/
theorem shape?_eq_pair_iff
    (hpos : 0 < width) :
    a.shape? = some [n, width]
      ↔ (∃ rows : List (List α), rows ≠ [] ∧ rows.length = n
          ∧ (∀ row ∈ rows, row.length = width) ∧ ofRows rows = a)
        ∨ n = 0 ∧ a = .hollow [width] := by
  cases a with
  | number x => simp [shape?, ofRows]
  | hollow itemShape => simp [shape?, ofRows, eq_comm]
  | array items =>
      rw [shape?_array_eq_some_iff, or_iff_left (by simp)]
      constructor
      · rintro ⟨rfl, hcommon⟩
        have hsome : items ≠ [] := by
          rintro rfl
          cases hcommon
        have hitems := (commonShape?_eq_some_iff hsome).mp hcommon
        obtain ⟨rows, rfl⟩ : items ∈ Set.range (List.map ofRow) := by
          rw [Set.range_list_map]
          intro item hitem
          obtain ⟨row, -, hrow⟩ := (shape?_eq_singleton_iff hpos).mp (hitems item hitem)
          exact ⟨row, hrow⟩
        refine ⟨rows, by simpa using hsome, (List.length_map _).symm, fun row hrow => ?_, rfl⟩
        have hshape := hitems _ (List.mem_map_of_mem hrow)
        obtain ⟨same, hlength, hsame⟩ := (shape?_eq_singleton_iff hpos).mp hshape
        rwa [ofRow_injective hsame] at hlength
      · rintro ⟨rows, hsome, rfl, hrows, heq⟩
        obtain rfl : rows.map ofRow = items := array.inj heq
        refine ⟨List.length_map _, (commonShape?_eq_some_iff (by simpa using hsome)).mpr ?_⟩
        rw [List.forall_mem_map]
        intro row hrow
        exact (shape?_eq_singleton_iff hpos).mpr ⟨row, hrows row hrow, rfl⟩

theorem regularShape_eq_ok_iff :
    a.regularShape = .ok shape ↔ a.shape? = some shape ∧ shape.length ≤ maxDimensions := by
  rw [regularShape]
  cases a.shape? with
  | none => simp
  | some s =>
      by_cases hdeep : maxDimensions < s.length
      · simp only [if_pos hdeep, reduceCtorEq, false_iff, Option.some.injEq]
        rintro ⟨rfl, hle⟩
        exact Nat.not_le.mpr hdeep hle
      · simp only [if_neg hdeep, Except.ok.injEq, Option.some.injEq]
        refine (and_iff_left_of_imp ?_).symm
        rintro rfl
        exact Nat.not_lt.mp hdeep

theorem isWidth_pos
    (h : IsWidth n) :
    0 < n := by
  rcases h with rfl | rfl <;> decide

end

/-! ## Points -/

section

variable [Scalar α]

/-- A row of three numbers with one for its fourth. -/
def completed : List α → List α
  | [x, y, z] => [x, y, z, Scalar.one]
  | row => row

@[simp]
theorem completed_xyz
    (v : Vec3 α) :
    completed v.toList = (Point.ofVec v).toList :=
  rfl

theorem exists_pointOfRow?
    {row : List α}
    (h : IsWidth row.length) :
    ∃ p, pointOfRow? row = some p ∧ p.toList = completed row := by
  rcases h with hlength | hlength
  · match row, hlength with
    | [x, y, z], _ => exact ⟨_, rfl, rfl⟩
  · match row, hlength with
    | [x, y, z, w], _ => exact ⟨_, rfl, rfl⟩

theorem map_toList_filterMap_pointOfRow?
    {rows : List (List α)}
    (h : ∀ row ∈ rows, IsWidth row.length) :
    (rows.filterMap pointOfRow?).map Point.toList = rows.map completed := by
  induction rows with
  | nil => rfl
  | cons row rows ih =>
      obtain ⟨hrow, hrows⟩ := List.forall_mem_cons.mp h
      obtain ⟨p, hp, hlist⟩ := exists_pointOfRow? hrow
      rw [List.filterMap_cons_some hp, List.map_cons, List.map_cons, hlist, ih hrows]

theorem length_filterMap_pointOfRow?
    {rows : List (List α)}
    (h : ∀ row ∈ rows, IsWidth row.length) :
    (rows.filterMap pointOfRow?).length = rows.length := by
  simpa using congrArg List.length (map_toList_filterMap_pointOfRow? h)

/-- An array holds points exactly if it has rows: the points of these. -/
theorem points_eq_ok_iff
    {a : PointArray α}
    {ps : List (Point α)} :
    a.points = .ok ps ↔ ∃ rows, a.HasRows rows ∧ ps = rows.filterMap pointOfRow? := by
  constructor
  · intro h
    rw [points] at h
    split at h
    case h_1 => cases h
    case h_2 => cases h
    case h_3 n hregular =>
      split at h
      case isFalse => cases h
      case isTrue hwidth =>
        have hshape := (regularShape_eq_ok_iff.mp hregular).1
        obtain ⟨row, rfl, rfl⟩ := (shape?_eq_singleton_iff (isWidth_pos hwidth)).mp hshape
        exact ⟨[row], .row hwidth, by simpa using h.symm⟩
    case h_4 count width hregular =>
      split at h
      case isFalse => cases h
      case isTrue hwidth =>
        have hshape := (regularShape_eq_ok_iff.mp hregular).1
        rcases (shape?_eq_pair_iff (isWidth_pos hwidth)).mp hshape with
          ⟨rows, hsome, -, hrows, rfl⟩ | ⟨-, rfl⟩
        · exact ⟨rows, .rows hwidth hsome hrows, by simpa using h.symm⟩
        · exact ⟨[], .hollow hwidth, by simpa [rowLists] using h.symm⟩
    case h_5 => split at h <;> cases h
  · rintro ⟨rows, hrows, rfl⟩
    have hdepth : 2 ≤ maxDimensions := by decide
    cases hrows with
    | @row row hwidth =>
        have hshape : (ofRow row).shape? = some [row.length] :=
          (shape?_eq_singleton_iff (isWidth_pos hwidth)).mpr ⟨row, rfl, rfl⟩
        have hregular := regularShape_eq_ok_iff.mpr ⟨hshape, Nat.le_of_lt hdepth⟩
        simp only [points, hregular, rowNumbers_ofRow]
        exact if_pos hwidth
    | @rows width hwidth _ hsome hrows =>
        have hshape : (ofRows rows).shape? = some [rows.length, width] :=
          (shape?_eq_pair_iff (isWidth_pos hwidth)).mpr (.inl ⟨rows, hsome, rfl, hrows, rfl⟩)
        have hregular := regularShape_eq_ok_iff.mpr ⟨hshape, hdepth⟩
        simp only [points, hregular, rowLists_ofRows]
        exact if_pos hwidth
    | @hollow width hwidth =>
        have hshape : (hollow [width] : PointArray α).shape? = some [0, width] := rfl
        have hregular := regularShape_eq_ok_iff.mpr ⟨hshape, hdepth⟩
        simp only [points, hregular]
        exact if_pos hwidth

end
end PointArray
end Diorama
