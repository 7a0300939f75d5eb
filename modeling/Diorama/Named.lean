import Diorama.Text.Basic

/-!
# Values under names

Names are kept in the order in which they were first given a value; a later value for the same
name takes the place of the earlier one.

**Main statements.**
* `find?_insert_self` and `find?_insert_of_ne`: inserting changes the value of one name only.
* `find?_erase_self` and `find?_erase_of_ne`: erasing takes away one name only.
* `names_insert`: a new name goes to the end, a known one keeps its place.
* `nodup_names_insert`: so no name is listed twice.
-/

namespace Diorama

universe u

/-- Values under names, in order of first insertion. -/
abbrev Named (β : Type u) := List (Text × β)

namespace Named

variable {β : Type u}

/-- The value of a name. -/
def find?
    (name : Text) :
    Named β → Option β
  | [] => none
  | (n, v) :: rest => if n = name then some v else find? name rest

/-- Give a name a value. -/
def insert
    (name : Text)
    (value : β) :
    Named β → Named β
  | [] => [(name, value)]
  | (n, v) :: rest =>
      if n = name then (n, value) :: rest else (n, v) :: insert name value rest

/-- Take a name away. -/
def erase
    (name : Text) :
    Named β → Named β
  | [] => []
  | (n, v) :: rest => if n = name then erase name rest else (n, v) :: erase name rest

/-- The names in order. -/
def names
    (entries : Named β) :
    List Text :=
  entries.map Prod.fst

/-- Whether a name has a value. -/
def has
    (name : Text)
    (entries : Named β) :
    Bool :=
  (entries.find? name).isSome

/-- The entries of a list, a later one taking the place of an earlier one of the same name. -/
def ofList
    (entries : List (Text × β)) :
    Named β :=
  entries.foldl (fun acc e => insert e.1 e.2 acc) []

@[simp]
theorem find?_nil
    (name : Text) :
    find? name ([] : Named β) = none :=
  rfl

@[simp]
theorem find?_insert_self
    (name : Text)
    (value : β)
    (entries : Named β) :
    find? name (insert name value entries) = some value := by
  induction entries with
  | nil => simp [insert, find?]
  | cons e rest ih =>
      by_cases h : e.1 = name <;> simp [insert, find?, h, ih]

theorem find?_map
    {γ : Type u}
    (f : β → γ)
    (name : Text)
    (entries : Named β) :
    find? name (entries.map fun e => (e.1, f e.2)) = (find? name entries).map f := by
  induction entries with
  | nil => rfl
  | cons e rest ih => by_cases h : e.1 = name <;> simp [find?, h, ih]

theorem find?_insert_of_ne
    {name other : Text}
    (hne : other ≠ name)
    (value : β)
    (entries : Named β) :
    find? other (insert name value entries) = find? other entries := by
  induction entries with
  | nil => simp [insert, find?, Ne.symm hne]
  | cons e rest ih =>
      by_cases h : e.1 = name
      · simp [insert, find?, h, Ne.symm hne]
      · simp [insert, find?, h, ih]

@[simp]
theorem find?_erase_self
    (name : Text)
    (entries : Named β) :
    find? name (erase name entries) = none := by
  induction entries with
  | nil => rfl
  | cons e rest ih =>
      by_cases h : e.1 = name <;> simp [erase, find?, h, ih]

theorem find?_erase_of_ne
    {name other : Text}
    (hne : other ≠ name)
    (entries : Named β) :
    find? other (erase name entries) = find? other entries := by
  induction entries with
  | nil => rfl
  | cons e rest ih =>
      by_cases h : e.1 = name
      · simp [erase, find?, h, ih, Ne.symm hne]
      · simp [erase, find?, h, ih]

theorem names_insert
    (name : Text)
    (value : β)
    (entries : Named β) :
    names (insert name value entries)
      = if name ∈ names entries then names entries else names entries ++ [name] := by
  induction entries with
  | nil => simp [insert, names]
  | cons e rest ih =>
      by_cases h : e.1 = name
      · simp [insert, names, h]
      · have hne : ¬ name = e.1 := fun he => h he.symm
        have hstep : names (insert name value (e :: rest))
            = e.1 :: names (insert name value rest) := by
          simp [insert, names, h]
        have hmem : name ∈ names (e :: rest) ↔ name ∈ names rest := by
          simp [names, hne]
        rw [hstep, ih]
        simp only [hmem]
        split <;> simp [names]

theorem nodup_names_insert
    {entries : Named β}
    (h : entries.names.Nodup)
    (name : Text)
    (value : β) :
    (names (insert name value entries)).Nodup := by
  rw [names_insert]
  split
  · exact h
  · rename_i hnew
    rw [List.nodup_append]
    refine ⟨h, List.pairwise_singleton _ _, fun other hother last hlast heq => hnew ?_⟩
    rw [← List.mem_singleton.mp hlast, ← heq]
    exact hother

end Named
end Diorama
