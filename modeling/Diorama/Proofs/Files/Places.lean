import Diorama.Files.FileSystem
import Mathlib.Logic.Function.Basic

/-!
# What stands where

Seen from outside, a file system is a map from places to what stands there: nothing, a directory,
a link, or a file with what it holds.  Putting something into a directory and taking it away change
this map at one place.

**Main statements.**
* `kind?_put` and `kind?_erase`: the map is changed at one place.
* `placed_of_kind?_ne_none`: what stands anywhere stands in a directory.
-/

namespace Diorama

namespace Node

theorem at?_append
    (node : Node)
    (place rest : Place) :
    node.at? (place ++ rest) = (node.at? place).bind fun below => below.at? rest := by
  induction place generalizing node with
  | nil => simp
  | cons name place ih =>
      cases node with
      | file _ | link _ => rfl
      | directory entries =>
          simp only [List.cons_append, at?]
          cases Named.find? name entries with
          | none => rfl
          | some below => exact ih below

/-- A directory stays one while things in it are taken away. -/
theorem kind_erase
    (node : Node)
    (place : Place) :
    (node.erase place).kind = node.kind := by
  rcases place with _ | ⟨first, _ | ⟨next, place⟩⟩
  · cases node <;> rfl
  · cases node <;> rfl
  · cases node with
    | file _ | link _ => rfl
    | directory entries =>
        simp only [erase]
        split <;> rfl

theorem at?_cons_of_no_entries
    {node : Node}
    (h : node.entries = [])
    (name : Text)
    (rest : Place) :
    node.at? (name :: rest) = none := by
  cases node with
  | file _ | link _ => rfl
  | directory entries =>
      obtain rfl : entries = [] := h
      rfl

/-- Below a place without a directory stands nothing. -/
theorem at?_append_cons_of_not_directory
    {node : Node}
    {place : Place}
    (h : (node.at? place).map kind ≠ some .directory)
    (name : Text)
    (rest : Place) :
    node.at? (place ++ name :: rest) = none := by
  rw [at?_append]
  cases hfound : node.at? place with
  | none => rfl
  | some below =>
      cases below with
      | file _ | link _ => rfl
      | directory entries =>
          rw [hfound] at h
          exact absurd rfl h

/-- Putting a node without entries into a directory changes what stands there and nothing else. -/
theorem map_kind_at?_put
    {node new : Node}
    {parent : Place}
    {name : Text}
    (hparent : (node.at? parent).map kind = some .directory)
    (hfree : (node.at? (parent ++ [name])).map kind ≠ some .directory)
    (hnew : new.entries = [])
    (place : Place) :
    ((node.put (parent ++ [name]) new).at? place).map kind
      = if place = parent ++ [name] then some new.kind else (node.at? place).map kind := by
  induction parent generalizing node place with
  | nil =>
      cases node with
      | file _ | link _ => cases hparent
      | directory entries =>
          cases place with
          | nil => simp [put, kind]
          | cons other rest =>
              by_cases hother : other = name
              · subst hother
                cases rest with
                | nil => simp [at?_put_self]
                | cons next rest =>
                    have hold : (directory entries).at? (other :: next :: rest) = none :=
                      at?_append_cons_of_not_directory hfree next rest
                    have hput : ((directory entries).put [other] new).at? (other :: next :: rest)
                        = none := by
                      simp [put, at?, at?_cons_of_no_entries hnew]
                    simp [hold, hput]
              · simp [at?_put_of_ne hother, hother]
  | cons first parent ih =>
      cases node with
      | file _ | link _ => cases hparent
      | directory entries =>
          cases place with
          | nil => simp [put, kind]
          | cons other rest =>
              by_cases hother : other = first
              · subst hother
                cases hbelow : Named.find? other entries with
                | none => simp [at?, hbelow] at hparent
                | some below =>
                    simp only [at?, List.cons_append, hbelow] at hparent hfree
                    simpa [put, at?, hbelow] using ih hparent hfree rest
              · simp [at?_put_of_ne hother, hother]

/-- Erasing what is no directory takes it away and changes nothing else. -/
theorem map_kind_at?_erase
    {node : Node}
    {place : Place}
    (hfree : (node.at? place).map kind ≠ some .directory)
    (hplace : place ≠ [])
    (other : Place) :
    ((node.erase place).at? other).map kind
      = if other = place then none else (node.at? other).map kind := by
  induction place generalizing node other with
  | nil => exact absurd rfl hplace
  | cons first place ih =>
      cases node with
      | file _ | link _ => cases other <;> simp [erase, at?]
      | directory entries =>
          cases other with
          | nil => simp [kind_erase]
          | cons name rest =>
              by_cases hname : name = first
              · subst hname
                cases place with
                | nil =>
                    have herased : ((directory entries).erase [name]).at? (name :: rest) = none := by
                      simp [erase, at?]
                    cases rest with
                    | nil => simp [herased]
                    | cons next rest =>
                        have hold : (directory entries).at? (name :: next :: rest) = none :=
                          at?_append_cons_of_not_directory hfree next rest
                        simp [herased, hold]
                | cons next place =>
                    cases hbelow : Named.find? name entries with
                    | none => simp [erase, at?, hbelow]
                    | some below =>
                        simp only [at?, hbelow] at hfree
                        simpa [erase, at?, hbelow] using ih hfree (by simp) rest
              · simp [at?_erase_of_ne hname, hname]

end Node

namespace FileSystem

@[simp]
theorem kind?_nil
    (fs : FileSystem) :
    fs.kind? [] = some .directory := by
  simp [kind?, node?, root, Node.kind]

/-- What stands anywhere stands in a directory. -/
theorem kind?_parent
    {fs : FileSystem}
    {parent : Place}
    {name : Text}
    (h : fs.kind? (parent ++ [name]) ≠ none) :
    fs.kind? parent = some .directory := by
  by_contra hparent
  have hnone := Node.at?_append_cons_of_not_directory hparent name []
  exact h (by simp [kind?, node?, hnone])

theorem root_erase
    (fs : FileSystem)
    (place : Place) :
    (fs.erase place).root = fs.root.erase place := by
  have hkind : (fs.root.erase place).kind = .directory := Node.kind_erase fs.root place
  cases herased : fs.root.erase place with
  | file _ | link _ => simp [herased, Node.kind] at hkind
  | directory entries =>
      change Node.directory (fs.root.erase place).entries = _
      rw [herased]
      rfl

/-- Putting a node without entries into a directory. -/
theorem kind?_put
    {fs : FileSystem}
    {new : Node}
    {parent : Place}
    {name : Text}
    (hparent : fs.kind? parent = some .directory)
    (hfree : fs.kind? (parent ++ [name]) ≠ some .directory)
    (hnew : new.entries = []) :
    (fs.put (parent ++ [name]) new).kind?
      = Function.update fs.kind? (parent ++ [name]) (some new.kind) := by
  funext place
  have hroot : (fs.put (parent ++ [name]) new).root = fs.root.put (parent ++ [name]) new := by
    cases parent <;> rfl
  rw [Function.update_apply, kind?, node?, hroot]
  exact Node.map_kind_at?_put hparent hfree hnew place

/-- Erasing what is no directory. -/
theorem kind?_erase
    {fs : FileSystem}
    {place : Place}
    (hfree : fs.kind? place ≠ some .directory) :
    (fs.erase place).kind? = Function.update fs.kind? place none := by
  funext other
  have hplace : place ≠ [] := by
    rintro rfl
    exact hfree fs.kind?_nil
  rw [Function.update_apply, kind?, node?, root_erase]
  exact Node.map_kind_at?_erase hfree hplace other

/-- The root, or a place in a directory. -/
def Placed
    (fs : FileSystem)
    (place : Place) :
    Prop :=
  place = [] ∨ ∃ parent name, place = parent ++ [name] ∧ fs.kind? parent = some .directory

/-- What stands anywhere is placed. -/
theorem placed_of_kind?_ne_none
    {fs : FileSystem}
    {place : Place}
    (h : fs.kind? place ≠ none) :
    fs.Placed place := by
  rcases List.eq_nil_or_concat place with rfl | ⟨parent, name, hplace⟩
  · exact .inl rfl
  · rw [List.concat_eq_append] at hplace
    subst hplace
    exact .inr ⟨parent, name, rfl, kind?_parent h⟩

/-- The directory above a directory is one. -/
theorem kind?_dropLast
    {fs : FileSystem}
    {place : Place}
    (h : fs.kind? place = some .directory) :
    fs.kind? place.dropLast = some .directory := by
  have hplaced : fs.Placed place := placed_of_kind?_ne_none (by simp [h])
  rcases hplaced with rfl | ⟨parent, name, rfl, hparent⟩
  · exact fs.kind?_nil
  · rwa [List.dropLast_concat]

end FileSystem
end Diorama
