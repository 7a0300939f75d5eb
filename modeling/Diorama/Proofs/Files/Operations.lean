import Diorama.Proofs.Files.Ways

/-!
# What operations on files do

Writing a file changes what stands at the place that its path leads to.  Removing takes away the
entry of a path, which may be a link to that place, and after that nothing is found under the path.

**Main statements.**
* `sets_of_write`, `removes_of_remove`: what writing and removing change.
* `Sets.keepsWays`, `Sets.keepsWays_back`: written files are in nobody's way.
* `lookup_of_remove`: nothing is found under a path once it was removed.
-/

namespace Diorama
namespace FileSystem

/--
A change of what stands at the place that a path leads to, which is no directory, and of nothing
else: it holds this content afterwards, or there is nothing.
-/
structure Sets
    (fs : FileSystem)
    (p : Path)
    (place : Place)
    (held : Option Content)
    (after : FileSystem) : Prop where
  place_eq : fs.place p = .ok place
  free : fs.kind? place ≠ some .directory
  kind?_eq : after.kind? = Function.update fs.kind? place (held.map .file)
  workingDirectory_eq : after.workingDirectory = fs.workingDirectory

/-- The entry of a path, which is no directory, is taken away, and nothing else is changed. -/
structure Removes
    (fs : FileSystem)
    (p : Path)
    (place : Place)
    (after : FileSystem) : Prop where
  entryPlace_eq : fs.entryPlace p = .ok place
  free : fs.kind? place ≠ some .directory
  kind?_eq : after.kind? = Function.update fs.kind? place none
  workingDirectory_eq : after.workingDirectory = fs.workingDirectory

variable {fs mid after : FileSystem} {p q : Path} {place : Place} {held : Option Content}

namespace Sets

theorem kind?_after
    (h : fs.Sets p place held after) :
    after.kind? place = held.map .file := by
  rw [h.kind?_eq, Function.update_self]

theorem kind?_of_ne
    (h : fs.Sets p place held after)
    {other : Place}
    (hne : other ≠ place) :
    after.kind? other = fs.kind? other := by
  rw [h.kind?_eq, Function.update_of_ne hne]

theorem kind?_after_ne_directory
    (h : fs.Sets p place held after) :
    after.kind? place ≠ some .directory := by
  rw [h.kind?_after]
  cases held <;> simp

theorem directory_iff
    (h : fs.Sets p place held after)
    (other : Place) :
    after.kind? other = some .directory ↔ fs.kind? other = some .directory := by
  by_cases hother : other = place
  · subst hother
    exact iff_of_false h.kind?_after_ne_directory h.free
  · rw [h.kind?_of_ne hother]

theorem link_iff
    (h : fs.Sets p place held after)
    (other : Place)
    (target : Path) :
    after.kind? other = some (.link target) ↔ fs.kind? other = some (.link target) := by
  by_cases hother : other = place
  · subst hother
    refine iff_of_false ?_ (ne_link_of_place h.place_eq target)
    rw [h.kind?_after]
    cases held <;> simp
  · rw [h.kind?_of_ne hother]

theorem keepsWays
    (h : fs.Sets p place held after) :
    fs.KeepsWays after :=
  ⟨fun other => (h.directory_iff other).mpr, h.link_iff, h.workingDirectory_eq⟩

/-- The ways afterwards are those before. -/
theorem keepsWays_back
    (h : fs.Sets p place held after) :
    after.KeepsWays fs :=
  ⟨fun other => (h.directory_iff other).mp, fun other target => (h.link_iff other target).symm,
    h.workingDirectory_eq.symm⟩

/-- The path still leads to the place that was changed. -/
theorem place_after
    (h : fs.Sets p place held after) :
    after.place p = .ok place :=
  h.keepsWays.place_eq h.place_eq

/-- What is changed twice under one path is changed once. -/
theorem trans
    {other : Place}
    {again : Option Content}
    (h : fs.Sets p place held mid)
    (hnext : mid.Sets p other again after) :
    fs.Sets p place again after := by
  obtain rfl : place = other := Except.ok.inj (h.place_after.symm.trans hnext.place_eq)
  refine ⟨h.place_eq, h.free, ?_, hnext.workingDirectory_eq.trans h.workingDirectory_eq⟩
  rw [hnext.kind?_eq, h.kind?_eq, Function.update_idem]

end Sets

/-- A file system in which the file of a path is not changed. -/
theorem Sets.self
    {content : Content}
    (hplace : fs.place p = .ok place)
    (hkind : fs.kind? place = some (.file content)) :
    fs.Sets p place (some content) fs where
  place_eq := hplace
  free := by simp [hkind]
  kind?_eq := by
    rw [Option.map_some, ← hkind]
    exact (Function.update_eq_self place fs.kind?).symm
  workingDirectory_eq := rfl

/-- Writing a file puts it at the place of its path. -/
theorem sets_of_write
    {content : Content}
    (h : fs.write p content = .ok after) :
    ∃ place, fs.Sets p place (some content) after := by
  rw [write] at h
  cases hplace : fs.place p with
  | error cause => simp [hplace] at h
  | ok place =>
      rw [hplace] at h
      simp only at h
      split at h
      · cases h
      · rename_i hfree
        split at h
        · cases h
        · cases h
          rcases placed_of_place hplace with rfl | ⟨parent, name, rfl, hparent⟩
          · exact absurd fs.kind?_nil hfree
          · exact ⟨_, hplace, hfree, kind?_put hparent hfree rfl, rfl⟩

/-- What removing comes to. -/
inductive Removed
    (fs : FileSystem)
    (p : Path) :
    FileSystem → Prop
  | nowhere
      (entryPlace_eq : fs.entryPlace p = .error .noSuchFile) :
      Removed fs p fs
  | nothing
      {place : Place}
      (entryPlace_eq : fs.entryPlace p = .ok place)
      (kind?_eq : fs.kind? place = none) :
      Removed fs p fs
  | entry
      {place : Place}
      {names : List Text}
      {name : Text}
      (names_eq : p.names = names ++ [name])
      (entryPlace_eq : fs.entryPlace p = .ok place)
      (free : fs.kind? place ≠ some .directory) :
      Removed fs p (fs.erase place)

theorem removed_of_remove
    (h : fs.remove p = .ok after) :
    fs.Removed p after := by
  rw [remove] at h
  split at h
  · cases h
  · rename_i hnames
    split at h
    · rename_i hplace
      cases h
      exact .nowhere hplace
    · cases h
    · rename_i place hplace
      split at h
      · rename_i hnone
        cases h
        exact .nothing hplace hnone
      · cases h
      · rename_i kind hother hkind
        split at h
        · cases h
        · cases h
          obtain ⟨names, name, hconcat⟩ :=
            (List.eq_nil_or_concat p.names).resolve_left (by simpa using hnames)
          refine .entry (hconcat.trans List.concat_eq_append) hplace ?_
          rw [hkind]
          exact fun hdirectory => hother (Option.some.inj hdirectory)

/-- Removing takes away the entry of a path, or nothing if there is none. -/
theorem removes_of_remove
    (h : fs.remove p = .ok after) :
    after = fs ∨ ∃ place, fs.Removes p place after := by
  cases removed_of_remove h with
  | nowhere | nothing => exact .inl rfl
  | @entry place _ _ _ entryPlace_eq free =>
      exact .inr ⟨place, entryPlace_eq, free, kind?_erase free, rfl⟩

/-- A file that stands at the place of its path can be read. -/
theorem read_eq_ok_iff
    {content : Content} :
    fs.read p = .ok content
      ↔ ∃ place, fs.place p = .ok place ∧ fs.kind? place = some (.file content) := by
  rw [read]
  cases hplace : fs.place p with
  | error cause => simp
  | ok place =>
      simp only [Except.ok.injEq, exists_eq_left']
      rcases fs.kind? place with _ | _ | _ | _ <;> simp

/-! ## What is found after removing -/

section

variable {links : Nat} {names : List Text} {name : Text} {start directory gone : Place}

/-- From where nothing stands, names lead nowhere else. -/
theorem resolve_of_none
    (h : fs.kind? gone = none)
    (links : Nat)
    (names : List Text) :
    resolve fs.kind? links names gone = .ok gone
      ∨ resolve fs.kind? links names gone = .error .noSuchFile := by
  cases names with
  | nil => exact .inl (resolve_nil _ _ _)
  | cons name rest =>
      refine .inr (resolve_of_enter_error ?_ links rest)
      rw [enter, h]

variable (hafter : after.kind? = Function.update fs.kind? gone none)

include hafter

/-- Names are taken in directories as before. -/
theorem enter_of_gone
    (hfree : fs.kind? gone ≠ some .directory)
    {place next : Place}
    (h : enter fs.kind? place name = .ok next) :
    enter after.kind? place name = .ok next := by
  obtain ⟨hdirectory, hname⟩ := enter_eq_ok_iff.mp h
  have hne : place ≠ gone := by
    rintro rfl
    exact hfree hdirectory
  refine enter_eq_ok_iff.mpr ⟨?_, hname⟩
  rwa [hafter, Function.update_of_ne hne]

/-- A way that comes to the entry ends there. -/
theorem resolve_cons_of_gone
    (hfree : fs.kind? gone ≠ some .directory)
    (henter : enter fs.kind? directory name = .ok gone)
    (links : Nat)
    (rest : List Text) :
    resolve after.kind? links (name :: rest) directory = .ok gone
      ∨ resolve after.kind? links (name :: rest) directory = .error .noSuchFile := by
  have hgone : after.kind? gone = none := by rw [hafter, Function.update_self]
  rw [resolve_of_enter (enter_of_gone hafter hfree henter) (by simp [hgone])]
  exact resolve_of_none hgone links rest

/-- Once an entry is taken away, its path leads there at most. -/
theorem resolve_of_gone
    (hfree : fs.kind? gone ≠ some .directory)
    (h : fs.Leads links names start directory)
    (henter : enter fs.kind? directory name = .ok gone) :
    resolve after.kind? links (names ++ [name]) start = .ok gone
      ∨ resolve after.kind? links (names ++ [name]) start = .error .noSuchFile := by
  have hother {place : Place} (hne : place ≠ gone) : after.kind? place = fs.kind? place := by
    rw [hafter, Function.update_of_ne hne]
  induction h with
  | here place => exact resolve_cons_of_gone hafter hfree henter _ _
  | @on links first rest place next result enter_eq noLink _ ih =>
      by_cases hne : next = gone
      · subst hne
        exact resolve_cons_of_gone hafter hfree enter_eq _ _
      · have hnext := enter_of_gone hafter hfree enter_eq
        rw [List.cons_append, resolve_of_enter hnext (by rwa [hother hne])]
        exact ih henter
  | @link links first rest target place next result enter_eq link_eq _ ih =>
      by_cases hne : next = gone
      · subst hne
        exact resolve_cons_of_gone hafter hfree enter_eq _ _
      · have hnext := enter_of_gone hafter hfree enter_eq
        rw [List.cons_append, resolve_succ_of_link hnext ((hother hne).trans link_eq),
          ← List.append_assoc]
        exact ih henter

end

/-- Nothing is found where a path leads to nothing. -/
theorem lookup_eq_none
    (hplace : fs.place p = .ok place)
    (hnone : fs.kind? place = none) :
    fs.lookup p = .ok none := by
  rw [lookup, hplace]
  exact congrArg Except.ok (Option.map_eq_none_iff.mp hnone)

/-- Nothing is found where a path leads nowhere. -/
theorem lookup_of_noSuchFile
    (h : fs.place p = .error .noSuchFile) :
    fs.lookup p = .ok none := by
  rw [lookup, h]

/-- Nothing is found under a path once it was removed. -/
theorem lookup_of_remove
    (h : fs.remove p = .ok after) :
    after.lookup p = .ok none := by
  cases removed_of_remove h with
  | nowhere entryPlace_eq => exact lookup_of_noSuchFile (place_of_entryPlace_error entryPlace_eq)
  | nothing entryPlace_eq kind?_eq =>
      exact lookup_eq_none (place_of_entryPlace entryPlace_eq (by simp [kind?_eq])) kind?_eq
  | @entry place names name names_eq entryPlace_eq free =>
      have hgone : (fs.erase place).kind? = Function.update fs.kind? place none := kind?_erase free
      obtain ⟨haskable, directory, hleads, henter⟩ :=
        (entryPlace_concat_eq_ok_iff names_eq).mp entryPlace_eq
      have hway : (fs.erase place).place p
          = resolve (fs.erase place).kind? maxLinks (fs.namesTo p.parent ++ [name]) [] := by
        rw [FileSystem.place, if_neg (Nat.not_lt.mpr haskable), ← namesTo_concat names_eq]
        rfl
      rcases resolve_of_gone hgone free hleads henter with hend | hend
      · exact lookup_eq_none (hway.trans hend) (by rw [hgone, Function.update_self])
      · exact lookup_of_noSuchFile (hway.trans hend)

end FileSystem
end Diorama
