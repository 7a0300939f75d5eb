import Diorama.Proofs.Files.Operations

/-!
# What stays when files are saved

Saving a file makes missing directories on the way to its path, writes the file that the path leads
to, and takes the entry of the path away again if the save fails.  Seen as a whole, the file system
is changed at these places only.  Where there are no links, a path leads to its own entry, and a
file is kept by every save whose path does not lead to its place.

**Main statements.**
* `makes_makeDirectories`: making directories makes missing ones on the way and nothing else.
* `Touched.exists_changedOnlyAt`: what is not changed in the whole file system.
* `Touched.read_eq`: a file is kept where no path of a save leads to it.
-/

namespace Diorama

/-- A path that consists of the first names of another one. -/
structure Path.LeadsTo
    (above p : Path) : Prop where
  root_eq : above.root = p.root
  names_prefix : above.names <+: p.names

namespace Path

theorem LeadsTo.refl
    (p : Path) :
    p.LeadsTo p :=
  ⟨rfl, List.prefix_refl _⟩

theorem LeadsTo.trans
    {p q r : Path}
    (h : p.LeadsTo q)
    (hnext : q.LeadsTo r) :
    p.LeadsTo r :=
  ⟨h.root_eq.trans hnext.root_eq, h.names_prefix.trans hnext.names_prefix⟩

theorem leadsTo_parent
    (p : Path) :
    p.parent.LeadsTo p :=
  ⟨rfl, List.dropLast_prefix _⟩

end Path

namespace FileSystem

/-- What stands anywhere stands there afterwards, and only directories are new. -/
structure Extends
    (fs after : FileSystem) : Prop where
  kept : ∀ place kind, fs.kind? place = some kind → after.kind? place = some kind
  new : ∀ place, fs.kind? place = none → after.kind? place ≠ none →
    after.kind? place = some .directory
  workingDirectory_eq : after.workingDirectory = fs.workingDirectory

namespace Extends

variable {fs mid after : FileSystem}

theorem refl
    (fs : FileSystem) :
    fs.Extends fs :=
  ⟨fun _ _ h => h, fun _ hnone hsome => absurd hnone hsome, rfl⟩

theorem trans
    (h : fs.Extends mid)
    (hnext : mid.Extends after) :
    fs.Extends after := by
  refine ⟨fun place kind hkind => hnext.kept place kind (h.kept place kind hkind),
    fun place hnone hsome => ?_, hnext.workingDirectory_eq.trans h.workingDirectory_eq⟩
  by_cases hmid : mid.kind? place = none
  · exact hnext.new place hmid hsome
  · exact hnext.kept place _ (h.new place hnone hmid)

/-- What is no directory stands where directories were made exactly if it stood there before. -/
theorem kind?_eq_iff
    (h : fs.Extends after)
    {kind : Kind}
    (hkind : kind ≠ .directory)
    (place : Place) :
    after.kind? place = some kind ↔ fs.kind? place = some kind := by
  refine ⟨fun hafter => ?_, h.kept place kind⟩
  cases hfs : fs.kind? place with
  | none =>
      have hmade := h.new place hfs (by simp [hafter])
      exact absurd (Option.some.inj (hafter.symm.trans hmade)) hkind
  | some other => rw [← h.kept place other hfs, hafter]

theorem keepsWays
    (h : fs.Extends after) :
    fs.KeepsWays after :=
  ⟨fun place => h.kept place .directory,
    fun place target => h.kind?_eq_iff (by simp) place, h.workingDirectory_eq⟩

end Extends

/-- Missing directories are made, each at the place of a path that leads to the given one. -/
structure Makes
    (fs : FileSystem)
    (p : Path)
    (after : FileSystem) : Prop extends fs.Extends after where
  made : ∀ place, fs.kind? place = none → after.kind? place ≠ none →
    ∃ above, above.LeadsTo p ∧ after.place above = .ok place

namespace Makes

variable {fs mid after : FileSystem} {p q : Path}

theorem refl
    (fs : FileSystem)
    (p : Path) :
    fs.Makes p fs :=
  ⟨.refl fs, fun _ hnone hsome => absurd hnone hsome⟩

/-- What is made on the way to a path is made on the way to a longer one. -/
theorem mono
    (h : fs.Makes q after)
    (hleads : q.LeadsTo p) :
    fs.Makes p after := by
  refine ⟨h.toExtends, fun place hnone hsome => ?_⟩
  obtain ⟨above, habove, hplace⟩ := h.made place hnone hsome
  exact ⟨above, habove.trans hleads, hplace⟩

theorem trans
    (h : fs.Makes p mid)
    (hnext : mid.Makes p after) :
    fs.Makes p after := by
  refine ⟨h.toExtends.trans hnext.toExtends, fun place hnone hsome => ?_⟩
  by_cases hmid : mid.kind? place = none
  · exact hnext.made place hmid hsome
  · obtain ⟨above, habove, hplace⟩ := h.made place hnone hmid
    exact ⟨above, habove, hnext.toExtends.keepsWays.place_eq hplace⟩

end Makes

/-- A new directory takes the place of nothing. -/
theorem makes_put
    {fs : FileSystem}
    {p : Path}
    {parent : Place}
    {name : Text}
    (hplace : fs.entryPlace p = .ok (parent ++ [name]))
    (hparent : fs.kind? parent = some .directory)
    (hfree : fs.kind? (parent ++ [name]) = none) :
    fs.Makes p (fs.put (parent ++ [name]) (.directory [])) := by
  have hput : (fs.put (parent ++ [name]) (.directory [])).kind?
      = Function.update fs.kind? (parent ++ [name]) (some .directory) :=
    kind?_put hparent (by simp [hfree]) rfl
  have hmade : (fs.put (parent ++ [name]) (.directory [])).kind? (parent ++ [name])
      = some .directory := by
    rw [hput, Function.update_self]
  have hother {other : Place} (hne : other ≠ parent ++ [name]) :
      (fs.put (parent ++ [name]) (.directory [])).kind? other = fs.kind? other := by
    rw [hput, Function.update_of_ne hne]
  have hnew (other : Place) (hnone : fs.kind? other = none)
      (hsome : (fs.put (parent ++ [name]) (.directory [])).kind? other ≠ none) :
      other = parent ++ [name] := by
    by_contra hne
    exact hsome ((hother hne).trans hnone)
  have hextends : fs.Extends (fs.put (parent ++ [name]) (.directory [])) := by
    refine ⟨fun other kind hkind => ?_, fun other hnone hsome => ?_, rfl⟩
    · have hne : other ≠ parent ++ [name] := by
        rintro rfl
        cases hfree.symm.trans hkind
      rw [hother hne, hkind]
    · rw [hnew other hnone hsome, hmade]
  refine ⟨hextends, fun other hnone hsome => ⟨p, .refl p, ?_⟩⟩
  rw [hnew other hnone hsome]
  exact place_of_entryPlace (hextends.keepsWays.entryPlace_eq hplace) (by simp [hmade])

theorem makes_makeDirectory
    {fs after : FileSystem}
    {p : Path}
    (h : fs.makeDirectory p = .ok after) :
    fs.Makes p after := by
  rw [makeDirectory] at h
  split at h
  · cases h
  · rename_i place hplace
    split at h
    · cases h
    · rename_i hfree
      split at h
      · cases h
      · cases h
        rcases placed_of_entryPlace hplace with rfl | ⟨parent, name, rfl, hparent⟩
        · rw [kind?_nil] at hfree
          cases hfree
        · exact makes_put hplace hparent hfree

/-- Directories are made on the way to a path, also where making them fails in the end. -/
theorem makes_makeDirectories
    (fs : FileSystem)
    (limit : Nat)
    (p : Path) :
    fs.Makes p (fs.makeDirectories limit p).1 := by
  induction limit generalizing p with
  | zero => exact .refl fs p
  | succ limit ih =>
      rw [makeDirectories]
      split
      · rename_i made hmade
        exact makes_makeDirectory hmade
      · split
        · exact .refl fs p
        · have hparent := (ih p.parent).mono (Path.leadsTo_parent p)
          split
          · rename_i made e hmade
            rwa [hmade] at hparent
          · rename_i made hmade
            rw [hmade] at hparent
            split
            · rename_i done hdone
              exact hparent.trans (makes_makeDirectory hdone)
            · exact hparent
      · exact .refl fs p

/-! ## Saves -/

/--
File systems that come about by making directories on the way to the parent of a path, and after
that by writing or taking away the file that the path leads to, and at last its entry.
-/
inductive Touched
    (q : Path)
    (fs : FileSystem) :
    FileSystem → Prop
  | made
      {after : FileSystem}
      (makes : fs.Makes q.parent after) :
      Touched q fs after
  | set
      {ready after : FileSystem}
      {place : Place}
      {held : Option Content}
      (makes : fs.Makes q.parent ready)
      (sets : ready.Sets q place held after) :
      Touched q fs after
  | removed
      {ready mid after : FileSystem}
      {place entry : Place}
      {held : Option Content}
      (makes : fs.Makes q.parent ready)
      (sets : ready.Sets q place held mid)
      (removes : mid.Removes q entry after) :
      Touched q fs after

/--
What a save changes at most.  The path is taken as it stands once its missing directories are made:
no directory is gone, the new ones stand where nothing stood, at the places of paths that lead to
the parent, and no file or link is new, different or gone but the file that the path leads to and
the entry of the path.
-/
structure ChangedOnlyAt
    (path : Path)
    (fs ready after : FileSystem) : Prop where
  makes : fs.Makes path.parent ready
  directory_kept : ∀ place, fs.kind? place = some .directory → after.kind? place = some .directory
  directory_made : ∀ place, fs.kind? place ≠ some .directory →
    after.kind? place = some .directory →
      fs.kind? place = none ∧ ∃ above, above.LeadsTo path.parent ∧ ready.place above = .ok place
  file_iff : ∀ place content, ready.place path ≠ .ok place → ready.entryPlace path ≠ .ok place →
    (after.kind? place = some (.file content) ↔ fs.kind? place = some (.file content))
  link_iff : ∀ place target, ready.entryPlace path ≠ .ok place →
    (after.kind? place = some (.link target) ↔ fs.kind? place = some (.link target))
  link_kept : ∀ place target, after.kind? place = some (.link target) →
    fs.kind? place = some (.link target)
  workingDirectory_eq : after.workingDirectory = fs.workingDirectory

variable {fs ready mid after : FileSystem} {path : Path}

theorem Makes.changedOnlyAt
    (h : fs.Makes path.parent ready) :
    ChangedOnlyAt path fs ready ready where
  makes := h
  directory_kept place := h.kept place .directory
  directory_made place hother hmade := by
    cases hkind : fs.kind? place with
    | none => exact ⟨rfl, h.made place hkind (by simp [hmade])⟩
    | some kind =>
        have hkept := h.kept place kind hkind
        exact absurd (hkind.trans (hkept.symm.trans hmade)) hother
  file_iff place content _ _ := h.kind?_eq_iff (by simp) place
  link_iff place target _ := h.kind?_eq_iff (by simp) place
  link_kept place target := (h.kind?_eq_iff (by simp) place).mp
  workingDirectory_eq := h.workingDirectory_eq

/-- Writing the file that the path leads to changes nothing else. -/
theorem ChangedOnlyAt.set
    {place : Place}
    {held : Option Content}
    (h : ChangedOnlyAt path fs ready ready)
    (hsets : ready.Sets path place held after) :
    ChangedOnlyAt path fs ready after where
  makes := h.makes
  directory_kept other hother := (hsets.directory_iff other).mpr (h.directory_kept other hother)
  directory_made other hother hmade :=
    h.directory_made other hother ((hsets.directory_iff other).mp hmade)
  file_iff other content hplace hentry := by
    have hne : other ≠ place := by
      rintro rfl
      exact hplace hsets.place_eq
    rw [hsets.kind?_of_ne hne]
    exact h.file_iff other content hplace hentry
  link_iff other target hentry :=
    (hsets.link_iff other target).trans (h.link_iff other target hentry)
  link_kept other target hlink := h.link_kept other target ((hsets.link_iff other target).mp hlink)
  workingDirectory_eq := hsets.workingDirectory_eq.trans h.workingDirectory_eq

/-- Taking away the entry of the path changes nothing else. -/
theorem ChangedOnlyAt.remove
    {entry : Place}
    (h : ChangedOnlyAt path fs ready mid)
    (hways : mid.KeepsWays ready)
    (hremoves : mid.Removes path entry after) :
    ChangedOnlyAt path fs ready after := by
  have hentry : ready.entryPlace path = .ok entry := hways.entryPlace_eq hremoves.entryPlace_eq
  have hsame {other : Place} (hne : other ≠ entry) : after.kind? other = mid.kind? other := by
    rw [hremoves.kind?_eq, Function.update_of_ne hne]
  have hsome {other : Place} {kind : Kind} (hkind : after.kind? other = some kind) :
      mid.kind? other = some kind := by
    by_cases hne : other = entry
    · subst hne
      rw [hremoves.kind?_eq, Function.update_self] at hkind
      cases hkind
    · rwa [← hsame hne]
  have hne {other : Place} (hother : ready.entryPlace path ≠ .ok other) : other ≠ entry := by
    rintro rfl
    exact hother hentry
  refine ⟨h.makes, fun other hother => ?_, fun other hother hmade => ?_, ?_, ?_, ?_,
    hremoves.workingDirectory_eq.trans h.workingDirectory_eq⟩
  · have hmid := h.directory_kept other hother
    rwa [hsame fun heq => hremoves.free (heq ▸ hmid)]
  · exact h.directory_made other hother (hsome hmade)
  · intro other content hplace hother
    rw [hsame (hne hother)]
    exact h.file_iff other content hplace hother
  · intro other target hother
    rw [hsame (hne hother)]
    exact h.link_iff other target hother
  · exact fun other target hlink => h.link_kept other target (hsome hlink)

theorem Touched.exists_changedOnlyAt
    (h : Touched path fs after) :
    ∃ ready, ChangedOnlyAt path fs ready after := by
  cases h with
  | made makes => exact ⟨after, makes.changedOnlyAt⟩
  | @set ready _ _ _ makes sets => exact ⟨ready, makes.changedOnlyAt.set sets⟩
  | @removed ready _ _ _ _ _ makes sets removes =>
      exact ⟨ready, (makes.changedOnlyAt.set sets).remove sets.keepsWays_back removes⟩

/-! ## Without links -/

theorem NoLinks.touched
    (hlinks : fs.NoLinks)
    (h : Touched path fs after) :
    after.NoLinks := by
  obtain ⟨ready, hchanged⟩ := h.exists_changedOnlyAt
  exact fun place target hlink => hlinks place target (hchanged.link_kept place target hlink)

/-- Without links, a save leaves all ways as they are. -/
theorem Touched.keepsWays
    (h : Touched path fs after)
    (hlinks : fs.NoLinks) :
    fs.KeepsWays after := by
  obtain ⟨ready, hchanged⟩ := h.exists_changedOnlyAt
  exact ⟨hchanged.directory_kept,
    fun place target => iff_of_false (hlinks.touched h place target) (hlinks place target),
    hchanged.workingDirectory_eq⟩

/-- Without links, taking away an entry leaves all ways as they are. -/
theorem Removes.keepsWays
    {entry : Place}
    (h : fs.Removes path entry after)
    (hlinks : fs.NoLinks) :
    fs.KeepsWays after := by
  have hsame {other : Place} {kind : Kind} (hkind : fs.kind? other = some kind)
      (hne : other ≠ entry) :
      after.kind? other = some kind := by
    rw [h.kind?_eq, Function.update_of_ne hne, hkind]
  refine ⟨fun other hother => hsame hother fun heq => h.free (heq ▸ hother),
    fun other target => iff_of_false (fun hlink => ?_) (hlinks other target),
    h.workingDirectory_eq⟩
  rw [h.kind?_eq, Function.update_apply] at hlink
  split at hlink
  · cases hlink
  · exact hlinks other target hlink

/-- A file is kept by a save whose path does not lead to its place afterwards. -/
theorem Touched.read_eq
    {p : Path}
    {own : Place}
    {content : Content}
    (h : Touched path fs after)
    (hlinks : fs.NoLinks)
    (hplace : fs.place p = .ok own)
    (hread : fs.read p = .ok content)
    (hother : after.place path ≠ .ok own) :
    after.read p = .ok content := by
  obtain ⟨place, hto, hfile⟩ := read_eq_ok_iff.mp hread
  obtain rfl : own = place := Except.ok.inj (hplace.symm.trans hto)
  refine read_eq_ok_iff.mpr ⟨own, (h.keepsWays hlinks).place_eq hplace, ?_⟩
  cases h with
  | made makes => exact makes.kept own _ hfile
  | @set ready _ place _ makes sets =>
      have hne : own ≠ place := by
        rintro rfl
        exact hother sets.place_after
      rw [sets.kind?_of_ne hne]
      exact makes.kept own _ hfile
  | @removed ready mid _ place entry _ makes sets removes =>
      have hmid : mid.NoLinks := hlinks.touched (.set makes sets)
      have hways := removes.keepsWays hmid
      have hne : own ≠ place := by
        rintro rfl
        exact hother (hways.place_eq sets.place_after)
      -- the entry that is taken away is the file that was written
      have hentry : entry = place := Except.ok.inj
        ((place_of_entryPlace removes.entryPlace_eq (hmid entry)).symm.trans sets.place_after)
      rw [removes.kind?_eq, hentry, Function.update_of_ne hne, sets.kind?_of_ne hne]
      exact makes.kept own _ hfile

end FileSystem

end Diorama
