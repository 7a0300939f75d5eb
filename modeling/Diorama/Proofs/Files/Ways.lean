import Diorama.Proofs.Fallible
import Diorama.Proofs.Files.Places

/-!
# The ways of paths

A path leads to a place along the names in it, and along the names of the links that it meets.  Such
a way is told by the directories and the links alone, so a path leads to the same place as long as
directories stay directories and no link is made, changed or taken away.

**Main statements.**
* `resolve_eq_ok_iff`: following names finds the ways that there are.
* `KeepsWays.place_eq`, `KeepsWays.entryPlace_eq`: paths lead to the same places afterwards.
* `place_of_entryPlace`: a path leads to its entry, unless that is a link.
-/

namespace Diorama
namespace FileSystem

/-- A way along names from one place to another, on which so many links may be followed. -/
inductive Leads
    (fs : FileSystem) :
    Nat → List Text → Place → Place → Prop
  | here
      {links : Nat}
      (place : Place) :
      Leads fs links [] place place
  | on
      {links : Nat}
      {name : Text}
      {rest : List Text}
      {place next result : Place}
      (enter_eq : enter fs.kind? place name = .ok next)
      (noLink : ∀ target, fs.kind? next ≠ some (.link target))
      (after : Leads fs links rest next result) :
      Leads fs links (name :: rest) place result
  | link
      {links : Nat}
      {name : Text}
      {rest : List Text}
      {target : Path}
      {place next result : Place}
      (enter_eq : enter fs.kind? place name = .ok next)
      (link_eq : fs.kind? next = some (.link target))
      (after : Leads fs links (target.names ++ rest) (linkStart place target) result) :
      Leads fs (links + 1) (name :: rest) place result

variable {fs after : FileSystem} {p : Path} {links : Nat} {names rest : List Text}
  {name : Text} {place next result : Place} {cause : SystemCause}

/-! ## Single names -/

/-- A name is taken in a directory only. -/
theorem enter_eq_ok_iff :
    enter fs.kind? place name = .ok next
      ↔ fs.kind? place = some .directory ∧ (Text.nameBytes name).length ≤ maxNameBytes
        ∧ (if name = ".." then place.dropLast else place ++ [Text.listed name]) = next := by
  unfold enter
  split
  · simp_all
  · simp_all
  · simp_all
  · rename_i hkind
    rw [hkind, ← Nat.not_lt]
    split
    · rename_i hlong
      simp [hlong]
    · rename_i hshort
      simp only [not_false_eq_true, true_and, hshort]
      split <;> exact ⟨Except.ok.inj, congrArg Except.ok⟩

theorem placed_of_enter
    (h : enter fs.kind? place name = .ok next) :
    fs.Placed next := by
  obtain ⟨hdirectory, _, rfl⟩ := enter_eq_ok_iff.mp h
  split
  · exact placed_of_kind?_ne_none (by simp [kind?_dropLast hdirectory])
  · exact .inr ⟨place, _, rfl, hdirectory⟩

/-! ## Following names -/

theorem resolve_of_enter_error
    (h : enter fs.kind? place name = .error cause)
    (links : Nat)
    (rest : List Text) :
    resolve fs.kind? links (name :: rest) place = .error cause := by
  rw [resolve_cons, h]

theorem resolve_of_enter
    (h : enter fs.kind? place name = .ok next)
    (hnext : ∀ target, fs.kind? next ≠ some (.link target))
    (links : Nat)
    (rest : List Text) :
    resolve fs.kind? links (name :: rest) place = resolve fs.kind? links rest next := by
  simp only [resolve_cons, h]

theorem resolve_zero_of_link
    {target : Path}
    (h : enter fs.kind? place name = .ok next)
    (hnext : fs.kind? next = some (.link target))
    (rest : List Text) :
    resolve fs.kind? 0 (name :: rest) place = .error .tooManyLinks := by
  simp only [resolve_cons, h, hnext]

theorem resolve_succ_of_link
    {target : Path}
    (h : enter fs.kind? place name = .ok next)
    (hnext : fs.kind? next = some (.link target))
    (links : Nat)
    (rest : List Text) :
    resolve fs.kind? (links + 1) (name :: rest) place
      = resolve fs.kind? links (target.names ++ rest) (linkStart place target) := by
  simp only [resolve_cons, h, hnext]

/-- Induction along the names that are followed, and over the links that may still be. -/
theorem resolve_induction
    (fs : FileSystem)
    {motive : Nat → List Text → Place → Prop}
    (here : ∀ links place, motive links [] place)
    (stop : ∀ links name rest place cause, enter fs.kind? place name = .error cause →
      motive links (name :: rest) place)
    (on : ∀ links name rest place next, enter fs.kind? place name = .ok next →
      (∀ target, fs.kind? next ≠ some (.link target)) → motive links rest next →
      motive links (name :: rest) place)
    (tooMany : ∀ name rest place next target, enter fs.kind? place name = .ok next →
      fs.kind? next = some (.link target) → motive 0 (name :: rest) place)
    (link : ∀ links name rest place next target, enter fs.kind? place name = .ok next →
      fs.kind? next = some (.link target) →
      motive links (target.names ++ rest) (linkStart place target) →
      motive (links + 1) (name :: rest) place)
    (links : Nat)
    (names : List Text)
    (place : Place) :
    motive links names place := by
  induction links generalizing names place with
  | zero =>
      induction names generalizing place with
      | nil => exact here 0 place
      | cons name rest ih =>
          cases henter : enter fs.kind? place name with
          | error cause => exact stop 0 name rest place cause henter
          | ok next =>
              by_cases hlink : ∃ target, fs.kind? next = some (.link target)
              · obtain ⟨target, hlink⟩ := hlink
                exact tooMany name rest place next target henter hlink
              · exact on 0 name rest place next henter (not_exists.mp hlink) (ih next)
  | succ links ihlinks =>
      induction names generalizing place with
      | nil => exact here (links + 1) place
      | cons name rest ih =>
          cases henter : enter fs.kind? place name with
          | error cause => exact stop (links + 1) name rest place cause henter
          | ok next =>
              by_cases hlink : ∃ target, fs.kind? next = some (.link target)
              · obtain ⟨target, hlink⟩ := hlink
                exact link links name rest place next target henter hlink (ihlinks _ _)
              · exact on (links + 1) name rest place next henter (not_exists.mp hlink) (ih next)

theorem resolve_of_leads
    (h : fs.Leads links names place result) :
    resolve fs.kind? links names place = .ok result := by
  induction h with
  | here place => exact resolve_nil _ _ _
  | on enter_eq noLink _ ih => rw [resolve_of_enter enter_eq noLink, ih]
  | link enter_eq link_eq _ ih => rw [resolve_succ_of_link enter_eq link_eq, ih]

theorem leads_of_resolve
    (h : resolve fs.kind? links names place = .ok result) :
    fs.Leads links names place result := by
  induction links, names, place using resolve_induction fs with
  | here links place =>
      obtain rfl : place = result := Except.ok.inj (resolve_nil fs.kind? links place ▸ h)
      exact .here place
  | stop links name rest place cause henter =>
      cases (resolve_of_enter_error henter links rest).symm.trans h
  | on links name rest place next henter hnext ih =>
      exact .on henter hnext (ih (resolve_of_enter henter hnext links rest ▸ h))
  | tooMany name rest place next target henter hlink =>
      cases (resolve_zero_of_link henter hlink rest).symm.trans h
  | link links name rest place next target henter hlink ih =>
      exact .link henter hlink (ih (resolve_succ_of_link henter hlink links rest ▸ h))

/-- Following names finds the ways that there are. -/
theorem resolve_eq_ok_iff :
    resolve fs.kind? links names place = .ok result ↔ fs.Leads links names place result :=
  ⟨leads_of_resolve, resolve_of_leads⟩

/-- Where a way fails, it fails with more names behind. -/
theorem resolve_append_of_error
    (h : resolve fs.kind? links names place = .error cause)
    (more : List Text) :
    resolve fs.kind? links (names ++ more) place = .error cause := by
  induction links, names, place using resolve_induction fs with
  | here links place => cases (resolve_nil fs.kind? links place).symm.trans h
  | stop links name rest place other henter =>
      rw [resolve_of_enter_error henter] at h
      rw [List.cons_append, resolve_of_enter_error henter, h]
  | on links name rest place next henter hnext ih =>
      rw [List.cons_append, resolve_of_enter henter hnext]
      exact ih (resolve_of_enter henter hnext links rest ▸ h)
  | tooMany name rest place next target henter hlink =>
      rw [resolve_zero_of_link henter hlink] at h
      rw [List.cons_append, resolve_zero_of_link henter hlink, h]
  | link links name rest place next target henter hlink ih =>
      rw [List.cons_append, resolve_succ_of_link henter hlink, ← List.append_assoc]
      exact ih (resolve_succ_of_link henter hlink links rest ▸ h)

namespace Leads

/-- A way that leads into a directory goes on with the next name. -/
theorem concat
    (h : fs.Leads links names place next)
    (henter : enter fs.kind? next name = .ok result)
    (hresult : ∀ target, fs.kind? result ≠ some (.link target)) :
    fs.Leads links (names ++ [name]) place result := by
  induction h with
  | here place => exact .on henter hresult (.here result)
  | on enter_eq noLink _ ih => exact .on enter_eq noLink (ih henter)
  | link enter_eq link_eq _ ih =>
      refine .link enter_eq link_eq ?_
      have hway := ih henter
      rwa [List.append_assoc] at hway

/-- Where a way ends at no directory with the next name, there is no way. -/
theorem resolve_concat_of_error
    (h : fs.Leads links names place next)
    (henter : enter fs.kind? next name = .error cause) :
    resolve fs.kind? links (names ++ [name]) place = .error cause := by
  induction h with
  | here place => exact resolve_of_enter_error henter _ _
  | on enter_eq noLink _ ih => rw [List.cons_append, resolve_of_enter enter_eq noLink, ih henter]
  | link enter_eq link_eq _ ih =>
      rw [List.cons_append, resolve_succ_of_link enter_eq link_eq, ← List.append_assoc, ih henter]

theorem placed
    (h : fs.Leads links names place result)
    (hplace : fs.Placed place) :
    fs.Placed result := by
  induction h with
  | here place => exact hplace
  | on enter_eq _ _ ih => exact ih (placed_of_enter enter_eq)
  | @link links name rest target place next result enter_eq _ _ ih =>
      refine ih ?_
      have hdirectory := (enter_eq_ok_iff.mp enter_eq).1
      unfold linkStart
      split
      · exact .inl rfl
      · exact placed_of_kind?_ne_none (by simp [hdirectory])

/-- No way ends at a link. -/
theorem ne_link
    (h : fs.Leads links names place result)
    (hplace : ∀ target, fs.kind? place ≠ some (.link target))
    (target : Path) :
    fs.kind? result ≠ some (.link target) := by
  induction h with
  | here place => exact hplace target
  | on _ noLink _ ih => exact ih noLink
  | @link links name rest other place next result enter_eq _ _ ih =>
      refine ih fun target => ?_
      have hdirectory := (enter_eq_ok_iff.mp enter_eq).1
      unfold linkStart
      split
      · simp
      · simp [hdirectory]

end Leads

/-- There are no links. -/
def NoLinks
    (fs : FileSystem) :
    Prop :=
  ∀ place target, fs.kind? place ≠ some (.link target)

/-- There are none where there is nothing but files. -/
theorem noLinks_of_files
    (files : Named Content)
    (workingDirectory : Place)
    (rights : Rights) :
    NoLinks ⟨files.map fun entry => (entry.1, .file entry.2), workingDirectory, rights⟩ := by
  intro place target hlink
  rcases place with _ | ⟨name, rest⟩
  · cases hlink
  · simp only [kind?, node?, root, Node.at?, Named.find?_map] at hlink
    cases hfile : Named.find? name files with
    | none => simp [hfile] at hlink
    | some content => cases rest <;> simp [hfile, Node.at?, Node.kind] at hlink

/-! ## Ways that stay -/

/-- Directories stay directories, and the links are the same. -/
structure KeepsWays
    (fs after : FileSystem) : Prop where
  directory : ∀ place, fs.kind? place = some .directory → after.kind? place = some .directory
  link_iff : ∀ place target,
    after.kind? place = some (.link target) ↔ fs.kind? place = some (.link target)
  workingDirectory_eq : after.workingDirectory = fs.workingDirectory

namespace KeepsWays

theorem refl
    (fs : FileSystem) :
    fs.KeepsWays fs :=
  ⟨fun _ h => h, fun _ _ => Iff.rfl, rfl⟩

theorem trans
    {mid : FileSystem}
    (h : fs.KeepsWays mid)
    (hnext : mid.KeepsWays after) :
    fs.KeepsWays after :=
  ⟨fun place hplace => hnext.directory place (h.directory place hplace),
    fun place target => (hnext.link_iff place target).trans (h.link_iff place target),
    hnext.workingDirectory_eq.trans h.workingDirectory_eq⟩

variable (h : fs.KeepsWays after)

include h

theorem enter_eq
    (henter : enter fs.kind? place name = .ok next) :
    enter after.kind? place name = .ok next := by
  obtain ⟨hdirectory, hname⟩ := enter_eq_ok_iff.mp henter
  exact enter_eq_ok_iff.mpr ⟨h.directory place hdirectory, hname⟩

theorem leads
    (hleads : fs.Leads links names place result) :
    after.Leads links names place result := by
  induction hleads with
  | here place => exact .here place
  | on enter_eq noLink _ ih =>
      exact .on (h.enter_eq enter_eq) (fun target => mt (h.link_iff _ target).mp (noLink target)) ih
  | link enter_eq link_eq _ ih =>
      exact .link (h.enter_eq enter_eq) ((h.link_iff _ _).mpr link_eq) ih

theorem namesTo_eq
    (p : Path) :
    after.namesTo p = fs.namesTo p := by
  rw [namesTo, namesTo, h.workingDirectory_eq]

end KeepsWays

/-! ## Paths -/

/-- The system can be asked for a path. -/
def Askable
    (p : Path) :
    Prop :=
  (Text.nameBytes p.toText).length ≤ maxPathBytes

theorem place_eq_ok_iff :
    fs.place p = .ok place ↔ Askable p ∧ fs.Leads maxLinks (fs.namesTo p) [] place := by
  rw [FileSystem.place, Askable, ← Nat.not_lt, ← resolve_eq_ok_iff]
  split <;> rename_i hlong <;> simp [hlong]

theorem namesTo_concat
    (h : p.names = names ++ [name]) :
    fs.namesTo p = fs.namesTo p.parent ++ [name] := by
  have hparent : p.parent.names = names := by rw [Path.parent, h, List.dropLast_concat]
  have habsolute : p.parent.isAbsolute = p.isAbsolute := rfl
  rw [namesTo, namesTo, h, hparent, habsolute, List.append_assoc]

theorem entryPlace_of_nil
    (h : p.names = []) :
    fs.entryPlace p = fs.place p := by
  rw [entryPlace, FileSystem.place, h]
  rfl

theorem entryPlace_concat_eq_ok_iff
    (h : p.names = names ++ [name]) :
    fs.entryPlace p = .ok place
      ↔ Askable p ∧ ∃ directory, fs.Leads maxLinks (fs.namesTo p.parent) [] directory
        ∧ enter fs.kind? directory name = .ok place := by
  rw [entryPlace, Askable, ← Nat.not_lt, h, List.getLast?_concat]
  split
  · rename_i hlong
    simp [hlong]
  · rename_i hshort
    simp only [bind_eq_ok_iff, resolve_eq_ok_iff, hshort, not_false_eq_true, true_and]

theorem placed_of_place
    (h : fs.place p = .ok place) :
    fs.Placed place :=
  (place_eq_ok_iff.mp h).2.placed (.inl rfl)

/-- No path leads to a link. -/
theorem ne_link_of_place
    (h : fs.place p = .ok place)
    (target : Path) :
    fs.kind? place ≠ some (.link target) :=
  (place_eq_ok_iff.mp h).2.ne_link (by simp) target

theorem placed_of_entryPlace
    (h : fs.entryPlace p = .ok place) :
    fs.Placed place := by
  rcases List.eq_nil_or_concat p.names with hnil | ⟨names, name, hconcat⟩
  · rw [entryPlace_of_nil hnil] at h
    exact placed_of_place h
  · rw [List.concat_eq_append] at hconcat
    obtain ⟨_, directory, _, henter⟩ := (entryPlace_concat_eq_ok_iff hconcat).mp h
    exact placed_of_enter henter

/-- A path leads to its entry, unless that is a link. -/
theorem place_of_entryPlace
    (h : fs.entryPlace p = .ok place)
    (hplace : ∀ target, fs.kind? place ≠ some (.link target)) :
    fs.place p = .ok place := by
  rcases List.eq_nil_or_concat p.names with hnil | ⟨names, name, hconcat⟩
  · rwa [← entryPlace_of_nil hnil]
  · rw [List.concat_eq_append] at hconcat
    obtain ⟨haskable, directory, hleads, henter⟩ := (entryPlace_concat_eq_ok_iff hconcat).mp h
    rw [place_eq_ok_iff, namesTo_concat hconcat]
    exact ⟨haskable, hleads.concat henter hplace⟩

/-- A path leads nowhere if it has no entry. -/
theorem place_of_entryPlace_error
    (h : fs.entryPlace p = .error cause) :
    fs.place p = .error cause := by
  rcases List.eq_nil_or_concat p.names with hnil | ⟨names, name, hconcat⟩
  · rwa [← entryPlace_of_nil hnil]
  · rw [List.concat_eq_append] at hconcat
    rw [entryPlace, hconcat, List.getLast?_concat] at h
    rw [FileSystem.place, namesTo_concat hconcat]
    split at h
    · rename_i hlong
      rw [if_pos hlong, h]
    · rename_i hshort
      rw [if_neg hshort]
      cases hparent : resolve fs.kind? maxLinks (fs.namesTo p.parent) [] with
      | error other =>
          rw [hparent] at h
          cases h
          exact resolve_append_of_error hparent [name]
      | ok directory =>
          rw [hparent] at h
          exact (leads_of_resolve hparent).resolve_concat_of_error h

namespace KeepsWays

variable (h : fs.KeepsWays after)

include h

/-- Paths lead to the same places. -/
theorem place_eq
    (hplace : fs.place p = .ok place) :
    after.place p = .ok place := by
  obtain ⟨haskable, hleads⟩ := place_eq_ok_iff.mp hplace
  rw [place_eq_ok_iff, h.namesTo_eq]
  exact ⟨haskable, h.leads hleads⟩

/-- Paths have the same entries. -/
theorem entryPlace_eq
    (hplace : fs.entryPlace p = .ok place) :
    after.entryPlace p = .ok place := by
  rcases List.eq_nil_or_concat p.names with hnil | ⟨names, name, hconcat⟩
  · rw [entryPlace_of_nil hnil] at hplace ⊢
    exact h.place_eq hplace
  · rw [List.concat_eq_append] at hconcat
    obtain ⟨haskable, directory, hleads, henter⟩ := (entryPlace_concat_eq_ok_iff hconcat).mp hplace
    refine (entryPlace_concat_eq_ok_iff hconcat).mpr
      ⟨haskable, directory, ?_, h.enter_eq henter⟩
    rw [h.namesTo_eq]
    exact h.leads hleads

end KeepsWays

end FileSystem
end Diorama
