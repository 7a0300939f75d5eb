import Diorama.Proofs.Config.Reported
import Diorama.Proofs.Config.SingleSettings
import Mathlib.Data.List.Basic
import Mathlib.Data.List.Induction

/-!
# Settings from documents and overrides

Loaded settings have, for every single setting, the value of the last override of it, or else the
value of the document, or else the default.  Overrides are sorted into sections first, and these are
laid over the settings as an object is.  Nothing of that shows: of the overrides of one place the
last one counts, and those of other places do not matter.

**Main statements.**
* `Setting.given?_overrideSections`: what sorted overrides give to a setting.
* `Setting.chosen_of_load`: the value of a single setting once settings are loaded.
* `Settings.load_settings`: overrides laid over loaded settings.
-/

namespace Diorama

/-- The value of a name in entries of which a later one counts. -/
theorem Named.find?_ofList
    {β : Type}
    (name : Text)
    (entries : List (Text × β)) :
    (ofList entries).find? name
      = (entries.filterMap fun e => if e.1 = name then some e.2 else none).getLast? := by
  induction entries using List.reverseRecOn with
  | nil => rfl
  | append_singleton entries e ih =>
      have hstep : ofList (entries ++ [e]) = insert e.1 e.2 (ofList entries) := by
        rw [ofList, List.foldl_append]
        rfl
      rw [hstep, List.filterMap_append]
      by_cases hname : e.1 = name
      · simp [hname]
      · rw [find?_insert_of_ne (Ne.symm hname), ih]
        simp [hname]

/-- The value of a name in entries that are made from a list of names. -/
theorem Named.find?_filterMap
    {β : Type}
    (value? : Text → Option β)
    (name : Text)
    (names : List Text) :
    Named.find? name (names.filterMap fun n => (value? n).map fun v => (n, v))
      = if name ∈ names then value? name else none := by
  induction names with
  | nil => rfl
  | cons first rest ih =>
      cases hvalue : value? first with
      | none =>
          rw [List.filterMap_cons_none (by rw [hvalue]; rfl), ih]
          by_cases hname : name = first
          · simp [hname, hvalue]
          · simp [hname]
      | some v =>
          rw [List.filterMap_cons_some (by rw [hvalue]; rfl)]
          by_cases hname : name = first
          · simp [Named.find?, hname, hvalue]
          · simpa [Named.find?, hname, Ne.symm hname] using ih

/-- In a list without repeated names, looking up is membership. -/
theorem lookup_eq_some_iff_mem
    {β : Type}
    {entries : List (Text × β)}
    (hnodup : (entries.map Prod.fst).Nodup)
    {name : Text}
    {v : β} :
    entries.lookup name = some v ↔ (name, v) ∈ entries := by
  induction entries with
  | nil => simp
  | cons e rest ih =>
      obtain ⟨first, w⟩ := e
      rw [List.map_cons, List.nodup_cons] at hnodup
      by_cases hname : name = first
      · subst hname
        have hrest : (name, v) ∉ rest := fun hmem =>
          hnodup.1 (List.mem_map.mpr ⟨_, hmem, rfl⟩)
        simp [hrest, eq_comm]
      · rw [List.lookup_cons, beq_eq_false_iff_ne.mpr hname, ih hnodup.2]
        simp [hname]

/-- A value that is there. -/
def Json.present? : Json → Option Json
  | .null => none
  | v => some v

namespace Setting

variable {β : Type}

/-- The names under which a setting is overridden. -/
def overrideKeys : Setting β → List Text
  | width => ["width"]
  | height => ["height"]
  | background => ["background"]
  | view => ["view"]
  | ambient => ["ambient"]
  | lightPosition => ["light_position"]
  | lightColor => ["light_color"]
  | steps => ["steps"]
  | drawColor => ["draw_color"]
  | directory => ["output_dir", "directory"]
  | basename => ["basename"]
  | converter => ["converter"]
  | defaultFormat => ["default_format"]
  | frameSuffix => ["frame_suffix"]
  | specularExponent | ambientReflect | diffuseReflect | specularReflect => []

/-- The value that overrides give to a setting: the last one under a name of it. -/
def override?
    (f : Setting β)
    (overrides : List (Text × Json)) :
    Option Json :=
  (overrides.filterMap fun o =>
    if f.overrideKeys.contains o.1 then o.2.present? else none).getLast?

/-- The value that is asked for: by overrides, or else by a document. -/
def asked?
    (f : Setting β)
    (members : Named Json)
    (overrides : List (Text × Json)) :
    Option Json :=
  (f.override? overrides).or (f.given? members)

/-- The value of a setting: what is asked for, or the default. -/
def chosen
    (f : Setting β)
    (members : Named Json)
    (overrides : List (Text × Json)) :
    Except SettingsError β :=
  match f.asked? members overrides with
  | some v => f.read v
  | none => .ok (f.get {})

theorem lookup_overrideTargets_iff
    (f : Setting β)
    (key : Text) :
    Settings.overrideTargets.lookup key = some f.place ↔ f.overrideKeys.contains key = true := by
  rw [lookup_eq_some_iff_mem (by decide +kernel), List.contains_iff_mem]
  cases f <;>
    simp [Settings.overrideTargets, place, overrideKeys, Text.ofString_inj]

/-- The overrides of a place are those under the names of its setting. -/
theorem filterMap_of_readOverrides
    {overrides : List (Text × Json)}
    {laid : List Settings.Override}
    (h : Settings.readOverrides overrides = .ok laid)
    (f : Setting β) :
    (laid.filterMap fun o => if o.place = f.place then some o.value else none)
      = overrides.filterMap fun o =>
        if f.overrideKeys.contains o.1 then o.2.present? else none := by
  fun_induction Settings.readOverrides overrides generalizing laid with
  | case1 =>
      cases h
      rfl
  | case2 key rest ih => simpa [Json.present?] using ih h
  | case3 key value rest hvalue hunknown => cases h
  | case4 key value rest hvalue place hknown ih =>
      obtain ⟨tail, htail, hlaid⟩ := bind_eq_ok_iff.mp h
      cases hlaid
      have hplace : place = f.place ↔ f.overrideKeys.contains key = true := by
        rw [← lookup_overrideTargets_iff, hknown, Option.some.injEq]
      have hpresent : value.present? = some value := by
        cases value with
        | null => exact absurd rfl hvalue
        | bool _ | int _ | real _ | text _ | list _ | object _ => rfl
      rw [List.filterMap_cons, List.filterMap_cons, ih htail]
      simp only [hplace, hpresent]

end Setting

/-- The section that overrides give to a name, unless it is empty. -/
def Settings.overrideSection?
    (laid : List Override)
    (name : Text) :
    Option Json :=
  if (sectionMembers laid name).isEmpty then none
  else some (.object (sectionMembers laid name))

/-- The members of the sections that overrides are sorted into. -/
theorem Settings.entries?_overrideSections
    (laid : List Override)
    {name : Text}
    (hname : name ∈ sectionNames) :
    entries? (overrideSections laid) name = some (sectionMembers laid name) := by
  have hsections : overrideSections laid
      = sectionNames.filterMap fun n => (overrideSection? laid n).map fun v => (n, v) := by
    unfold overrideSections
    refine List.filterMap_congr fun n _ => ?_
    unfold overrideSection?
    cases sectionMembers laid n <;> rfl
  rw [entries?, hsections, Named.find?_filterMap, if_pos hname, overrideSection?]
  cases sectionMembers laid name <;> rfl

namespace Setting

variable {β : Type}

/-- Sorted overrides give a setting the last value for its place. -/
theorem given?_overrideSections
    (f : Setting β)
    (laid : List Settings.Override) :
    f.given? (Settings.overrideSections laid)
      = (laid.filterMap fun o => if o.place = f.place then some o.value else none).getLast? := by
  rw [given?, Settings.entries?_overrideSections laid f.section_mem, Option.bind_some,
    Settings.sectionMembers, Named.find?_ofList, List.filterMap_filterMap]
  congr 2
  funext o
  by_cases hsection : o.place.1 = f.place.1 <;> simp [hsection, Prod.ext_iff]

end Setting

/-- The members of the object that a source of settings holds; other documents have none. -/
inductive SettingsSource.Holds
    (limits : Limits)
    (fs : FileSystem) :
    SettingsSource → Named Json → Prop
  | defaults : Holds limits fs .defaults []
  | document
      {members : Named Json} :
      Holds limits fs (.document (.object members)) members
  | file
      {path : Path}
      {document : Json}
      (read : Settings.fileDocument limits fs path = .ok document) :
      Holds limits fs (.file path) document.members

namespace Settings

variable {limits : Limits} {fs : FileSystem} {source : SettingsSource}
variable {overrides : List (Text × Json)} {s : Settings}

/-- What loading settings takes. -/
theorem load_eq_ok_iff :
    load limits fs source overrides = .ok s ↔
      ∃ base laid, ofSource limits fs source = .ok base ∧ readOverrides overrides = .ok laid
        ∧ base.overlay (overrideSections laid) = .ok s ∧ s.validate = .ok () := by
  simp only [load, bind_eq_ok_iff, mapError_eq_ok_iff, pure, Except.pure, Except.ok.injEq]
  constructor
  · rintro ⟨base, hbase, laid, hlaid, _, hoverlay, _, hvalid, rfl⟩
    exact ⟨base, laid, hbase, hlaid, hoverlay, hvalid⟩
  · rintro ⟨base, laid, hbase, hlaid, hoverlay, hvalid⟩
    exact ⟨base, hbase, laid, hlaid, s, hoverlay, (), hvalid, rfl⟩

theorem validate_of_load
    (h : load limits fs source overrides = .ok s) :
    s.validate = .ok () := by
  obtain ⟨_, _, _, _, _, hvalid⟩ := load_eq_ok_iff.mp h
  exact hvalid

/-- The members of a file are laid over the defaults. -/
theorem overlay_of_ofFileDocument
    {document : Json}
    {base : Settings}
    (h : ofFileDocument document = .ok base) :
    overlay {} document.members = .ok base := by
  cases document with
  | object members => exact h
  | list _ | text _ =>
      -- what is accepted here has no members, and the defaults stay
      simp only [ofFileDocument] at h
      split at h
      · cases h
      · cases h
        rfl
  | null | bool _ | int _ | real _ => cases h

/-- The members of a source are laid over the defaults. -/
theorem overlay_of_ofSource
    {members : Named Json}
    (hsource : source.Holds limits fs members)
    {base : Settings}
    (h : ofSource limits fs source = .ok base) :
    overlay {} members = .ok base := by
  cases hsource with
  | defaults =>
      cases h
      rfl
  | document => exact h
  | @file path document hread =>
      rw [ofSource, ofFile, hread] at h
      exact overlay_of_ofFileDocument h

/-- A source that settings were loaded from holds an object, unless it is settings itself. -/
theorem holds_of_load
    (h : load limits fs source overrides = .ok s)
    (hsource : ∀ given, source ≠ .settings given) :
    ∃ members, source.Holds limits fs members := by
  obtain ⟨base, _, hbase, _⟩ := load_eq_ok_iff.mp h
  cases source with
  | defaults => exact ⟨_, .defaults⟩
  | settings given => exact absurd rfl (hsource given)
  | document document =>
      cases document with
      | object members => exact ⟨_, .document⟩
      | null | bool _ | int _ | real _ | text _ | list _ => cases hbase
  | file path =>
      rw [ofSource, ofFile] at hbase
      obtain ⟨document, hread, _⟩ := bind_eq_ok_iff.mp hbase
      exact ⟨_, .file hread⟩

/-- Settings that were loaded take overrides as their source does. -/
theorem load_settings
    (h : load limits fs source [] = .ok s)
    (overrides : List (Text × Json)) :
    load limits fs (.settings s) overrides = load limits fs source overrides := by
  obtain ⟨base, laid, hbase, hlaid, hoverlay, _⟩ := load_eq_ok_iff.mp h
  cases hlaid
  obtain rfl : base = s := Except.ok.inj hoverlay
  simp only [load, hbase]
  rfl

end Settings

/-- Loaded settings have for every setting the value chosen by overrides, document and default. -/
theorem Setting.chosen_of_load
    {β : Type}
    {limits : Limits}
    {fs : FileSystem}
    {source : SettingsSource}
    {members : Named Json}
    {overrides : List (Text × Json)}
    {s : Settings}
    (hsource : source.Holds limits fs members)
    (h : Settings.load limits fs source overrides = .ok s)
    (f : Setting β) :
    f.chosen members overrides = .ok (f.get s) := by
  obtain ⟨base, laid, hbase, hlaid, hoverlay, _⟩ := Settings.load_eq_ok_iff.mp h
  have hdocument := (Settings.overlay_eq_ok_iff.mp (Settings.overlay_of_ofSource hsource hbase)).2 f
  have hoverrides := (Settings.overlay_eq_ok_iff.mp hoverlay).2 f
  have hgiven : f.given? (Settings.overrideSections laid) = f.override? overrides := by
    rw [f.given?_overrideSections, f.filterMap_of_readOverrides hlaid, override?]
  rw [overlaid, hgiven] at hoverrides
  rw [overlaid] at hdocument
  rw [chosen, asked?]
  cases hover : f.override? overrides with
  | some v => simpa [hover] using hoverrides
  | none =>
      have hkept : f.get base = f.get s := by simpa [hover] using hoverrides
      rw [Option.none_or, ← hkept]
      exact hdocument

/-- Overrides under other names leave a setting as it is. -/
theorem Setting.get_of_load
    {β : Type}
    {limits : Limits}
    {fs : FileSystem}
    {source : SettingsSource}
    {members : Named Json}
    {overrides : List (Text × Json)}
    {s base : Settings}
    (hsource : source.Holds limits fs members)
    (h : Settings.load limits fs source overrides = .ok s)
    (hbase : Settings.load limits fs source [] = .ok base)
    {f : Setting β}
    (hkeys : ∀ o ∈ overrides, o.1 ∉ f.overrideKeys) :
    f.get s = f.get base := by
  have hnone : f.override? overrides = none := by
    rw [override?, List.getLast?_eq_none_iff, List.filterMap_eq_nil_iff]
    exact fun o ho => if_neg (mt List.contains_iff_mem.mp (hkeys o ho))
  have hover : f.chosen members overrides = f.chosen members [] := by
    rw [chosen, asked?, hnone]
    rfl
  exact Except.ok.inj <| calc
    Except.ok (f.get s) = f.chosen members overrides := (chosen_of_load hsource h f).symm
    _ = f.chosen members [] := hover
    _ = .ok (f.get base) := chosen_of_load hsource hbase f

end Diorama
