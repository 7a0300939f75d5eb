import Diorama.Proofs.Config.Overrides

/-!
# Files that hold no object

A document that is given directly has to be an object.  The document of a file is not asked for
that: the names of the sections are looked up in it at once.  In a list this finds an item and in a
text a part, and nothing can be read from either; a list or a text without such a name is taken for
an object without members, and its file for one that gives the defaults.

**Main statements.**
* `Settings.occursIn_iff`: what it is to occur in a text.
* `Settings.ofFileDocument_cases`: what becomes of a document that is no object.
* `file_without_object`: which files without an object are refused, and what the others give.
-/

namespace Diorama

/-- A document that is an object. -/
def Json.IsObject
    (v : Json) :
    Prop :=
  ∃ members, v = .object members

/-- Documents besides objects that cannot be asked for sections, or hold the name of one. -/
inductive Json.Refused : Json → Prop
  | null : Refused .null
  | bool (b : Bool) : Refused (.bool b)
  | int (n : Int) : Refused (.int n)
  | real (x : Float) : Refused (.real x)
  | list
      {items : List Json}
      {name : Text}
      (section_name : name ∈ Settings.sectionNames)
      (item : .text name ∈ items) :
      Refused (.list items)
  | text
      {t name : Text}
      (section_name : name ∈ Settings.sectionNames)
      (part : name <:+: t) :
      Refused (.text t)

namespace Settings

/-- Where a text is searched for it is found exactly if it is a part. -/
theorem occursIn_iff
    (part t : Text) :
    occursIn part t = true ↔ part <:+: t := by
  induction t with
  | nil => rw [occursIn, List.isEmpty_iff, List.infix_nil]
  | cons c rest ih =>
      rw [occursIn, Bool.or_eq_true, ih, List.isPrefixOf_iff_prefix, List.infix_cons_iff]

theorem namesSection_iff
    (v : Json) :
    namesSection v = true ↔ ∃ name ∈ sectionNames, v = .text name := by
  cases v with
  | text t => simp [namesSection]
  | _ => simp [namesSection]

theorem refused_list_iff
    (items : List Json) :
    (Json.list items).Refused ↔ items.any namesSection = true := by
  simp only [List.any_eq_true, namesSection_iff]
  constructor
  · rintro (_ | _ | _ | _ | ⟨hname, hitem⟩)
    exact ⟨_, hitem, _, hname, rfl⟩
  · rintro ⟨_, hitem, name, hname, rfl⟩
    exact .list hname hitem

theorem refused_text_iff
    (t : Text) :
    (Json.text t).Refused ↔ (sectionNames.any fun name => occursIn name t) = true := by
  simp only [List.any_eq_true, occursIn_iff]
  constructor
  · rintro (_ | _ | _ | _ | _ | ⟨hname, hpart⟩)
    exact ⟨_, hname, hpart⟩
  · rintro ⟨name, hname, hpart⟩
    exact .text hname hpart

/-- What the settings of a document that is no object are. -/
theorem ofFileDocument_cases
    {v : Json}
    (hv : ¬v.IsObject) :
    v.Refused ∧ (∃ e, ofFileDocument v = .error e ∧ e.errorClass = .type)
      ∨ ¬v.Refused ∧ ofFileDocument v = .ok {} := by
  cases v with
  | null => exact .inl ⟨.null, _, rfl, rfl⟩
  | bool b => exact .inl ⟨.bool b, _, rfl, rfl⟩
  | int n => exact .inl ⟨.int n, _, rfl, rfl⟩
  | real x => exact .inl ⟨.real x, _, rfl, rfl⟩
  | list items =>
      rw [refused_list_iff, ofFileDocument]
      split
      · rename_i hnames
        exact .inl ⟨hnames, _, rfl, rfl⟩
      · rename_i hnone
        exact .inr ⟨hnone, rfl⟩
  | text t =>
      rw [refused_text_iff, ofFileDocument]
      split
      · rename_i hnames
        exact .inl ⟨hnames, _, rfl, rfl⟩
      · rename_i hnone
        exact .inr ⟨hnone, rfl⟩
  | object members => exact absurd ⟨members, rfl⟩ hv

/-- Without overrides the defaults are loaded as they are. -/
theorem load_defaults
    (limits : Limits)
    (fs : FileSystem) :
    load limits fs .defaults [] = .ok {} := by
  have hvalid : (validate {}).isOk = true := by decide +kernel
  obtain ⟨_, hvalid⟩ := exists_ok_of_isOk hvalid
  exact load_eq_ok_iff.mpr ⟨{}, [], rfl, rfl, rfl, hvalid⟩

/-- What is loaded depends on the source through its settings only. -/
theorem load_congr
    {limits : Limits}
    {fs : FileSystem}
    {source source' : SettingsSource}
    (h : ofSource limits fs source = ofSource limits fs source')
    (overrides : List (Text × Json)) :
    load limits fs source overrides = load limits fs source' overrides := by
  unfold load
  rw [h]

theorem load_of_error
    {limits : Limits}
    {fs : FileSystem}
    {source : SettingsSource}
    {e : LoadError}
    (h : ofSource limits fs source = .error e)
    (overrides : List (Text × Json)) :
    load limits fs source overrides = .error e := by
  unfold load
  rw [h]
  rfl

theorem ofSource_file
    {limits : Limits}
    {fs : FileSystem}
    {path : Path}
    {v : Json}
    (hread : fileDocument limits fs path = .ok v) :
    ofSource limits fs (.file path) = ofFileDocument v := by
  rw [ofSource, ofFile, hread]
  rfl

theorem ofSource_document
    (limits : Limits)
    (fs : FileSystem)
    {v : Json}
    (hv : ¬v.IsObject) :
    ofSource limits fs (.document v) = .error .unknownSource := by
  cases v with
  | object members => exact absurd ⟨members, rfl⟩ hv
  | _ => rfl

end Settings

/--
A file whose document is no object is refused as an error of type, as the document itself always is,
if the document cannot be asked for sections or holds the name of one.  Any other such file is
loaded as if there were none.
-/
theorem file_without_object
    {limits : Limits}
    {fs : FileSystem}
    {path : Path}
    {v : Json}
    (hread : Settings.fileDocument limits fs path = .ok v)
    (hv : ¬v.IsObject)
    (overrides : List (Text × Json)) :
    (v.Refused →
        ∃ e, Settings.load limits fs (.file path) overrides = .error e ∧ e.errorClass = .type)
      ∧ (¬v.Refused → Settings.load limits fs (.file path) overrides
        = Settings.load limits fs .defaults overrides)
      ∧ ((∃ s, Settings.load limits fs (.file path) [] = .ok s) ↔ ¬v.Refused)
      ∧ Settings.load limits fs (.document v) overrides = .error .unknownSource := by
  have hsource := Settings.ofSource_file hread
  have hdocument := Settings.load_of_error (Settings.ofSource_document limits fs hv) overrides
  rcases Settings.ofFileDocument_cases hv with ⟨hrefused, e, he, htype⟩ | ⟨htaken, hok⟩
  · have hload := Settings.load_of_error (hsource.trans he)
    refine ⟨fun _ => ⟨e, hload overrides, htype⟩, fun h => absurd hrefused h, ?_, hdocument⟩
    simp [hload, hrefused]
  · have hdefaults : Settings.ofSource limits fs (.file path)
        = Settings.ofSource limits fs .defaults := hsource.trans hok
    have hload := Settings.load_congr hdefaults
    refine ⟨fun h => absurd h htaken, fun _ => hload overrides, ?_, hdocument⟩
    exact iff_of_true ⟨_, (hload []).trans (Settings.load_defaults limits fs)⟩ htaken

/-- The items of a list of texts. -/
def Json.texts? : List Json → Option (List Text)
  | [] => some []
  | .text t :: items => (texts? items).map (t :: ·)
  | _ :: _ => none

theorem Json.eq_map_text
    {items : List Json}
    {ts : List Text}
    (h : texts? items = some ts) :
    items = ts.map .text := by
  induction items generalizing ts with
  | nil =>
      obtain rfl : [] = ts := Option.some.inj h
      rfl
  | cons item items ih =>
      cases item with
      | text t =>
          obtain ⟨rest, hrest, rfl⟩ := Option.map_eq_some_iff.mp h
          rw [List.map_cons, ih hrest]
      | _ => cases h

/-- The texts of a file that holds a list of texts. -/
def Settings.fileTexts?
    (limits : Limits)
    (fs : FileSystem)
    (path : Path) :
    Option (List Text) :=
  match fileDocument limits fs path with
  | .ok (.list items) => Json.texts? items
  | _ => none

theorem Settings.fileDocument_of_fileTexts?
    {limits : Limits}
    {fs : FileSystem}
    {path : Path}
    {ts : List Text}
    (h : fileTexts? limits fs path = some ts) :
    fileDocument limits fs path = .ok (.list (ts.map .text)) := by
  unfold fileTexts? at h
  split at h
  · rename_i items hread
    rw [hread, Json.eq_map_text h]
  · cases h

/-- A list with the name of a section is refused. -/
theorem file_without_object_canvas :
    let fs := FileSystem.holdingSettings "[\"canvas\"]"
    ∃ v, Settings.fileDocument {} fs (Path.ofText "c.json") = .ok v ∧ ¬v.IsObject ∧ v.Refused
      ∧ ∃ e, Settings.load {} fs (.file (Path.ofText "c.json")) [] = .error e
        ∧ e.errorClass = .type := by
  intro fs
  have htexts : Settings.fileTexts? {} fs (Path.ofText "c.json") = some [("canvas" : Text)] := by
    decide +kernel
  have hread := Settings.fileDocument_of_fileTexts? htexts
  have hv : ¬(Json.list [.text ("canvas" : Text)]).IsObject := nofun
  have hname : ("canvas" : Text) ∈ Settings.sectionNames := by simp [Settings.sectionNames]
  have hrefused : (Json.list [.text ("canvas" : Text)]).Refused := .list hname List.mem_cons_self
  exact ⟨_, hread, hv, hrefused, (file_without_object hread hv []).1 hrefused⟩

/-- An empty list is taken for the defaults. -/
theorem file_without_object_empty_list :
    let fs := FileSystem.holdingSettings "[]"
    Settings.fileDocument {} fs (Path.ofText "c.json") = .ok (.list [])
      ∧ Settings.load {} fs (.file (Path.ofText "c.json")) [] = .ok {} := by
  intro fs
  have htexts : Settings.fileTexts? {} fs (Path.ofText "c.json") = some [] := by decide +kernel
  have hread := Settings.fileDocument_of_fileTexts? htexts
  have hsource : Settings.ofSource {} fs (.file (Path.ofText "c.json"))
      = Settings.ofSource {} fs .defaults := Settings.ofSource_file hread
  exact ⟨hread, (Settings.load_congr hsource []).trans (Settings.load_defaults {} fs)⟩

end Diorama
