import Diorama.Config.Load
import Diorama.Proofs.Fallible

/-!
# What settings ask of a document

An object is read section by section, and a section field by field.  Every section that is there has
to be an object itself, and every field that is there has to have a value of its kind.  Taken
together, an object is asked for a list of things in a fixed order, and what it fails with is the
first of them that is not given: the settings that the object is laid over do not matter.

**Main statements.**
* `failsWith_bind`: demands one after the other.
* `failsWith_overlaySection`: one section fails with its own demands.
* `Settings.failsWith_overlay`: an object fails with the demands of its sections.
-/

namespace Diorama

section Demands

variable {δ ε α β : Type} {error? : δ → Option ε}

/-- A computation fails with the first of some demands that is not met, if there is one. -/
def FailsWith
    (error? : δ → Option ε)
    (demands : List δ)
    (x : Except ε α) :
    Prop :=
  errorOf? x = demands.findSome? error?

theorem failsWith_pure
    (a : α) :
    FailsWith error? [] (pure a : Except ε α) :=
  rfl

theorem failsWith_singleton
    {d : δ}
    {x : Except ε α}
    (h : errorOf? x = error? d) :
    FailsWith error? [d] x := by
  simp [FailsWith, h]

theorem failsWith_bind
    {first rest : List δ}
    {x : Except ε α}
    {next : α → Except ε β}
    (hx : FailsWith error? first x)
    (hnext : ∀ a, FailsWith error? rest (next a)) :
    FailsWith error? (first ++ rest) (x >>= next) := by
  rw [FailsWith, List.findSome?_append, ← hx]
  cases x with
  | ok a => exact hnext a
  | error e => rfl

end Demands

/-- The first of some items that is not fine is of a sort. -/
def First
    {α : Type}
    (sort fine : α → Prop)
    (items : List α) :
    Prop :=
  ∃ earlier item later, items = earlier ++ item :: later ∧ sort item ∧ ∀ other ∈ earlier, fine other

theorem first_cons_iff
    {α : Type}
    {sort fine : α → Prop}
    {item : α}
    {rest : List α} :
    First sort fine (item :: rest) ↔ sort item ∨ fine item ∧ First sort fine rest := by
  constructor
  · rintro ⟨earlier, other, later, hitems, hsort, hfine⟩
    cases earlier with
    | nil =>
        cases hitems
        exact .inl hsort
    | cons head earlier =>
        cases hitems
        refine .inr ⟨hfine item List.mem_cons_self, earlier, other, later, rfl, hsort, ?_⟩
        exact fun entry hentry => hfine entry (List.mem_cons_of_mem _ hentry)
  · rintro (hsort | ⟨hitem, earlier, other, later, rfl, hsort, hfine⟩)
    · exact ⟨[], item, rest, rfl, hsort, by simp⟩
    · refine ⟨item :: earlier, other, later, rfl, hsort, ?_⟩
      rintro entry (_ | ⟨_, hentry⟩)
      · exact hitem
      · exact hfine entry hentry

theorem not_first_nil
    {α : Type}
    {sort fine : α → Prop} :
    ¬First sort fine [] := by
  rintro ⟨earlier, item, later, hitems, _⟩
  cases earlier <;> cases hitems

/-- A computation fails with an error of a sort. -/
def Fails
    {ε α : Type}
    (sort : ε → Prop)
    (x : Except ε α) :
    Prop :=
  ∃ e, x = .error e ∧ sort e

theorem fails_bind_iff
    {ε α β : Type}
    {sort : ε → Prop}
    {x : Except ε α}
    {next : α → Except ε β} :
    Fails sort (x >>= next) ↔ Fails sort x ∨ ∃ a, x = .ok a ∧ Fails sort (next a) := by
  cases x with
  | ok a => simp [Fails, bind, Except.bind]
  | error e => simp [Fails, bind, Except.bind]

theorem exists_mem_errorOf?_iff
    {ε α : Type}
    {sort : ε → Prop}
    {x : Except ε α} :
    (∃ e ∈ errorOf? x, sort e) ↔ Fails sort x := by
  simp only [Option.mem_def, errorOf?_eq_some_iff, Fails]

/-- A computation that fails with demands fails with the first that is not met. -/
theorem FailsWith.fails_iff
    {δ ε α : Type}
    {error? : δ → Option ε}
    {demands : List δ}
    {x : Except ε α}
    (h : FailsWith error? demands x)
    (sort : ε → Prop) :
    Fails sort x ↔ First (fun d => ∃ e ∈ error? d, sort e) (fun d => error? d = none) demands := by
  have herror (e : ε) : x = .error e ↔ demands.findSome? error? = some e := by
    rw [← h, errorOf?_eq_some_iff]
  simp only [Fails, herror, List.findSome?_eq_some_iff, First]
  constructor
  · rintro ⟨e, ⟨earlier, d, later, hdemands, hd, hearlier⟩, he⟩
    exact ⟨earlier, d, later, hdemands, ⟨e, hd, he⟩, hearlier⟩
  · rintro ⟨earlier, d, later, hdemands, ⟨e, hd, he⟩, hearlier⟩
    exact ⟨e, ⟨earlier, d, later, hdemands, hd, hearlier⟩, he⟩

/-- What a field of settings may hold. -/
inductive FieldKind
  | whole
  | double
  | vector (label : String)
  | colour (label : String)
  | converter
  | text

/-- A value of a field. -/
abbrev FieldValue := FieldKind × Json

/-- What is wrong with the value of a field. -/
def FieldValue.error? : FieldValue → Option SettingsError
  | (.whole, v) => errorOf? (integerField v)
  | (.double, v) => errorOf? (floatField v)
  | (.vector label, v) => errorOf? (vectorField label v)
  | (.colour label, v) => errorOf? (colourField label v)
  | (.converter, v) => errorOf? (converterField v)
  | (.text, _) => none

/-- The fields of a section, in the order in which they are read. -/
abbrev Fields := List (Text × FieldKind)

/-- The values that the members of a section give to its fields. -/
def Fields.values
    (fields : Fields)
    (members : Named Json) :
    List FieldValue :=
  fields.filterMap fun field => (members.find? field.1).map fun v => (field.2, v)

/-- One field in front of others. -/
theorem failsWith_overlayField
    {α β : Type}
    {members : Named Json}
    {key : Text}
    {kind : FieldKind}
    {rest : Fields}
    {read : Json → Except SettingsError α}
    {current : α}
    {next : α → Except SettingsError β}
    (hread : ∀ v, errorOf? (read v) = FieldValue.error? (kind, v))
    (hnext : ∀ a, FailsWith FieldValue.error? (rest.values members) (next a)) :
    FailsWith FieldValue.error? (Fields.values ((key, kind) :: rest) members)
      (overlayField members key read current >>= next) := by
  have hvalues : Fields.values ((key, kind) :: rest) members
      = ((members.find? key).map fun v => (kind, v)).toList ++ rest.values members := by
    rw [Fields.values, List.filterMap_cons]
    cases members.find? key <;> rfl
  rw [hvalues]
  refine failsWith_bind ?_ hnext
  rw [FailsWith, overlayField]
  cases members.find? key with
  | none => rfl
  | some v => simp [hread]

/-- The fields of the canvas. -/
def CanvasSettings.fields : Fields :=
  [("width", .whole), ("height", .whole), ("background", .colour "canvas.background")]

theorem CanvasSettings.failsWith_overlay
    (s : CanvasSettings)
    (members : Named Json) :
    FailsWith FieldValue.error? (fields.values members) (s.overlay members) :=
  failsWith_overlayField (fun _ => rfl) fun _ =>
    failsWith_overlayField (fun _ => rfl) fun _ =>
      failsWith_overlayField (fun _ => rfl) fun _ => failsWith_pure _

/-- The fields of the light. -/
def LightingSettings.fields : Fields :=
  [("view", .vector "lighting.view"), ("ambient", .vector "lighting.ambient"),
    ("light_position", .vector "lighting.light_position"),
    ("light_color", .vector "lighting.light_color"), ("specular_exponent", .double)]

theorem LightingSettings.failsWith_overlay
    (s : LightingSettings)
    (members : Named Json) :
    FailsWith FieldValue.error? (fields.values members) (s.overlay members) :=
  failsWith_overlayField (fun _ => rfl) fun _ =>
    failsWith_overlayField (fun _ => rfl) fun _ =>
      failsWith_overlayField (fun _ => rfl) fun _ =>
        failsWith_overlayField (fun _ => rfl) fun _ =>
          failsWith_overlayField (fun _ => rfl) fun _ => failsWith_pure _

/-- The fields of the shading. -/
def ShadingSettings.fields : Fields :=
  [("steps", .whole), ("draw_color", .colour "shading.draw_color"),
    ("ambient_reflect", .vector "shading.ambient_reflect"),
    ("diffuse_reflect", .vector "shading.diffuse_reflect"),
    ("specular_reflect", .vector "shading.specular_reflect")]

theorem ShadingSettings.failsWith_overlay
    (s : ShadingSettings)
    (members : Named Json) :
    FailsWith FieldValue.error? (fields.values members) (s.overlay members) :=
  failsWith_overlayField (fun _ => rfl) fun _ =>
    failsWith_overlayField (fun _ => rfl) fun _ =>
      failsWith_overlayField (fun _ => rfl) fun _ =>
        failsWith_overlayField (fun _ => rfl) fun _ =>
          failsWith_overlayField (fun _ => rfl) fun _ => failsWith_pure _

/-- The fields of the output. -/
def OutputSettings.fields : Fields :=
  [("directory", .text), ("basename", .text), ("converter", .converter), ("default_format", .text),
    ("frame_suffix", .text)]

theorem OutputSettings.failsWith_overlay
    (s : OutputSettings)
    (members : Named Json) :
    FailsWith FieldValue.error? (fields.values members) (s.overlay members) :=
  failsWith_overlayField (fun _ => rfl) fun _ =>
    failsWith_overlayField (fun _ => rfl) fun _ =>
      failsWith_overlayField (fun _ => rfl) fun _ =>
        failsWith_overlayField (fun _ => rfl) fun _ =>
          failsWith_overlayField (fun _ => rfl) fun _ => failsWith_pure _

/-- One thing that settings ask of a document: an object for a section, or a value of a field. -/
inductive Demand
  | mapping (name : Text) (v : Json)
  | field (value : FieldValue)

namespace Demand

/-- Why a demand is not met. -/
def error? : Demand → Option LoadError
  | mapping _ (.object _) => none
  | mapping name _ => some (.sectionNotAnObject name)
  | field value => value.error?.map .value

/-- What a section asks of an object, if it is there. -/
def ofSection
    (members : Named Json)
    (name : Text)
    (fields : Fields) :
    List Demand :=
  match members.find? name with
  | none => []
  | some v => mapping name v :: (fields.values v.members).map field

end Demand

/-- A section fails with its own demands. -/
theorem failsWith_overlaySection
    {β : Type}
    {fields : Fields}
    {overlay : β → Named Json → Except SettingsError β}
    (hoverlay : ∀ current entries,
      FailsWith FieldValue.error? (fields.values entries) (overlay current entries))
    (members : Named Json)
    (name : Text)
    (current : β) :
    FailsWith Demand.error? (Demand.ofSection members name fields)
      (Settings.overlaySection members name overlay current) := by
  rw [FailsWith, Settings.overlaySection, Demand.ofSection]
  cases members.find? name with
  | none => rfl
  | some v =>
      cases v with
      | object entries =>
          have hfields := hoverlay current entries
          simp only [errorOf?_mapError]
          rw [hfields, List.map_findSome?, List.findSome?_cons, List.findSome?_map]
          rfl
      | null | bool _ | int _ | real _ | text _ | list _ => rfl

/-- The sections of settings with their fields, in the order in which they are read. -/
def Settings.sections : List (Text × Fields) :=
  [("canvas", CanvasSettings.fields), ("lighting", LightingSettings.fields),
    ("shading", ShadingSettings.fields), ("output", OutputSettings.fields)]

/-- What settings ask of an object. -/
def Demand.ofMembers
    (members : Named Json) :
    List Demand :=
  Settings.sections.flatMap fun part => ofSection members part.1 part.2

/-- An object fails with the demands of its sections. -/
theorem Settings.failsWith_overlay
    (s : Settings)
    (members : Named Json) :
    FailsWith Demand.error? (Demand.ofMembers members) (s.overlay members) := by
  simp only [Demand.ofMembers, sections, List.flatMap_cons, List.flatMap_nil]
  refine failsWith_bind ?_ fun canvas => failsWith_bind ?_ fun lighting =>
    failsWith_bind ?_ fun shading => failsWith_bind ?_ fun output => failsWith_pure _
  · exact failsWith_overlaySection CanvasSettings.failsWith_overlay members _ _
  · exact failsWith_overlaySection LightingSettings.failsWith_overlay members _ _
  · exact failsWith_overlaySection ShadingSettings.failsWith_overlay members _ _
  · exact failsWith_overlaySection OutputSettings.failsWith_overlay members _ _

end Diorama
