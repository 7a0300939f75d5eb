import Diorama.Config.Objects
import Diorama.Proofs.Config.Overrides
import Mathlib.Logic.Function.Basic

/-!
# Loading into new objects

Loading copies the object that it is given and changes the copy.  So every object there was is what
it was when loading is over, whether it succeeds or fails, and what is loaded refers to new objects
only.  Told by values, it comes to what loading settings comes to.

**Main statements.**
* `Section.foldlM_assignments`: assigning members one by one is laying a section over another.
* `Objects.builds_ofMembers`: the sections of an object are laid over a copy.
* `Objects.builds_load`: what loading comes to, and what it leaves alone.
* `settings_overlaid`: the settings that documents and overrides come to, as values and as objects.
-/

namespace Diorama

/-! ## Sections as values -/

/-- A section of settings. -/
def Settings.part
    (s : Settings) :
    (k : Section) → k.Value
  | .canvas => s.canvas
  | .lighting => s.lighting
  | .shading => s.shading
  | .output => s.output

/-- Settings with another section. -/
def Settings.withPart
    (s : Settings) :
    (k : Section) → k.Value → Settings
  | .canvas, v => { s with canvas := v }
  | .lighting, v => { s with lighting := v }
  | .shading, v => { s with shading := v }
  | .output, v => { s with output := v }

theorem Settings.part_withPart
    (s : Settings)
    (k : Section)
    (v : k.Value) :
    (s.withPart k v).part = Function.update s.part k v := by
  funext other
  cases k <;> cases other <;> rfl

theorem Settings.withPart_part
    (s : Settings)
    (k : Section) :
    s.withPart k (s.part k) = s := by
  cases k <;> rfl

namespace Section

/-- A section with members laid over it. -/
def overlay : (k : Section) → k.Value → Named Json → Except SettingsError k.Value
  | canvas => CanvasSettings.overlay
  | lighting => LightingSettings.overlay
  | shading => ShadingSettings.overlay
  | output => OutputSettings.overlay

/-- One member of a section, if it is there. -/
def assigned
    {S : Type}
    (entries : Named Json)
    (s : S)
    (a : Assignment S) :
    Except SettingsError S :=
  match entries.find? a.key with
  | none => .ok s
  | some v => a.assign v s

/-- The first of some members, where assigning the value that is there changes nothing. -/
theorem foldlM_cons_eq
    {S β : Type}
    {entries : Named Json}
    {key : Text}
    {read : Json → Except SettingsError β}
    {put : β → S → S}
    {rest : List (Assignment S)}
    {next : β → Except SettingsError S}
    {s : S}
    (get : S → β)
    (hkept : put (get s) s = s)
    (hrest : ∀ v, rest.foldlM (assigned entries) (put v s) = next v) :
    (.of key read put :: rest).foldlM (assigned entries) s
      = overlayField entries key read (get s) >>= next := by
  simp only [List.foldlM_cons, assigned, overlayField, Assignment.of]
  cases entries.find? key with
  | none => exact (congrArg (rest.foldlM (assigned entries)) hkept).symm.trans (hrest _)
  | some v => exact (bind_assoc _ _ _).trans (bind_congr hrest)

/-- Assigning members one by one is laying a section over another. -/
theorem foldlM_assignments
    (k : Section)
    (s : k.Value)
    (entries : Named Json) :
    k.assignments.foldlM (assigned entries) s = k.overlay s entries := by
  cases k with
  | canvas =>
      refine foldlM_cons_eq CanvasSettings.width rfl fun _ => ?_
      refine foldlM_cons_eq CanvasSettings.height rfl fun _ => ?_
      refine foldlM_cons_eq CanvasSettings.background rfl fun _ => ?_
      rfl
  | lighting =>
      refine foldlM_cons_eq LightingSettings.view rfl fun _ => ?_
      refine foldlM_cons_eq LightingSettings.ambient rfl fun _ => ?_
      refine foldlM_cons_eq LightingSettings.lightPosition rfl fun _ => ?_
      refine foldlM_cons_eq LightingSettings.lightColor rfl fun _ => ?_
      refine foldlM_cons_eq LightingSettings.specularExponent rfl fun _ => ?_
      rfl
  | shading =>
      refine foldlM_cons_eq ShadingSettings.steps rfl fun _ => ?_
      refine foldlM_cons_eq ShadingSettings.drawColor rfl fun _ => ?_
      refine foldlM_cons_eq ShadingSettings.ambientReflect rfl fun _ => ?_
      refine foldlM_cons_eq ShadingSettings.diffuseReflect rfl fun _ => ?_
      refine foldlM_cons_eq ShadingSettings.specularReflect rfl fun _ => ?_
      rfl
  | output =>
      refine foldlM_cons_eq OutputSettings.directory rfl fun _ => ?_
      refine foldlM_cons_eq OutputSettings.basename rfl fun _ => ?_
      refine foldlM_cons_eq OutputSettings.converter rfl fun _ => ?_
      refine foldlM_cons_eq OutputSettings.defaultFormat rfl fun _ => ?_
      refine foldlM_cons_eq OutputSettings.frameSuffix rfl fun _ => ?_
      rfl

end Section

/-- One section of an object laid over settings. -/
def Settings.overlayPart
    (s : Settings)
    (members : Named Json)
    (k : Section) :
    Except LoadError Settings := do
  return s.withPart k (← overlaySection members k.name k.overlay (s.part k))

theorem Settings.foldlM_overlayPart
    (s : Settings)
    (members : Named Json) :
    Section.all.foldlM (fun s k => s.overlayPart members k) s = s.overlay members := by
  simp only [Section.all, List.foldlM_cons, List.foldlM_nil, overlayPart, bind_assoc, pure_bind]
  rfl

/-! ## Objects as values -/

namespace Heap

/-- An object stands for settings. -/
def Holds
    (heap : Heap)
    (ref : Ref)
    (s : Settings) :
    Prop :=
  ∃ parts, heap[ref]? = some (.config parts) ∧ ∀ k, heap[parts k]? = some (.part k (s.part k))

/-- What was there is there, at the same place and unchanged. -/
theorem getElem?_of_prefix
    {start heap : Heap}
    (h : start <+: heap)
    {ref : Ref}
    {object : ConfigObject}
    (hobject : start[ref]? = some object) :
    heap[ref]? = some object := by
  obtain ⟨more, rfl⟩ := h
  have hlt := (List.getElem?_eq_some_iff.mp hobject).1
  rw [List.getElem?_append_left hlt, hobject]

theorem Holds.of_prefix
    {start heap : Heap}
    (h : start <+: heap)
    {ref : Ref}
    {s : Settings}
    (hholds : start.Holds ref s) :
    heap.Holds ref s := by
  obtain ⟨parts, hconfig, hparts⟩ := hholds
  exact ⟨parts, getElem?_of_prefix h hconfig, fun k => getElem?_of_prefix h (hparts k)⟩

/-- Objects are changed behind the end of an earlier heap. -/
theorem prefix_set
    {start heap : Heap}
    (h : start <+: heap)
    {ref : Ref}
    (hfresh : start.length ≤ ref)
    (object : ConfigObject) :
    start <+: heap.set ref object := by
  obtain ⟨more, rfl⟩ := h
  rw [List.set_append_right _ _ hfresh]
  exact List.prefix_append _ _

end Heap

/-- New settings: what was there is unchanged, and they refer to new objects only. -/
structure Draft
    (start heap : Heap)
    (ref : Ref)
    (s : Settings) : Prop where
  grows : start <+: heap
  fresh : start.length ≤ ref
  holds : ∃ parts, heap[ref]? = some (.config parts)
    ∧ ∀ k, start.length ≤ parts k ∧ heap[parts k]? = some (.part k (s.part k))

theorem Draft.toHolds
    {start heap : Heap}
    {ref : Ref}
    {s : Settings}
    (h : Draft start heap ref s) :
    heap.Holds ref s := by
  obtain ⟨parts, hconfig, hparts⟩ := h.holds
  exact ⟨parts, hconfig, fun k => (hparts k).2⟩

/--
A computation on objects ends as one on values does; it leaves what was there, and comes to new
settings if it succeeds.
-/
def Builds
    {β : Type}
    (start : Heap)
    (ref : β → Ref) :
    EStateM.Result LoadError Heap β → Except LoadError Settings → Prop
  | .ok b heap, .ok s => Draft start heap (ref b) s
  | .error e heap, .error e' => e = e' ∧ start <+: heap
  | _, _ => False

theorem Builds.bind
    {β γ : Type}
    {start heap : Heap}
    {ref : β → Ref}
    {ref' : γ → Ref}
    {step : Objects β}
    {next : β → Objects γ}
    {value : Except LoadError Settings}
    {nextValue : Settings → Except LoadError Settings}
    (h : Builds start ref (step heap) value)
    (hnext : ∀ b mid s, Draft start mid (ref b) s →
      Builds start ref' (next b mid) (nextValue s)) :
    Builds start ref' ((step >>= next) heap) (value >>= nextValue) := by
  simp only [Bind.bind, EStateM.bind, Except.bind]
  generalize step heap = result at h
  cases result with
  | ok b mid =>
      cases value with
      | ok s => exact hnext b mid s h
      | error e => exact h.elim
  | error e mid =>
      cases value with
      | ok s => exact h.elim
      | error e' => exact h

/-- Giving out what was changed. -/
theorem Builds.returning
    {start heap : Heap}
    {ref : Ref}
    {step : Objects Unit}
    {value : Except LoadError Settings}
    (h : Builds start (fun _ => ref) (step heap) value) :
    Builds start id ((step >>= fun _ => pure ref) heap) value := by
  simp only [Bind.bind, EStateM.bind]
  generalize step heap = result at h
  cases result with
  | ok _ mid | error e mid => cases value <;> exact h

namespace Objects

variable {start heap : Heap} {ref : Ref} {s : Settings} {k : Section}

theorem bind_of_ok
    {β γ : Type}
    {mid : Heap}
    {step : Objects β}
    {b : β}
    (h : step heap = .ok b mid)
    (next : β → Objects γ) :
    (step >>= next) heap = next b mid := by
  simp only [Bind.bind, EStateM.bind, h]

theorem bind_of_error
    {β γ : Type}
    {mid : Heap}
    {step : Objects β}
    {e : LoadError}
    (h : step heap = .error e mid)
    (next : β → Objects γ) :
    (step >>= next) heap = .error e mid := by
  simp only [Bind.bind, EStateM.bind, h]

theorem get_eq_ok
    {β : Type}
    {object : ConfigObject}
    {view? : ConfigObject → Option β}
    {b : β}
    (hobject : heap[ref]? = some object)
    (hview : view? object = some b) :
    get ref view? heap = .ok b heap := by
  simp only [get, hobject, Option.bind_some, hview]

theorem value?_part
    (k : Section)
    (v : k.Value) :
    (ConfigObject.part k v).value? k = some v := by
  simp [ConfigObject.value?]

theorem copyPart_eq_ok
    {v : k.Value}
    (hpart : heap[ref]? = some (.part k v)) :
    copyPart k ref heap = .ok heap.length (heap ++ [.part k v]) := by
  rw [copyPart, bind_of_ok (get_eq_ok hpart (value?_part k v))]
  rfl

/-- Settings that are assembled of new sections are new. -/
theorem builds_assemble
    {part : Section → Objects Ref}
    (hgrows : start <+: heap)
    (hpart : ∀ k mid, heap <+: mid →
      part k mid = .ok mid.length (mid ++ [.part k (s.part k)])) :
    Builds start id (assemble part heap) (.ok s) := by
  have hmade (mid : Heap) : heap <+: heap ++ mid := List.prefix_append heap mid
  rw [assemble, bind_of_ok (hpart .canvas heap (List.prefix_refl heap)),
    bind_of_ok (hpart .lighting _ (hmade _)), List.append_assoc,
    bind_of_ok (hpart .shading _ (hmade _)), List.append_assoc,
    bind_of_ok (hpart .output _ (hmade _)), List.append_assoc]
  obtain ⟨more, rfl⟩ := hgrows
  refine ⟨?_, ?_, _, List.getElem?_concat_length, fun k => ?_⟩
  · simp only [List.append_assoc]
    exact List.prefix_append _ _
  · simp only [id, List.length_append]
    omega
  · cases k <;> simp [Section.among]

theorem parts?_config
    (parts : Section → Ref) :
    (ConfigObject.config parts).parts? = some parts :=
  rfl

/-- A copy stands for the same settings. -/
theorem builds_copy
    (hgrows : start <+: heap)
    (hholds : heap.Holds ref s) :
    Builds start id (copy ref heap) (.ok s) := by
  obtain ⟨parts, hconfig, hparts⟩ := hholds
  rw [copy, bind_of_ok (get_eq_ok hconfig (parts?_config parts))]
  exact builds_assemble hgrows fun k mid hmid =>
    copyPart_eq_ok (Heap.getElem?_of_prefix hmid (hparts k))

theorem builds_new
    (hgrows : start <+: heap) :
    Builds start id (new heap) (.ok {}) :=
  builds_assemble hgrows fun k mid _ => by cases k <;> rfl

/-- A member is assigned to the newest object, and only to it. -/
theorem assign_cases
    (heap : Heap)
    (entries : Named Json)
    (a : Assignment k.Value)
    (v : k.Value) :
    (∃ v', Section.assigned entries v a = .ok v'
        ∧ assign k heap.length entries a (heap ++ [.part k v]) = .ok () (heap ++ [.part k v']))
      ∨ ∃ e, Section.assigned entries v a = .error e
        ∧ assign k heap.length entries a (heap ++ [.part k v])
          = .error (.value e) (heap ++ [.part k v]) := by
  simp only [Section.assigned, assign]
  cases entries.find? a.key with
  | none => exact .inl ⟨v, rfl, rfl⟩
  | some member =>
      simp only
      rw [bind_of_ok (get_eq_ok List.getElem?_concat_length (value?_part k v))]
      cases a.assign member v with
      | error e => exact .inr ⟨e, rfl, rfl⟩
      | ok v' =>
          refine .inl ⟨v', rfl, congrArg (EStateM.Result.ok ()) ?_⟩
          rw [List.set_append_right _ _ (Nat.le_refl _), Nat.sub_self]
          rfl

/-- Members are assigned to the newest object one by one. -/
theorem forM_assign
    (heap : Heap)
    (entries : Named Json)
    (assignments : List (Assignment k.Value))
    (v : k.Value) :
    (∃ v', assignments.foldlM (Section.assigned entries) v = .ok v'
        ∧ assignments.forM (assign k heap.length entries) (heap ++ [.part k v])
          = .ok () (heap ++ [.part k v']))
      ∨ ∃ e v', assignments.foldlM (Section.assigned entries) v = .error e
        ∧ assignments.forM (assign k heap.length entries) (heap ++ [.part k v])
          = .error (.value e) (heap ++ [.part k v']) := by
  induction assignments generalizing v with
  | nil => exact .inl ⟨v, rfl, rfl⟩
  | cons a rest ih =>
      rw [List.foldlM_cons, List.forM_eq_forM, List.forM_cons]
      rcases assign_cases heap entries a v with ⟨v', hvalue, hassign⟩ | ⟨e, hvalue, hassign⟩
      · rw [hvalue, bind_of_ok hassign]
        exact ih v'
      · rw [hvalue, bind_of_error hassign]
        exact .inr ⟨e, v, rfl, rfl⟩

/-- A copy of a section with members laid over it is a new object; no other one is changed. -/
theorem partOfEntries_cases
    {v : k.Value}
    (hpart : heap[ref]? = some (.part k v))
    (entries : Named Json) :
    (∃ v', k.overlay v entries = .ok v'
        ∧ partOfEntries k entries ref heap = .ok heap.length (heap ++ [.part k v']))
      ∨ ∃ e v', k.overlay v entries = .error e
        ∧ partOfEntries k entries ref heap = .error (.value e) (heap ++ [.part k v']) := by
  rw [← Section.foldlM_assignments]
  rw [partOfEntries, bind_of_ok (copyPart_eq_ok hpart)]
  rcases forM_assign heap entries k.assignments v with
    ⟨v', hvalue, hforM⟩ | ⟨e, v', hvalue, hforM⟩
  · exact .inl ⟨v', hvalue, bind_of_ok hforM _⟩
  · exact .inr ⟨e, v', hvalue, bind_of_error hforM _⟩

/-- Referring to the newest object for one of the sections. -/
theorem draft_set_append
    (h : Draft start heap ref s)
    {parts : Section → Ref}
    (hconfig : heap[ref]? = some (.config parts))
    (hparts : ∀ k, start.length ≤ parts k ∧ heap[parts k]? = some (.part k (s.part k)))
    (k : Section)
    (v : k.Value) :
    Draft start
      ((heap ++ [ConfigObject.part k v]).set ref
        (.config fun other => if other = k then heap.length else parts other))
      ref (s.withPart k v) := by
  have hlt : ref < heap.length := (List.getElem?_eq_some_iff.mp hconfig).1
  refine ⟨Heap.prefix_set (h.grows.trans (List.prefix_append _ _)) h.fresh _, h.fresh, _,
    List.getElem?_set_self ?_, fun other => ?_⟩
  · exact Nat.lt_of_lt_of_le hlt (List.prefix_append _ _).length_le
  rw [Settings.part_withPart]
  by_cases hother : other = k
  · subst hother
    rw [if_pos rfl, Function.update_self, List.getElem?_set_ne (Nat.ne_of_lt hlt)]
    exact ⟨h.grows.length_le, List.getElem?_concat_length⟩
  · -- a section is no settings object, so its own object is not the one that is set
    have hne : ref ≠ parts other := by
      rintro rfl
      cases hconfig.symm.trans (hparts other).2
    rw [if_neg hother, Function.update_of_ne hother, List.getElem?_set_ne hne]
    exact ⟨(hparts other).1, Heap.getElem?_of_prefix (List.prefix_append _ _) (hparts other).2⟩

/-- One section of an object is laid over new settings. -/
theorem builds_layPart
    (members : Named Json)
    (h : Draft start heap ref s)
    (k : Section) :
    Builds start (fun _ => ref) (layPart members ref k heap) (s.overlayPart members k) := by
  simp only [layPart, Settings.overlayPart, Settings.overlaySection]
  cases members.find? k.name with
  | none =>
      change Draft start heap ref (s.withPart k (s.part k))
      rwa [Settings.withPart_part]
  | some member =>
      cases member with
      | object entries =>
          obtain ⟨parts, hconfig, hparts⟩ := h.holds
          simp only
          rw [bind_of_ok (get_eq_ok hconfig (parts?_config parts))]
          rcases partOfEntries_cases (hparts k).2 entries with
            ⟨v, hvalue, hlaid⟩ | ⟨e, v, hvalue, hlaid⟩
          · rw [bind_of_ok hlaid, hvalue]
            exact draft_set_append h hconfig hparts k v
          · rw [bind_of_error hlaid, hvalue]
            exact ⟨rfl, h.grows.trans (List.prefix_append _ _)⟩
      | null | bool _ | int _ | real _ | text _ | list _ => exact ⟨rfl, h.grows⟩

/-- Sections of an object are laid over new settings one after the other. -/
theorem builds_layParts
    (members : Named Json)
    (h : Draft start heap ref s)
    (sections : List Section) :
    Builds start (fun _ => ref) (sections.forM (layPart members ref) heap)
      (sections.foldlM (fun s k => s.overlayPart members k) s) := by
  induction sections generalizing heap s with
  | nil => exact h
  | cons k rest ih =>
      rw [List.forM_eq_forM, List.forM_cons, List.foldlM_cons]
      exact (builds_layPart members h k).bind fun _ _ _ hmid => ih hmid

/-- The sections of an object are laid over a draft. -/
theorem builds_ofMembers
    {current : Option Ref}
    (members : Named Json)
    (hdraft : Builds start id (draft current heap) (.ok s)) :
    Builds start id (ofMembers members current heap) (s.overlay members) := by
  rw [← Settings.foldlM_overlayPart]
  exact hdraft.bind fun ref _ _ hmid => (builds_layParts members hmid Section.all).returning

/-- The sections of an object are laid over new settings, which are copied if there are any. -/
theorem builds_layMembers
    (members : Named Json)
    (h : Draft start heap ref s) :
    Builds start id (layMembers members ref heap) (s.overlay members) := by
  cases members with
  | nil => exact h
  | cons e rest => exact builds_ofMembers _ (builds_copy h.grows h.toHolds)

/-- What a whole file holds is laid over new settings. -/
theorem builds_ofFileDocument
    (hgrows : start <+: heap)
    (document : Json) :
    Builds start id (ofFileDocument document heap) (Settings.ofFileDocument document) := by
  cases document with
  | object members => exact builds_ofMembers members (builds_new hgrows)
  | list _ | text _ =>
      simp only [ofFileDocument, Settings.ofFileDocument]
      split
      · exact ⟨rfl, hgrows⟩
      · exact builds_new hgrows
  | null | bool _ | int _ | real _ => exact ⟨rfl, hgrows⟩

end Objects

/-- A source of objects and the source of values that it comes to. -/
inductive Objects.Source.Denotes
    (heap : Heap) :
    Objects.Source → SettingsSource → Prop
  | defaults : Denotes heap .defaults .defaults
  | object
      {ref : Ref}
      {s : Settings}
      (holds : heap.Holds ref s) :
      Denotes heap (.object ref) (.settings s)
  | document
      (document : Json) :
      Denotes heap (.document document) (.document document)
  | file
      (path : Path) :
      Denotes heap (.file path) (.file path)

namespace Objects

variable {start heap : Heap} {ref : Ref} {s : Settings}

theorem builds_ofSource
    (limits : Limits)
    (fs : FileSystem)
    {source : Source}
    {value : SettingsSource}
    (hdenotes : source.Denotes heap value)
    (hgrows : start <+: heap) :
    Builds start id (ofSource limits fs source heap) (Settings.ofSource limits fs value) := by
  cases hdenotes with
  | defaults => exact builds_new hgrows
  | object hholds => exact builds_copy hgrows hholds
  | document document =>
      cases document with
      | object members => exact builds_ofMembers members (builds_new hgrows)
      | null | bool _ | int _ | real _ | text _ | list _ => exact ⟨rfl, hgrows⟩
  | file path =>
      simp only [ofSource, Settings.ofSource, Settings.ofFile]
      cases Settings.fileDocument limits fs path with
      | error e => exact ⟨rfl, hgrows⟩
      | ok document => exact builds_ofFileDocument hgrows document

/-- Settings are read off the objects that stand for them. -/
theorem read_eq_ok
    (hholds : heap.Holds ref s) :
    read ref heap = .ok s heap := by
  obtain ⟨parts, hconfig, hparts⟩ := hholds
  have hpart (k : Section) : get (parts k) (ConfigObject.value? k) heap = .ok (s.part k) heap :=
    get_eq_ok (hparts k) (value?_part k (s.part k))
  rw [read, bind_of_ok (get_eq_ok hconfig (parts?_config parts)), bind_of_ok (hpart .canvas),
    bind_of_ok (hpart .lighting), bind_of_ok (hpart .shading), bind_of_ok (hpart .output)]
  rfl

/--
Loading makes new objects, for the settings that loading comes to by values, and leaves all objects
that there were as they are.
-/
theorem builds_load
    (limits : Limits)
    (fs : FileSystem)
    {source : Source}
    {value : SettingsSource}
    (hdenotes : source.Denotes heap value)
    (overrides : List (Text × Json)) :
    Builds heap id (load limits fs source overrides heap)
      (Settings.load limits fs value overrides) := by
  rw [load, Settings.load]
  refine (builds_ofSource limits fs hdenotes (List.prefix_refl heap)).bind fun ref mid s hmid => ?_
  cases Settings.readOverrides overrides with
  | error e => exact ⟨rfl, hmid.grows⟩
  | ok laid =>
      have hlaid := builds_layMembers (Settings.overrideSections laid) hmid
      refine hlaid.bind fun ref last s hlast => ?_
      have hread : read ref last = .ok s last := read_eq_ok hlast.toHolds
      rw [bind_of_ok hread]
      cases s.validate with
      | error e => exact ⟨rfl, hlast.grows⟩
      | ok _ => exact hlast

end Objects

/-- The objects there are when a computation is over. -/
def Objects.heapOf
    {β : Type} :
    EStateM.Result LoadError Heap β → Heap
  | .ok _ heap => heap
  | .error _ heap => heap

/-- What was there is there when the computation is over. -/
theorem Builds.prefix_heapOf
    {β : Type}
    {start : Heap}
    {ref : β → Ref}
    {result : EStateM.Result LoadError Heap β}
    {value : Except LoadError Settings}
    (h : Builds start ref result value) :
    start <+: Objects.heapOf result := by
  cases result with
  | ok b heap =>
      cases value with
      | ok s => exact Draft.grows h
      | error e => exact h.elim
  | error e heap =>
      cases value with
      | ok s => exact h.elim
      | error e' => exact h.2

/-- What ends well by values ends well by objects. -/
theorem Builds.exists_draft
    {β : Type}
    {start : Heap}
    {ref : β → Ref}
    {result : EStateM.Result LoadError Heap β}
    {s : Settings}
    (h : Builds start ref result (.ok s)) :
    ∃ b heap, result = .ok b heap ∧ Draft start heap (ref b) s := by
  cases result with
  | ok b heap => exact ⟨b, heap, rfl, h⟩
  | error e heap => exact h.elim

/--
What is loaded from an object are the settings that have for every setting the value of the last
override of it that is there, read as its kind; else the value in its section; else the default.
Where the object itself loads, overrides touch no setting but their own, and the settings loaded
from it take overrides, and refuse them, as the object does; without overrides they load as they
are.  Whatever is loaded, and whether it is loaded or refused, all settings objects that there were
stand for what they stood for, the one that overrides were laid over among them; what is loaded is
a new object.
-/
theorem settings_overlaid
    (limits : Limits)
    (fs : FileSystem)
    (members : Named Json) :
    (∀ overrides s,
      Settings.load limits fs (.document (.object members)) overrides = .ok s →
        ∀ t, t = s ↔ ∀ {β : Type} (f : Setting β), f.chosen members overrides = .ok (f.get t))
      ∧ (∀ base,
        Settings.load limits fs (.document (.object members)) [] = .ok base →
          (∀ overrides s,
            Settings.load limits fs (.document (.object members)) overrides = .ok s →
              ∀ {β : Type} (f : Setting β),
                (∀ o ∈ overrides, o.1 ∉ f.overrideKeys) → f.get s = f.get base)
          ∧ (∀ overrides, Settings.load limits fs (.settings base) overrides
            = Settings.load limits fs (.document (.object members)) overrides)
          ∧ Settings.load limits fs (.settings base) [] = .ok base)
      ∧ ∀ (heap : Heap) (source : Objects.Source) (value : SettingsSource) overrides,
        source.Denotes heap value →
          Builds heap id (Objects.load limits fs source overrides heap)
            (Settings.load limits fs value overrides)
          ∧ ∀ ref kept, heap.Holds ref kept →
            (Objects.heapOf (Objects.load limits fs source overrides heap)).Holds ref kept := by
  refine ⟨fun overrides s h t => ?_, fun base hbase => ?_, fun heap source value overrides h => ?_⟩
  · have hchosen {β : Type} (f : Setting β) := Setting.chosen_of_load .document h f
    constructor
    · rintro rfl
      exact hchosen
    · intro ht
      exact Settings.ext_setting fun f => Except.ok.inj ((ht f).symm.trans (hchosen f))
  · refine ⟨fun overrides s h β f => Setting.get_of_load .document h hbase,
      Settings.load_settings hbase, ?_⟩
    exact (Settings.load_settings hbase []).trans hbase
  · have hbuilds := Objects.builds_load limits fs h overrides
    exact ⟨hbuilds, fun ref kept hkept => hkept.of_prefix hbuilds.prefix_heapOf⟩

/--
Of a document with a width and of overrides with another, the override counts; a height without a
value is not one.  Of two overrides of the directory the later one counts.  The settings object that
was loaded first keeps its width.
-/
theorem settings_overlaid_width :
    let members : Named Json := [("canvas", .object [("width", .int 100)])]
    let overrides : List (Text × Json) :=
      [("width", .int 64), ("height", .null), ("output_dir", .text "a"), ("directory", .text "b")]
    ∃ s base first second, ∃ between after : Heap,
      Settings.load {} (.empty []) (.document (.object members)) overrides = .ok s
        ∧ Settings.load {} (.empty []) (.document (.object members)) [] = .ok base
        ∧ Settings.load {} (.empty []) (.settings base) overrides = .ok s
        ∧ base.canvas.width = 100 ∧ s.canvas.width = 64 ∧ s.canvas.height = 500
        ∧ s.output.directory = "b" ∧ s.output.basename = base.output.basename
        ∧ Objects.load {} (.empty []) (.document (.object members)) [] [] = .ok first between
        ∧ Objects.load {} (.empty []) (.object first) overrides between = .ok second after
        ∧ after.Holds first base ∧ after.Holds second s := by
  intro members overrides
  obtain ⟨s, hs⟩ :
      ∃ s, Settings.load {} (.empty []) (.document (.object members)) overrides = .ok s :=
    exists_ok_of_isOk (by decide +kernel)
  obtain ⟨base, hbase⟩ :
      ∃ s, Settings.load {} (.empty []) (.document (.object members)) [] = .ok s :=
    exists_ok_of_isOk (by decide +kernel)
  obtain ⟨hchosen, hrest, hobjects⟩ := settings_overlaid {} (.empty []) members
  obtain ⟨hframe, hsame, _⟩ := hrest base hbase
  have hset {β : Type} (f : Setting β) := (hchosen overrides s hs s).mp rfl f
  obtain ⟨first, between, hfirst, hdraft⟩ :=
    Builds.exists_draft (hbase ▸ (hobjects [] _ _ [] (.document _)).1)
  obtain ⟨hbuilds, hkept⟩ := hobjects between _ _ overrides (.object hdraft.toHolds)
  obtain ⟨second, after, hsecond, hlaid⟩ :=
    Builds.exists_draft (((hsame overrides).trans hs) ▸ hbuilds)
  rw [hsecond] at hkept
  refine ⟨s, base, first, second, between, after, hs, hbase, (hsame overrides).trans hs,
    ?_, ?_, ?_, ?_, ?_, hfirst, hsecond, hkept first base hdraft.toHolds, hlaid.toHolds⟩
  · exact (Except.ok.inj ((hchosen [] base hbase base).mp rfl .width)).symm
  · exact (Except.ok.inj (hset .width)).symm
  · exact (Except.ok.inj (hset .height)).symm
  · exact (Except.ok.inj (hset .directory)).symm
  · exact hframe overrides s hs .basename (by decide +kernel)

end Diorama
