import Diorama.Render.WriteLog
import Diorama.Shading.Material

/-!
# Offending statements

Three things are wrong with a script wherever it is drawn: a rotation about something that is no
axis, a `pop` without an open `push`, and a material that is named before it is defined.  Whether a
statement offends is decided by the statements in front of it, without drawing anything.

**Main statements.**
* `firstOffence?_eq_some_iff`: the first offence, said by splitting the script.
* `firstOffence?_eq_none_iff`: a script without offence.
* `reached_eq_self`: such a script is reached as a whole.
-/

namespace Diorama

namespace Directive

/-- Whether a directive enters a scope. -/
def enters : Directive → Bool
  | push => true
  | _ => false

/-- Whether a directive leaves a scope. -/
def leaves : Directive → Bool
  | pop => true
  | _ => false

/-- The name under which a directive defines a material. -/
def defines? : Directive → Option Text
  | constants name .. => some name
  | _ => none

/-- The name of the material that a directive draws with. -/
def material? : Directive → Option Text
  | sphere name .. | box name .. | torus name .. => name
  | _ => none

end Directive

namespace Script

/-- The number of scopes that statements enter. -/
def pushes
    (statements : List Statement) :
    Nat :=
  statements.countP fun statement => statement.directive.enters

/-- The number of scopes that statements leave. -/
def pops
    (statements : List Statement) :
    Nat :=
  statements.countP fun statement => statement.directive.leaves

/-- The names of the materials that statements define. -/
def definedNames
    (statements : List Statement) :
    List Text :=
  statements.filterMap fun statement => statement.directive.defines?

/-- What is wrong with a directive behind some statements, if anything is. -/
def offence?
    (before : List Statement) :
    Directive → Option Fault
  | .rotate axis _ _ =>
      if axis ∈ (["x", "y", "z"] : List Text) then none else some (.invalidAxis axis)
  | .pop => if pops before = pushes before then some .stackUnderflow else none
  | directive =>
      match directive.material? with
      | some name =>
          if name ∈ definedNames before then none else some (.unknownMaterial name)
      | none => none

/-- The first of some statements that offends behind others, and what is wrong with it. -/
def firstOffence?
    (before : List Statement) :
    List Statement → Option (Statement × Fault)
  | [] => none
  | statement :: rest =>
      match offence? before statement.directive with
      | some fault => some (statement, fault)
      | none => firstOffence? (before ++ [statement]) rest

/-- The statements in front of the first that offends. -/
def reached
    (before : List Statement) :
    List Statement → List Statement
  | [] => []
  | statement :: rest =>
      match offence? before statement.directive with
      | some _ => []
      | none => statement :: reached (before ++ [statement]) rest

section Lists

variable (before : List Statement) (statement : Statement)

@[simp]
theorem pushes_append_singleton :
    pushes (before ++ [statement])
      = pushes before + (if statement.directive.enters then 1 else 0) := by
  simp [pushes, List.countP_cons]

@[simp]
theorem pops_append_singleton :
    pops (before ++ [statement])
      = pops before + (if statement.directive.leaves then 1 else 0) := by
  simp [pops, List.countP_cons]

@[simp]
theorem mem_definedNames_append_singleton
    (name : Text) :
    name ∈ definedNames (before ++ [statement])
      ↔ name ∈ definedNames before ∨ statement.directive.defines? = some name := by
  simp [definedNames]

end Lists

/-- No statement of a list offends behind those in front of it. -/
def Sound
    (before rest : List Statement) :
    Prop :=
  ∀ earlier statement later, rest = earlier ++ statement :: later →
    offence? (before ++ earlier) statement.directive = none

theorem sound_cons_iff
    (before rest : List Statement)
    (statement : Statement) :
    Sound before (statement :: rest)
      ↔ offence? before statement.directive = none ∧ Sound (before ++ [statement]) rest := by
  constructor
  · intro h
    constructor
    · simpa using h [] statement rest rfl
    · intro earlier other later hrest
      have hother := h (statement :: earlier) other later (by rw [hrest, List.cons_append])
      simpa using hother
  · rintro ⟨hfirst, hrest⟩ earlier other later hsplit
    cases earlier with
    | nil =>
        obtain ⟨rfl, rfl⟩ := List.cons.inj hsplit
        simpa using hfirst
    | cons head earlier =>
        obtain ⟨rfl, htail⟩ := List.cons.inj hsplit
        have hother := hrest earlier other later htail
        simpa using hother

theorem sound_nil
    (before : List Statement) :
    Sound before [] := by
  intro earlier statement later hsplit
  exact absurd hsplit (by simp)

/-- There is no first offence in a sound list, and only there. -/
theorem firstOffence?_eq_none_iff
    (before rest : List Statement) :
    firstOffence? before rest = none ↔ Sound before rest := by
  induction rest generalizing before with
  | nil => simp [firstOffence?, sound_nil]
  | cons statement rest ih =>
      rw [sound_cons_iff]
      cases hoffence : offence? before statement.directive with
      | some fault => simp [firstOffence?, hoffence]
      | none => simp [firstOffence?, hoffence, ih]

/-- The first offence is an offending statement behind a sound list. -/
theorem firstOffence?_eq_some_iff
    (before rest : List Statement)
    (statement : Statement)
    (fault : Fault) :
    firstOffence? before rest = some (statement, fault)
      ↔ ∃ earlier later, rest = earlier ++ statement :: later
          ∧ Sound before earlier
          ∧ offence? (before ++ earlier) statement.directive = some fault := by
  induction rest generalizing before with
  | nil => simp [firstOffence?]
  | cons first rest ih =>
      cases hoffence : offence? before first.directive with
      | some wrong =>
          simp only [firstOffence?, hoffence, Option.some.injEq, Prod.mk.injEq]
          constructor
          · rintro ⟨rfl, rfl⟩
            exact ⟨[], rest, rfl, sound_nil before, by simpa using hoffence⟩
          · rintro ⟨earlier, later, hsplit, hsound, hfault⟩
            cases earlier with
            | nil =>
                obtain ⟨rfl, rfl⟩ := List.cons.inj hsplit
                rw [List.append_nil, hoffence] at hfault
                exact ⟨rfl, Option.some.inj hfault⟩
            | cons head earlier =>
                obtain ⟨rfl, htail⟩ := List.cons.inj hsplit
                rw [sound_cons_iff, hoffence] at hsound
                exact absurd hsound.1 (by simp)
      | none =>
          simp only [firstOffence?, hoffence, ih]
          constructor
          · rintro ⟨earlier, later, hsplit, hsound, hfault⟩
            refine ⟨first :: earlier, later, by rw [hsplit, List.cons_append], ?_, ?_⟩
            · exact (sound_cons_iff before earlier first).mpr ⟨hoffence, hsound⟩
            · simpa using hfault
          · rintro ⟨earlier, later, hsplit, hsound, hfault⟩
            cases earlier with
            | nil =>
                obtain ⟨rfl, rfl⟩ := List.cons.inj hsplit
                rw [List.append_nil, hoffence] at hfault
                cases hfault
            | cons head earlier =>
                obtain ⟨rfl, htail⟩ := List.cons.inj hsplit
                refine ⟨earlier, later, htail, ?_, ?_⟩
                · exact ((sound_cons_iff before earlier first).mp hsound).2
                · simpa using hfault

/-- A sound list is reached as a whole. -/
theorem reached_eq_self
    {before rest : List Statement}
    (h : firstOffence? before rest = none) :
    reached before rest = rest := by
  induction rest generalizing before with
  | nil => rfl
  | cons statement rest ih =>
      cases hoffence : offence? before statement.directive with
      | some fault => simp [firstOffence?, hoffence] at h
      | none =>
          simp only [firstOffence?, hoffence] at h
          simp only [reached, hoffence, ih h]

end Script

/-- The state that statements leave behind, as far as later statements can offend against it. -/
structure Frame.Follows
    (before : List Statement)
    (frame : Frame) : Prop where
  depth : frame.stack.depth + Script.pops before = Script.pushes before + 1
  defined : ∀ name,
    (frame.materials.defined.find? name).isSome ↔ name ∈ Script.definedNames before

theorem Frame.follows_start
    (settings : Settings)
    (index : Int)
    (knobs : Named Float) :
    (Frame.start settings index knobs).Follows [] where
  depth := rfl
  defined := by simp [start, MaterialRegistry.empty, Script.definedNames]

end Diorama
