import Diorama.Proofs.Render.Effects
import Diorama.Proofs.Render.Replay
import Diorama.Proofs.Render.Steps
import Mathlib.Data.List.Induction
import Mathlib.Data.List.Nodup

/-!
# Visible materials

A frame starts without materials, and the `constants` directives that it performs define them one
after the other.  So a solid is drawn with the last definition of its material in front of it, no
matter what is defined behind it, on another frame or under another name; and the names of the
registry are those that were defined, in the order of their first definitions.

**Main statements.**
* `materials_forM`: what statements make of the materials.
* `names_registered`, `find?_registered_of_lastDefines`: the names and the values of a registry.
* `execute_solid`: a solid is drawn with the material that its name stands for.
* `material_visible`: which material a solid is drawn with.
-/

namespace Diorama

/-- What a directive makes of the materials. -/
def Directive.registers
    (r : MaterialRegistry (Vec3 Float)) : Directive → MaterialRegistry (Vec3 Float)
  | constants name coefficients color => r.register (.ofCoefficients name coefficients color)
  | _ => r

theorem Directive.registers_of_defines?_eq_none
    {directive : Directive}
    (h : directive.defines? = none)
    (r : MaterialRegistry (Vec3 Float)) :
    directive.registers r = r := by
  cases directive <;> first | rfl | cases h

theorem Directive.Changes.materials
    {directive : Directive}
    {f g : Frame}
    (h : directive.Changes f g) :
    g.materials = directive.registers f.materials := by
  cases h with
  | composes quiet _ _ | fills quiet _ _ | strokes quiet _ _ | nothing quiet =>
      exact (registers_of_defines?_eq_none quiet.defines _).symm
  | _ => rfl

namespace Script

/-- What statements make of the materials. -/
def registered
    (r : MaterialRegistry (Vec3 Float))
    (statements : List Statement) :
    MaterialRegistry (Vec3 Float) :=
  statements.foldl (fun r statement => statement.directive.registers r) r

/-- The last statement that defines a material, and with what. -/
def LastDefines
    (statements : List Statement)
    (name : Text)
    (coefficients : Coefficients)
    (color : Option (Vec3 Float)) :
    Prop :=
  ∃ earlier line later,
    statements = earlier ++ ⟨line, .constants name coefficients color⟩ :: later
      ∧ name ∉ definedNames later

variable {r : MaterialRegistry (Vec3 Float)} {statements : List Statement} {name : Text}

/-- A name that is defined has a last definition. -/
theorem lastDefines_of_mem
    (h : name ∈ definedNames statements) :
    ∃ coefficients color, LastDefines statements name coefficients color := by
  induction statements with
  | nil => cases h
  | cons statement rest ih =>
      by_cases hlater : name ∈ definedNames rest
      · obtain ⟨coefficients, color, earlier, line, later, rfl, hlast⟩ := ih hlater
        exact ⟨coefficients, color, statement :: earlier, line, later, rfl, hlast⟩
      · have hdefines : statement.directive.defines? = some name := by
          obtain ⟨definer, hmem, hname⟩ := List.mem_filterMap.mp h
          rcases List.mem_cons.mp hmem with rfl | hmem
          · exact hname
          · exact absurd (List.mem_filterMap.mpr ⟨definer, hmem, hname⟩) hlater
        obtain ⟨line, directive⟩ := statement
        cases directive <;> cases hdefines
        exact ⟨_, _, [], line, rest, rfl, hlater⟩

theorem registered_cons
    (r : MaterialRegistry (Vec3 Float))
    (statement : Statement)
    (rest : List Statement) :
    registered r (statement :: rest) = registered (statement.directive.registers r) rest :=
  rfl

theorem registered_append_singleton
    (r : MaterialRegistry (Vec3 Float))
    (statements : List Statement)
    (statement : Statement) :
    registered r (statements ++ [statement])
      = statement.directive.registers (registered r statements) := by
  rw [registered, List.foldl_append]
  rfl

theorem definedNames_append_singleton
    (statements : List Statement)
    (statement : Statement) :
    definedNames (statements ++ [statement])
      = definedNames statements ++ statement.directive.defines?.toList := by
  rw [definedNames, List.filterMap_append]
  cases h : statement.directive.defines? <;> simp [definedNames, h]

/-- The material of solids that name none stays what it is. -/
theorem default_registered
    (r : MaterialRegistry (Vec3 Float))
    (statements : List Statement) :
    (registered r statements).default = r.default := by
  induction statements generalizing r with
  | nil => rfl
  | cons statement rest ih =>
      obtain ⟨line, directive⟩ := statement
      rw [registered_cons, ih]
      cases directive <;> rfl

/-- A name that statements do not define keeps its material. -/
theorem find?_registered_of_notMem
    (h : name ∉ definedNames statements) :
    (registered r statements).defined.find? name = r.defined.find? name := by
  induction statements using List.reverseRecOn with
  | nil => rfl
  | append_singleton statements statement ih =>
      rw [mem_definedNames_append_singleton, not_or] at h
      obtain ⟨hstatements, hdefines⟩ := h
      obtain ⟨line, directive⟩ := statement
      rw [registered_append_singleton, ← ih hstatements]
      cases directive with
      | constants other coefficients color =>
          have hne : name ≠ other := fun heq => hdefines (congrArg some heq.symm)
          exact Named.find?_insert_of_ne hne _ _
      | _ => rfl

/-- A name that statements define has the material of the last definition. -/
theorem find?_registered_of_lastDefines
    {coefficients : Coefficients}
    {color : Option (Vec3 Float)}
    (h : LastDefines statements name coefficients color) :
    (registered r statements).defined.find? name
      = some (.ofCoefficients name coefficients color) := by
  obtain ⟨earlier, line, later, rfl, hlast⟩ := h
  rw [registered, List.foldl_append, List.foldl_cons]
  exact (find?_registered_of_notMem hlast).trans (Named.find?_insert_self _ _ _)

/-- The names of a registry are those that were defined, in the order of first definitions. -/
theorem names_registered
    (hempty : r.defined = [])
    (statements : List Statement) :
    (registered r statements).defined.names = (definedNames statements).eraseDups := by
  induction statements using List.reverseRecOn with
  | nil =>
      rw [registered, List.foldl_nil, hempty]
      rfl
  | append_singleton statements statement ih =>
      obtain ⟨line, directive⟩ := statement
      rw [registered_append_singleton, definedNames_append_singleton, List.eraseDups_append]
      cases hdefines : directive.defines? with
      | none =>
          rw [Directive.registers_of_defines?_eq_none hdefines]
          exact ih.trans (List.append_nil _).symm
      | some name =>
          cases directive <;> cases hdefines
          refine (Named.names_insert name _ _).trans ?_
          rw [ih]
          by_cases hknown : name ∈ definedNames statements
          · simp [List.removeAll, hknown]
          · simp [List.removeAll, List.eraseDups_cons, hknown]

/-- None of them is listed twice. -/
theorem nodup_names_registered
    (hempty : r.defined = [])
    (statements : List Statement) :
    (registered r statements).defined.names.Nodup := by
  induction statements using List.reverseRecOn with
  | nil =>
      rw [registered, List.foldl_nil, hempty]
      exact List.nodup_nil
  | append_singleton statements statement ih =>
      obtain ⟨line, directive⟩ := statement
      rw [registered_append_singleton]
      cases directive with
      | constants name coefficients color => exact Named.nodup_names_insert ih name _
      | _ => exact ih

end Script

namespace Drawing

variable {σ : Type} {settings : Settings} {outlet : Outlet σ}

/-- Statements that are all done make of the materials what they register. -/
theorem materials_forM
    {statements : List Statement}
    {s t : Session σ}
    (h : statements.forM (execute settings outlet) s = .ok () t) :
    t.frame.materials = Script.registered s.frame.materials statements := by
  induction statements generalizing s with
  | nil =>
      cases h
      rfl
  | cons statement rest ih =>
      rw [forM_cons] at h
      cases hfirst : execute settings outlet statement s with
      | error failure u =>
          rw [hfirst] at h
          cases h
      | ok _ u =>
          rw [hfirst] at h
          obtain ⟨f, warnings, hchanges, hattempt⟩ := changes_attempt settings outlet statement s
          rw [attempt, hfirst, final] at hattempt
          rw [ih h, hattempt, hchanges.materials]
          rfl

/-- The material that a solid names, and how it is drawn with a material. -/
def solid?
    (settings : Settings) :
    Directive → Option (Option Text × (Material (Vec3 Float) → Drawing σ Unit))
  | .sphere name center radius =>
      some (name, fun m => do
        triangles settings.lighting.toLighting m
          (← orCrash (Sphere.triangles? center radius settings.shading.steps)))
  | .box name corner size =>
      some (name, fun m => triangles settings.lighting.toLighting m (Box.triangles corner size))
  | .torus name center tube ring =>
      some (name, fun m => do
        triangles settings.lighting.toLighting m
          (← orCrash (Torus.triangles? center tube ring settings.shading.steps)))
  | _ => none

variable {directive : Directive} {name : Option Text}
  {paint : Material (Vec3 Float) → Drawing σ Unit}

theorem perform_solid
    (hsolid : solid? settings directive = some (name, paint))
    (outlet : Outlet σ)
    (line : Int) :
    perform settings outlet line directive = material line name >>= paint := by
  cases directive <;> cases hsolid <;> rfl

theorem draws_solid
    (hsolid : solid? settings directive = some (name, paint))
    (outlet : Outlet σ)
    (m : Material (Vec3 Float)) :
    Draws outlet (paint m) := by
  cases directive <;> cases hsolid
  case sphere =>
    exact draws_orCrash_bind (Sphere.triangles?_sparesAngle _ _ _) fun ts => draws_triangles _ m ts
  case box => exact draws_triangles _ m _
  case torus =>
    exact draws_orCrash_bind (Torus.triangles?_sparesAngle _ _ _ _) fun ts => draws_triangles _ m ts

/-- A statement that draws ends as its drawing does. -/
theorem execute_of_draws
    {step : Drawing σ Unit}
    (hdraws : Draws outlet step)
    {line : Int}
    {s : Session σ}
    (h : let noted := s.note (.executing s.frame.index ⟨line, directive⟩)
      perform settings outlet line directive noted = step noted) :
    execute settings outlet ⟨line, directive⟩ s
      = step (s.note (.executing s.frame.index ⟨line, directive⟩)) := by
  simp only [execute]
  rw [h]
  rcases hdraws (s.note (.executing s.frame.index ⟨line, directive⟩)) with
    ⟨t, hdone, _⟩ | ⟨cause, t, hcrash, _⟩
  · rw [hdone]
  · rw [hcrash]

/-- A solid is drawn with the material that its name stands for. -/
theorem execute_solid
    (hsolid : solid? settings directive = some (name, paint))
    {line : Int}
    {s : Session σ}
    {m : Material (Vec3 Float)}
    (hresolve : s.frame.materials.resolve name (some line) = .ok m) :
    execute settings outlet ⟨line, directive⟩ s
      = paint m (s.note (.executing s.frame.index ⟨line, directive⟩)) := by
  refine execute_of_draws (draws_solid hsolid outlet m) ?_
  rw [perform_solid hsolid]
  simp only [bind, EStateM.bind, material, Session.note, hresolve]

/-- A solid whose material is not defined fails on its line. -/
theorem execute_solid_undefined
    {name : Text}
    (hsolid : solid? settings directive = some (some name, paint))
    (line : Int)
    {s : Session σ}
    (hundefined : s.frame.materials.defined.find? name = none) :
    execute settings outlet ⟨line, directive⟩ s
      = .error (.script (.onLine (.unknownMaterial name) line))
        (s.note (.executing s.frame.index ⟨line, directive⟩)) := by
  simp only [execute]
  rw [perform_solid hsolid]
  simp only [bind, EStateM.bind, material, MaterialRegistry.resolve, Session.note, hundefined]
  rfl

end Drawing

/-- The material that a solid behind some statements is to be drawn with, by the name it gives. -/
inductive Script.Visible
    (settings : Settings)
    (before : List Statement) :
    Option Text → Material (Vec3 Float) → Prop
  | unnamed :
      Visible settings before none settings.shading.defaultMaterial
  /-- Of the nine numbers of a definition, every third belongs to the same kind of reflection. -/
  | named
      {name : Text}
      {coefficients : Coefficients}
      {color : Option (Vec3 Float)}
      {n₁ n₂ n₃ n₄ n₅ n₆ n₇ n₈ n₉ : Float}
      (last : LastDefines before name coefficients color)
      (numbers : coefficients.toList = [n₁, n₂, n₃, n₄, n₅, n₆, n₇, n₈, n₉]) :
      Visible settings before (some name)
        { name
          ambient := ⟨n₁, n₄, n₇⟩
          diffuse := ⟨n₂, n₅, n₈⟩
          specular := ⟨n₃, n₆, n₉⟩
          color }

theorem Script.visible_of_mem
    (settings : Settings)
    {before : List Statement}
    {name : Text}
    (h : name ∈ definedNames before) :
    ∃ m, Visible settings before (some name) m := by
  obtain ⟨coefficients, color, hlast⟩ := lastDefines_of_mem h
  exact ⟨_, .named hlast rfl⟩

/-- A registry that holds what statements register resolves every name to the visible material. -/
theorem Script.resolve_of_visible
    {settings : Settings}
    {before : List Statement}
    {name : Option Text}
    {m : Material (Vec3 Float)}
    (h : Visible settings before name m)
    (line : Option Int) :
    (registered (.empty settings.shading.defaultMaterial) before).resolve name line = .ok m := by
  cases h with
  | unnamed => exact congrArg Except.ok (default_registered _ before)
  | named last numbers =>
      cases numbers
      simp only [MaterialRegistry.resolve, find?_registered_of_lastDefines last]
      rfl

/-- A drawing has come to a place of its script when all statements in front of it are done. -/
structure Drawing.Reaches
    {σ : Type}
    (settings : Settings)
    (outlet : Outlet σ)
    (statements : List Statement)
    (start : Session σ)
    (before : List Statement)
    (s : Session σ) : Prop where
  place : before <+: Script.body statements
  done : before.forM (execute settings outlet) start = .ok () s

/--
Wherever a frame has come to, the registry lists the names defined so far, each of them once, in the
order of their first definitions.  A solid that names no material is drawn with the default one of
the settings there, and a solid that names a material with the last definition of that name in front
of it; where there is no such definition, the solid fails.
-/
theorem material_visible
    {σ : Type}
    {settings : Settings}
    {outlet : Outlet σ}
    {statements before : List Statement}
    {index : Int}
    {knobs : Named Float}
    {outside : σ}
    {s : Session σ}
    (hreached : Drawing.Reaches settings outlet statements
      ⟨Frame.start settings index knobs, outside, #[]⟩ before s) :
    s.frame.materials.defined.names = (Script.definedNames before).eraseDups
      ∧ s.frame.materials.defined.names.Nodup
      ∧ ∀ line directive name paint, Drawing.solid? settings directive = some (name, paint) →
        let drawn := Drawing.execute settings outlet ⟨line, directive⟩ s
        let noted := s.note (.executing s.frame.index ⟨line, directive⟩)
        (∀ m, Script.Visible settings before name m → drawn = paint m noted)
          ∧ (∀ n, name = some n → (∀ m, ¬Script.Visible settings before (some n) m) →
            drawn = .error (.script (.onLine (.unknownMaterial n) line)) noted) := by
  have hmaterials : s.frame.materials
      = Script.registered (.empty settings.shading.defaultMaterial) before :=
    Drawing.materials_forM hreached.done
  rw [hmaterials]
  refine ⟨Script.names_registered rfl before, Script.nodup_names_registered rfl before, ?_⟩
  intro line directive name paint hsolid drawn noted
  constructor
  · intro m hvisible
    refine Drawing.execute_solid hsolid ?_
    rw [hmaterials]
    exact Script.resolve_of_visible hvisible (some line)
  · rintro n rfl hinvisible
    refine Drawing.execute_solid_undefined hsolid line ?_
    have hundefined : n ∉ Script.definedNames before := fun hmem =>
      (Script.visible_of_mem settings hmem).elim hinvisible
    rw [hmaterials]
    exact Script.find?_registered_of_notMem hundefined

/-- A material that is defined twice, around one that is called like the default material. -/
theorem material_visible_redefined :
    let before : List Statement :=
      [⟨1, .constants "m" ⟨⟨0, 0, 0⟩, ⟨0, 0, 0⟩, ⟨0, 0, 0⟩⟩ none⟩,
        ⟨2, .constants "default" ⟨⟨1, 1, 1⟩, ⟨1, 1, 1⟩, ⟨1, 1, 1⟩⟩ none⟩,
        ⟨3, .constants "m" ⟨⟨1, 2, 3⟩, ⟨4, 5, 6⟩, ⟨7, 8, 9⟩⟩ none⟩]
    let named : Statement := ⟨4, .box (some "m") ⟨0, 0, 0⟩ ⟨1, 1, 1⟩⟩
    let unnamed : Statement := ⟨5, .box none ⟨0, 0, 0⟩ ⟨1, 1, 1⟩⟩
    let start : Session Unit := ⟨Frame.start {} 0 [], (), #[]⟩
    ∃ s, Drawing.Reaches {} Outlet.accepting (before ++ [named, unnamed, ⟨6, .finish⟩]) start
        before s
      ∧ s.frame.materials.defined.names = ["m", "default"]
      ∧ Drawing.execute {} Outlet.accepting named s
        = Drawing.triangles (Settings.lighting {}).toLighting
          ⟨"m", ⟨1, 4, 7⟩, ⟨2, 5, 8⟩, ⟨3, 6, 9⟩, none⟩ (Box.triangles ⟨0, 0, 0⟩ ⟨1, 1, 1⟩)
          (s.note (.executing s.frame.index named))
      ∧ Drawing.execute {} Outlet.accepting unnamed s
        = Drawing.triangles (Settings.lighting {}).toLighting
          (Settings.shading {}).defaultMaterial (Box.triangles ⟨0, 0, 0⟩ ⟨1, 1, 1⟩)
          (s.note (.executing s.frame.index unnamed)) := by
  intro before named unnamed start
  obtain ⟨s, hs⟩ : ∃ s, before.forM (Drawing.execute {} Outlet.accepting) start = .ok () s :=
    ⟨_, rfl⟩
  have hreached : Drawing.Reaches {} Outlet.accepting
      (before ++ [named, unnamed, ⟨6, .finish⟩]) start before s :=
    ⟨⟨[named, unnamed], rfl⟩, hs⟩
  have hlast : Script.LastDefines before "m" ⟨⟨1, 2, 3⟩, ⟨4, 5, 6⟩, ⟨7, 8, 9⟩⟩ none :=
    ⟨before.take 2, 3, [], rfl, by decide⟩
  obtain ⟨hnames, _, hsolids⟩ := material_visible hreached
  have hnamed := (hsolids 4 named.directive _ _ rfl).1 _ (.named hlast rfl)
  have hunnamed := (hsolids 5 unnamed.directive _ _ rfl).1 _ .unnamed
  refine ⟨s, hreached, ?_, hnamed, hunnamed⟩
  rw [hnames]
  decide +kernel

end Diorama
