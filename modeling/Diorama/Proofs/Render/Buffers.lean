import Diorama.Proofs.Render.Effects

/-!
# Buffers between directives

Geometry waits in a buffer only while its own directive draws it.  After every directive, however
it ended, both buffers are empty, so what a directive hands to the canvas are its own triangles or
its own edge under the current transform, whatever was done before.

**Main statements.**
* `respected_buffersEmpty`: no change of a frame leaves geometry in a buffer.
* `canvas_perform`: a directive with empty buffers draws its own geometry and nothing else.
* `buffers_hold_own_geometry`: both, behind any statements on any frame.
-/

namespace Diorama

theorem PointBuffer.isEmpty_iff
    {α : Type}
    {group : Nat}
    (b : PointBuffer α group) :
    b.isEmpty = true ↔ b = PointBuffer.empty := by
  obtain ⟨points, whole⟩ := b
  cases points with
  | nil => exact iff_of_true rfl rfl
  | cons p rest => exact iff_of_false Bool.false_ne_true fun h => by cases congrArg points h

/-- What a directive hands to the canvas. -/
inductive Geometry
  | triangles (buffer : TriangleBuffer Float) (material : Material (Vec3 Float))
  | edges (buffer : EdgeBuffer Float)

/-- The canvas that a drawing leaves, also where it crashes. -/
def Draw.canvas
    {β : Type} :
    EStateM.Result Crash (Canvas Float) β → Canvas Float
  | .ok _ canvas => canvas
  | .error _ canvas => canvas

/-- Draw geometry on a canvas. -/
def Geometry.draw
    (settings : Settings)
    (canvas : Canvas Float) :
    Geometry → Canvas Float
  | .triangles buffer material =>
      Draw.canvas (Draw.triangles buffer settings.lighting.toLighting material canvas)
  | .edges buffer => Draw.canvas (Draw.lines buffer settings.shading.drawColor canvas)

namespace Frame

/-- The triangles of a shape alone under the current transform, with the material of its name. -/
def mesh?
    (frame : Frame)
    (line : Int)
    (name : Option Text)
    (ts : Except Crash (List (Vec3 Float × Vec3 Float × Vec3 Float))) :
    Option Geometry :=
  match frame.materials.resolve name (some line), ts with
  | .ok material, .ok ts =>
      let buffer := TriangleBuffer.addTriangles PointBuffer.empty ts
      some (.triangles (buffer.transform frame.stack.top) material)
  | _, _ => none

/-- The geometry of a directive alone, if it has any that can be drawn. -/
def geometry?
    (settings : Settings)
    (frame : Frame)
    (line : Int) :
    Directive → Option Geometry
  | .sphere name center radius =>
      frame.mesh? line name (Sphere.triangles? center radius settings.shading.steps)
  | .box name corner size => frame.mesh? line name (.ok (Box.triangles corner size))
  | .torus name center tube ring =>
      frame.mesh? line name (Torus.triangles? center tube ring settings.shading.steps)
  | .line start stop =>
      let buffer := EdgeBuffer.addEdge PointBuffer.empty start stop
      some (.edges (buffer.transform frame.stack.top))
  | _ => none

/-- The canvas of a frame with the geometry of a directive drawn on it. -/
def drawn
    (settings : Settings)
    (frame : Frame)
    (line : Int)
    (directive : Directive) :
    Canvas Float :=
  match frame.geometry? settings line directive with
  | some geometry => geometry.draw settings frame.canvas
  | none => frame.canvas

theorem buffersEmpty_iff
    (frame : Frame) :
    frame.buffersEmpty = true
      ↔ frame.triangles = PointBuffer.empty ∧ frame.edges = PointBuffer.empty := by
  rw [buffersEmpty, Bool.and_eq_true, PointBuffer.isEmpty_iff, PointBuffer.isEmpty_iff]

/-- No change of a frame leaves geometry in a buffer. -/
theorem respected_buffersEmpty :
    Respected fun f g => f.buffersEmpty = true → g.buffersEmpty = true where
  refl _ := id
  trans _ _ _ hfg hgh := hgh ∘ hfg
  register _ _ := id
  stack _ _ _ _ := id
  triangles f canvas := by
    simp only [buffersEmpty_iff]
    exact fun h => ⟨trivial, h.2⟩
  edges f canvas := by
    simp only [buffersEmpty_iff]
    exact fun h => ⟨h.1, trivial⟩
  written _ _ := id

end Frame

/-- Only a directive that draws changes the canvas. -/
theorem Directive.Changes.canvas_eq
    {directive : Directive}
    {f g : Frame}
    (h : directive.Changes f g)
    (hpaints : directive.paints = false) :
    g.canvas = f.canvas := by
  cases h with
  | fills quiet paints _ | strokes quiet paints _ =>
      rw [paints] at hpaints
      cases hpaints
  | _ => rfl

namespace Drawing

variable {σ : Type} {settings : Settings} {outlet : Outlet σ} {s : Session σ}

/-- A shape draws its own triangles, if it can be drawn. -/
theorem canvas_mesh
    (hempty : s.frame.triangles = PointBuffer.empty)
    (line : Int)
    (name : Option Text)
    (ts : Except Crash (List (Vec3 Float × Vec3 Float × Vec3 Float))) :
    let shape : Drawing σ Unit := do
      let m ← material line name
      triangles settings.lighting.toLighting m (← orCrash ts)
    (final (shape s)).frame.canvas
      = match s.frame.mesh? line name ts with
        | some geometry => geometry.draw settings s.frame.canvas
        | none => s.frame.canvas := by
  intro shape
  simp only [shape, bind, EStateM.bind, material, Frame.mesh?]
  cases s.frame.materials.resolve name (some line) with
  | error e => rfl
  | ok m =>
      cases ts with
      | error cause => rfl
      | ok ts =>
          simp only [orCrash, pure, EStateM.pure, triangles, hempty, Geometry.draw]
          split <;> rename_i hdraw <;> rw [hdraw] <;> rfl

/-- A directive with empty buffers draws its own geometry and nothing else. -/
theorem canvas_perform
    (hempty : s.frame.buffersEmpty = true)
    (line : Int)
    (directive : Directive) :
    (final (perform settings outlet line directive s)).frame.canvas
      = s.frame.drawn settings line directive := by
  obtain ⟨htriangles, hedges⟩ := s.frame.buffersEmpty_iff.mp hempty
  have hchanges := changes_perform settings outlet line directive s
  cases directive with
  | sphere name center radius => exact canvas_mesh htriangles line name _
  | box name corner size => exact canvas_mesh htriangles line name (.ok _)
  | torus name center tube ring => exact canvas_mesh htriangles line name _
  | line start stop =>
      simp only [perform, edge, hedges, Frame.drawn, Frame.geometry?, Geometry.draw]
      split <;> rename_i hdraw <;> rw [hdraw] <;> rfl
  | _ => exact hchanges.canvas_eq rfl

/-- So does a statement; warnings are not on the canvas. -/
theorem canvas_attempt
    (hempty : s.frame.buffersEmpty = true)
    (statement : Statement) :
    (attempt settings outlet s statement).frame.canvas
      = s.frame.drawn settings statement.line statement.directive := by
  have hnoted : (s.note (.executing s.frame.index statement)).frame.buffersEmpty = true := hempty
  have hperform := @canvas_perform _ settings outlet _ hnoted statement.line statement.directive
  rcases attempt_cases settings outlet s statement with hdone | ⟨error, t, houtcome, _, hwarn⟩
  · rw [hdone]
    exact hperform
  · obtain ⟨notices, hwarning⟩ := warn_eq t (error.withLine statement.line)
    rw [hwarn, hwarning]
    rw [houtcome] at hperform
    exact hperform

end Drawing

/--
Behind any statements on any frame, also ones that failed or crashed, both buffers are empty; after
the next statement they are empty again, and it has drawn its own geometry and nothing else.
-/
theorem buffers_hold_own_geometry
    {σ : Type}
    (settings : Settings)
    (outlet : Outlet σ)
    (index : Int)
    (knobs : Named Float)
    (outside : σ)
    (earlier : List Statement)
    (statement : Statement) :
    let start : Session σ := ⟨Frame.start settings index knobs, outside, #[]⟩
    let s := Drawing.attemptAll settings outlet start earlier
    let t := Drawing.attempt settings outlet s statement
    s.frame.buffersEmpty = true
      ∧ t.frame.buffersEmpty = true
      ∧ t.frame.canvas = s.frame.drawn settings statement.line statement.directive := by
  intro start s t
  have hs : s.frame.buffersEmpty = true :=
    Drawing.relates_attemptAll outlet Frame.respected_buffersEmpty (fun _ _ => id) settings earlier
      start rfl
  have ht : t.frame.buffersEmpty = true :=
    Drawing.relates_attempt outlet Frame.respected_buffersEmpty (fun _ _ => id) settings statement
      s hs
  exact ⟨hs, ht, Drawing.canvas_attempt hs statement⟩

end Diorama
