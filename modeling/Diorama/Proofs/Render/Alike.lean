import Diorama.Render.Run

/-!
# Drawing that cannot be told apart

Two frames look alike when they show the same picture and hold the same transforms, materials and
written files; their numbers, knob values and warnings do not show.  Two outlets are alike when
they answer alike for as long as their states are related.

Drawing steps are compared as programs: `Drawing.Alike` relates steps that lead alike sessions to
alike sessions, with the same result or the same failure.  Every effect of a directive is alike to
itself, and binding keeps the relation.

**Main statements.**
* `alike_bind`: alike programs may be put one after the other.
* `alike_takeStep`, `alike_triangles`, `alike_save`, …: one lemma for each effect.
* `alike_execute`: statements are performed alike if their directives are.
-/

namespace Diorama

/-- What a frame shows and holds, apart from its number, its knob values and its warnings. -/
structure FrameView where
  canvas : Canvas Float
  materials : MaterialRegistry (Vec3 Float)
  stack : TransformStack Float
  triangles : TriangleBuffer Float
  edges : EdgeBuffer Float
  written : List Path

/-- The view of a frame. -/
def Frame.view
    (f : Frame) :
    FrameView :=
  ⟨f.canvas, f.materials, f.stack, f.triangles, f.edges, f.written⟩

/--
Two outlets that answer alike in related states.  What a viewer answers is only reported, so
nothing is asked of it.
-/
structure Outlet.Alike
    {σ τ : Type}
    (R : σ → τ → Prop)
    (first : Outlet σ)
    (second : Outlet τ) : Prop where
  answer : ∀ canvas path s t, R s t →
    (first.save canvas path s).1 = (second.save canvas path t).1
  save : ∀ canvas path s t, R s t →
    R (first.save canvas path s).2 (second.save canvas path t).2
  present : ∀ canvas s t, R s t →
    R (first.present canvas s).2 (second.present canvas t).2

/-- An outlet in the same state is alike to itself. -/
theorem Outlet.alike_refl
    {σ : Type}
    (outlet : Outlet σ) :
    Outlet.Alike Eq outlet outlet where
  answer := fun _ _ _ _ h => by rw [h]
  save := fun _ _ _ _ h => by rw [h]
  present := fun _ _ _ h => by rw [h]

variable {σ τ : Type}

/-- Two sessions with given knob values whose frames look alike and whose outlets are related. -/
structure Session.Alike
    (R : σ → τ → Prop)
    (knobs others : Named Float)
    (s : Session σ)
    (t : Session τ) : Prop where
  view : s.frame.view = t.frame.view
  outside : R s.outside t.outside
  knobs : s.frame.knobs = knobs
  others : t.frame.knobs = others

namespace Drawing

/-- Two outcomes with the same result or the same failure, and alike sessions. -/
inductive AlikeOutcome
    {β : Type}
    (R : σ → τ → Prop)
    (knobs others : Named Float) :
    EStateM.Result Failure (Session σ) β → EStateM.Result Failure (Session τ) β → Prop
  | done
      (result : β)
      {s : Session σ}
      {t : Session τ}
      (alike : Session.Alike R knobs others s t) :
      AlikeOutcome R knobs others (.ok result s) (.ok result t)
  | failed
      (failure : Failure)
      {s : Session σ}
      {t : Session τ}
      (alike : Session.Alike R knobs others s t) :
      AlikeOutcome R knobs others (.error failure s) (.error failure t)

/-- Two drawing steps that lead alike sessions to alike outcomes. -/
def Alike
    {β : Type}
    (R : σ → τ → Prop)
    (knobs others : Named Float)
    (first : Drawing σ β)
    (second : Drawing τ β) :
    Prop :=
  ∀ s t, Session.Alike R knobs others s t →
    AlikeOutcome R knobs others (first s) (second t)

section Programs

variable {β γ : Type} {R : σ → τ → Prop} {knobs others : Named Float}

theorem alike_pure
    (result : β) :
    Alike R knobs others (pure result) (pure result) :=
  fun _ _ h => .done result h

theorem alike_bind
    {first : Drawing σ β}
    {second : Drawing τ β}
    {next : β → Drawing σ γ}
    {follow : β → Drawing τ γ}
    (hfirst : Alike R knobs others first second)
    (hnext : ∀ result, Alike R knobs others (next result) (follow result)) :
    Alike R knobs others (first >>= next) (second >>= follow) := by
  intro s t h
  have hout := hfirst s t h
  simp only [bind, EStateM.bind]
  cases hs : first s with
  | ok result s' =>
      cases ht : second t with
      | ok other t' =>
          rw [hs, ht] at hout
          cases hout with
          | done _ h' => exact hnext result s' t' h'
      | error failure t' =>
          rw [hs, ht] at hout
          cases hout
  | error failure s' =>
      cases ht : second t with
      | ok other t' =>
          rw [hs, ht] at hout
          cases hout
      | error other t' =>
          rw [hs, ht] at hout
          cases hout with
          | failed _ h' => exact .failed failure h'

theorem alike_throw
    (failure : Failure) :
    Alike R knobs others (throw failure : Drawing σ β) (throw failure) :=
  fun _ _ h => .failed failure h

theorem alike_orCrash
    (result : Except Crash β) :
    Alike R knobs others (orCrash result) (orCrash result) := by
  cases result with
  | ok b => exact alike_pure b
  | error cause => exact alike_throw (.crash cause)

end Programs

section Effects

variable {R : σ → τ → Prop} {knobs others : Named Float}

/-- The parts of a view, read off alike sessions. -/
theorem alike_parts
    {s : Session σ}
    {t : Session τ}
    (h : Session.Alike R knobs others s t) :
    s.frame.canvas = t.frame.canvas ∧ s.frame.materials = t.frame.materials ∧
      s.frame.stack = t.frame.stack ∧ s.frame.triangles = t.frame.triangles ∧
      s.frame.edges = t.frame.edges ∧ s.frame.written = t.frame.written := by
  have hview := h.view
  simp only [Frame.view, FrameView.mk.injEq] at hview
  exact hview

theorem alike_register
    (m : Material (Vec3 Float)) :
    Alike R knobs others
      (modifyFrame fun f => { f with materials := f.materials.register m } : Drawing σ Unit)
      (modifyFrame fun f => { f with materials := f.materials.register m }) := by
  intro s t h
  obtain ⟨hc, hm, hs, ht, he, hw⟩ := alike_parts h
  refine .done () ⟨?_, h.outside, h.knobs, h.others⟩
  simp only [Frame.view, hc, hm, hs, ht, he, hw]

theorem alike_takeStep
    (line : Int)
    (step : ScopeStep Float) :
    Alike R knobs others (takeStep line step) (takeStep line step) := by
  intro s t h
  obtain ⟨hc, hm, hs, ht, he, hw⟩ := alike_parts h
  simp only [takeStep, hs]
  cases t.frame.stack.step? step with
  | none => exact .failed _ h
  | some stack =>
      refine .done () ⟨?_, h.outside, h.knobs, h.others⟩
      simp only [Frame.view, hc, hm, ht, he, hw]

theorem alike_material
    (line : Int)
    (name : Option Text) :
    Alike R knobs others (material line name) (material line name) := by
  intro s t h
  obtain ⟨_, hm, _⟩ := alike_parts h
  simp only [material, hm]
  cases t.frame.materials.resolve name (some line) with
  | ok m => exact .done m h
  | error e => exact .failed _ h

theorem alike_triangles
    (lighting : Lighting (Vec3 Float))
    (m : Material (Vec3 Float))
    (ts : List (Vec3 Float × Vec3 Float × Vec3 Float)) :
    Alike R knobs others (triangles lighting m ts) (triangles lighting m ts) := by
  intro s t h
  obtain ⟨hc, hm, hs, ht, he, hw⟩ := alike_parts h
  simp only [triangles, hc, hs, ht]
  split
  · refine .done () ⟨?_, h.outside, h.knobs, h.others⟩
    simp only [Frame.view, Session.note, hm, he, hw]
  · refine .failed _ ⟨?_, h.outside, h.knobs, h.others⟩
    simp only [Frame.view, hm, he, hw]

theorem alike_edge
    (colour : Colour)
    (start stop : Vec3 Float) :
    Alike R knobs others (edge colour start stop) (edge colour start stop) := by
  intro s t h
  obtain ⟨hc, hm, hs, ht, he, hw⟩ := alike_parts h
  simp only [edge, hc, hs, he]
  split
  · refine .done () ⟨?_, h.outside, h.knobs, h.others⟩
    simp only [Frame.view, hm, ht, hw]
  · refine .failed _ ⟨?_, h.outside, h.knobs, h.others⟩
    simp only [Frame.view, hm, ht, hw]

variable {first : Outlet σ} {second : Outlet τ}

/-- Showing the canvas, whatever the viewers answer. -/
theorem alike_present
    (houtlet : Outlet.Alike R first second)
    (line : Int) :
    Alike R knobs others (present first line) (present second line) := by
  intro s t h
  obtain ⟨hc, hm, hs, ht, he, hw⟩ := alike_parts h
  have hstate := houtlet.present t.frame.canvas s.outside t.outside h.outside
  simp only [present, hc]
  split <;> split <;>
    simp_all only [Session.note] <;>
      exact .done () ⟨h.view, hstate, h.knobs, h.others⟩

theorem alike_save
    (houtlet : Outlet.Alike R first second)
    (path : Path) :
    Alike R knobs others (save first path) (save second path) := by
  intro s t h
  obtain ⟨hc, hm, hs, ht, he, hw⟩ := alike_parts h
  have hanswer := houtlet.answer t.frame.canvas path s.outside t.outside h.outside
  have hstate := houtlet.save t.frame.canvas path s.outside t.outside h.outside
  simp only [save, hc]
  rcases hleft : first.save t.frame.canvas path s.outside with ⟨answer, outside⟩
  rcases hright : second.save t.frame.canvas path t.outside with ⟨other, beside⟩
  rw [hleft, hright] at hanswer hstate
  obtain rfl : answer = other := hanswer
  cases answer with
  | ok saved =>
      refine .done () ⟨?_, hstate, h.knobs, h.others⟩
      simp only [Frame.view, Session.note, hm, hs, ht, he, hw]
  | error failure => exact .failed _ ⟨h.view, hstate, h.knobs, h.others⟩

end Effects

/-- A warning does not show in the view. -/
theorem alike_warn
    {R : σ → τ → Prop}
    {knobs others : Named Float}
    {s : Session σ}
    {t : Session τ}
    (h : Session.Alike R knobs others s t)
    (error : ScriptError) :
    Session.Alike R knobs others (s.warn error) (t.warn error) := by
  obtain ⟨hview, houtside, hknobs, hothers⟩ := h
  constructor
  · simp only [Session.warn]
    split <;> split <;> exact hview
  · simp only [Session.warn]
    split <;> split <;> exact houtside
  · simp only [Session.warn]
    split <;> exact hknobs
  · simp only [Session.warn]
    split <;> exact hothers

/-- Two statements on one line are performed alike if their directives are. -/
theorem alike_execute
    {R : σ → τ → Prop}
    {knobs others : Named Float}
    {settings : Settings}
    {first : Outlet σ}
    {second : Outlet τ}
    {line : Int}
    {directive other : Directive}
    (hperform : Alike R knobs others
      (perform settings first line directive)
      (perform settings second line other)) :
    Alike R knobs others
      (execute settings first ⟨line, directive⟩)
      (execute settings second ⟨line, other⟩) := by
  intro s t h
  have hout := hperform
    (s.note (.executing s.frame.index ⟨line, directive⟩))
    (t.note (.executing t.frame.index ⟨line, other⟩))
    ⟨h.view, h.outside, h.knobs, h.others⟩
  simp only [execute]
  generalize perform settings first line directive
    (s.note (.executing s.frame.index ⟨line, directive⟩)) = left at hout
  generalize perform settings second line other
    (t.note (.executing t.frame.index ⟨line, other⟩)) = right at hout
  cases hout with
  | done result h' => exact .done () h'
  | failed failure h' =>
      cases failure with
      | crash cause => exact .failed _ h'
      | script error =>
          simp only
          split
          · exact .failed _ h'
          · exact .done () (alike_warn h' _)

end Drawing
end Diorama
