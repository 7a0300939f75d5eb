import Diorama.Proofs.Render.Offence
import Diorama.Render.Perform

/-!
# What directives can change

Each directive makes a change of its own to its frame, however it ends: `constants` defines a
material, `push` and `pop` enter and leave a scope, shapes and lines draw and empty their buffer,
`save` writes down a path, and all others at most act in the current scope.  Whatever is to be said
of every directive is read off these changes, and nothing else looks at the directives one by one.

A relation between frames that holds across each change, and may be chained, holds across every
directive and every statement.

**Main statements.**
* `changes_perform`, `changes_attempt`: a directive makes its own change, and so does a statement.
* `Changes.respects`: a respected relation holds across a change.
* `attempt_cases`: a statement ends as its directive does, or with a warning.
* `relates_perform`, `relates_attempt`, `relates_attemptAll`: and so for directives, for statements
  and for lists of them.
-/

namespace Diorama

/-- A directive that neither enters nor leaves a scope nor defines a material. -/
structure Directive.Quiet
    (directive : Directive) : Prop where
  enters : directive.enters = false
  leaves : directive.leaves = false
  defines : directive.defines? = none

/-- Whether a directive draws on the canvas. -/
def Directive.paints : Directive → Bool
  | sphere .. | box .. | torus .. | line .. => true
  | _ => false

/-- The change of a frame that a directive makes. -/
inductive Directive.Changes : Directive → Frame → Frame → Prop
  | defines
      {name : Text}
      {coefficients : Coefficients}
      {color : Option (Vec3 Float)}
      {f : Frame} :
      Changes (.constants name coefficients color) f
        { f with materials := f.materials.register (.ofCoefficients name coefficients color) }
  | enters
      {f : Frame} :
      Changes .push f { f with stack := f.stack.push }
  | leaves
      {f : Frame}
      {stack : TransformStack Float}
      (left : f.stack.pop? = some stack) :
      Changes .pop f { f with stack }
  /-- The outermost scope is not left. -/
  | stays
      {f : Frame}
      (outermost : f.stack.pop? = none) :
      Changes .pop f f
  | composes
      {directive : Directive}
      {f : Frame}
      {first : Transform Float}
      (quiet : directive.Quiet)
      (step : ScopeStep Float)
      (composed : f.stack.step? step = some (f.stack.compose first)) :
      Changes directive f { f with stack := f.stack.compose first }
  | fills
      {directive : Directive}
      {f : Frame}
      (quiet : directive.Quiet)
      (paints : directive.paints = true)
      (canvas : Canvas Float) :
      Changes directive f { f with canvas, triangles := PointBuffer.empty }
  | strokes
      {directive : Directive}
      {f : Frame}
      (quiet : directive.Quiet)
      (paints : directive.paints = true)
      (canvas : Canvas Float) :
      Changes directive f { f with canvas, edges := PointBuffer.empty }
  | saves
      {name : Text}
      {f : Frame}
      (path : Path) :
      Changes (.save name) f { f with written := f.written ++ [path] }
  | nothing
      {directive : Directive}
      {f : Frame}
      (quiet : directive.Quiet) :
      Changes directive f f

namespace Drawing

variable {σ : Type}

/-- The session in which a step ends, whether it fails or not. -/
def final
    {β : Type} :
    EStateM.Result Failure (Session σ) β → Session σ
  | .ok _ s => s
  | .error _ s => s

/-- The value of a knob is looked up in the frame, which stays as it is. -/
theorem knobValue_bind
    {β : Type}
    (knob : Option Text)
    (next : Option Float → Drawing σ β)
    (s : Session σ) :
    ∃ notices, (knobValue knob >>= next) s
      = next (knob.bind s.frame.knobs.find?) { s with notices } := by
  cases knob with
  | none => exact ⟨s.notices, rfl⟩
  | some name =>
      cases hvalue : s.frame.knobs.find? name with
      | some value =>
          refine ⟨s.notices, ?_⟩
          simp only [bind, EStateM.bind, knobValue, hvalue, Option.bind_some]
      | none =>
          refine ⟨s.notices.push (.knobUnset s.frame.index name), ?_⟩
          simp only [bind, EStateM.bind, knobValue, hvalue, Option.bind_some, Session.note]

/-- A shape fills its triangles, or changes nothing. -/
theorem changes_shape
    {directive : Directive}
    (quiet : directive.Quiet)
    (paints : directive.paints = true)
    (line : Int)
    (name : Option Text)
    (lighting : Lighting (Vec3 Float))
    (ts : Except Crash (List (Vec3 Float × Vec3 Float × Vec3 Float)))
    (s : Session σ) :
    let shape : Drawing σ Unit := do
      let m ← material line name
      triangles lighting m (← orCrash ts)
    directive.Changes s.frame (final (shape s)).frame := by
  intro shape
  simp only [shape, bind, EStateM.bind, material]
  cases s.frame.materials.resolve name (some line) with
  | error e => exact .nothing quiet
  | ok m =>
      cases ts with
      | error cause => exact .nothing quiet
      | ok ts =>
          simp only [orCrash, pure, EStateM.pure, triangles]
          split <;> exact .fills quiet paints _

/-- A shape reaches neither the stack of transforms nor the outlet. -/
theorem shape_leaves
    (line : Int)
    (name : Option Text)
    (lighting : Lighting (Vec3 Float))
    (ts : Except Crash (List (Vec3 Float × Vec3 Float × Vec3 Float)))
    (s : Session σ) :
    let shape : Drawing σ Unit := do
      let m ← material line name
      triangles lighting m (← orCrash ts)
    (final (shape s)).frame.stack = s.frame.stack ∧ (final (shape s)).outside = s.outside := by
  intro shape
  simp only [shape, bind, EStateM.bind, material]
  cases s.frame.materials.resolve name (some line) with
  | error e => exact ⟨rfl, rfl⟩
  | ok m =>
      cases ts with
      | error cause => exact ⟨rfl, rfl⟩
      | ok ts =>
          simp only [orCrash, pure, EStateM.pure, triangles]
          split <;> exact ⟨rfl, rfl⟩

/-- A directive makes its own change, however it ends. -/
theorem changes_perform
    (settings : Settings)
    (outlet : Outlet σ)
    (line : Int)
    (directive : Directive)
    (s : Session σ) :
    directive.Changes s.frame (final (perform settings outlet line directive s)).frame := by
  cases directive with
  | constants name coefficients color => exact .defines
  | push => exact .enters
  | pop =>
      simp only [perform, takeStep, TransformStack.step?]
      split
      · rename_i stack hleft
        exact .leaves hleft
      · rename_i hleft
        exact .stays hleft
  | move offset knob =>
      obtain ⟨notices, hbind⟩ := knobValue_bind knob _ s
      simp only [perform]
      rw [hbind]
      exact .composes ⟨rfl, rfl, rfl⟩ (.move _) rfl
  | scale factors knob =>
      obtain ⟨notices, hbind⟩ := knobValue_bind knob _ s
      simp only [perform]
      rw [hbind]
      exact .composes ⟨rfl, rfl, rfl⟩ (.scale _) rfl
  | rotate name degrees knob =>
      obtain ⟨notices, hbind⟩ := knobValue_bind knob _ s
      simp only [perform]
      rw [hbind]
      cases Axis.ofName? name with
      | none => exact .nothing ⟨rfl, rfl, rfl⟩
      | some axis =>
          cases cosineSine (stretch degrees (knob.bind s.frame.knobs.find?)) with
          | error cause => exact .nothing ⟨rfl, rfl, rfl⟩
          | ok turn => exact .composes ⟨rfl, rfl, rfl⟩ (.turn axis _ _) rfl
  | sphere name center radius => exact changes_shape ⟨rfl, rfl, rfl⟩ rfl line name _ _ s
  | box name corner size => exact changes_shape ⟨rfl, rfl, rfl⟩ rfl line name _ (.ok _) s
  | torus name center tube ring => exact changes_shape ⟨rfl, rfl, rfl⟩ rfl line name _ _ s
  | line start stop =>
      simp only [perform, edge]
      split <;> exact .strokes ⟨rfl, rfl, rfl⟩ rfl _
  | display =>
      simp only [perform, present]
      split <;> exact .nothing ⟨rfl, rfl, rfl⟩
  | save name =>
      simp only [perform, save]
      split
      · exact .saves _
      · exact .nothing ⟨rfl, rfl, rfl⟩
  | unknown keyword tokens => exact .nothing ⟨rfl, rfl, rfl⟩
  | frames _ | basename _ | vary _ _ _ _ _ | finish => exact .nothing ⟨rfl, rfl, rfl⟩

end Drawing

/-- A relation between frames that holds where nothing changes, and may be chained. -/
structure Frame.Chained
    (R : Frame → Frame → Prop) : Prop where
  refl : ∀ f, R f f
  trans : ∀ f g h, R f g → R g h → R f h

/-- A relation between frames that holds across every change that a directive makes. -/
structure Frame.Respected
    (R : Frame → Frame → Prop) : Prop extends Frame.Chained R where
  register : ∀ f m, R f { f with materials := f.materials.register m }
  stack : ∀ f step stack, f.stack.step? step = some stack → R f { f with stack }
  triangles : ∀ f canvas, R f { f with canvas, triangles := PointBuffer.empty }
  edges : ∀ f canvas, R f { f with canvas, edges := PointBuffer.empty }
  written : ∀ f path, R f { f with written := f.written ++ [path] }

/-- A frame has its number and its warnings from another one. -/
structure Frame.WarnsLike
    (f g : Frame) : Prop where
  index : g.index = f.index
  warnings : g.warnings = f.warnings

/-- No change of a frame touches its number or its warnings. -/
theorem Frame.respected_warnsLike :
    Frame.Respected Frame.WarnsLike where
  refl _ := ⟨rfl, rfl⟩
  trans _ _ _ hfg hgh := ⟨hgh.index.trans hfg.index, hgh.warnings.trans hfg.warnings⟩
  register _ _ := ⟨rfl, rfl⟩
  stack _ _ _ _ := ⟨rfl, rfl⟩
  triangles _ _ := ⟨rfl, rfl⟩
  edges _ _ := ⟨rfl, rfl⟩
  written _ _ := ⟨rfl, rfl⟩

/-- A respected relation holds across a change. -/
theorem Directive.Changes.respects
    {R : Frame → Frame → Prop}
    {directive : Directive}
    {f g : Frame}
    (h : directive.Changes f g)
    (hrespected : Frame.Respected R) :
    R f g := by
  cases h with
  | defines => exact hrespected.register f _
  | enters => exact hrespected.stack f .enter _ rfl
  | leaves left => exact hrespected.stack f .leave _ left
  | stays outermost => exact hrespected.refl f
  | composes quiet step composed => exact hrespected.stack f step _ composed
  | fills quiet paints canvas => exact hrespected.triangles f canvas
  | strokes quiet paints canvas => exact hrespected.edges f canvas
  | saves path => exact hrespected.written f path
  | nothing quiet => exact hrespected.refl f

namespace Drawing

variable {σ β : Type}

/-- However a step ends, its last frame is related to its first. -/
def Relates
    (R : Frame → Frame → Prop)
    (step : Drawing σ β) :
    Prop :=
  ∀ s, R s.frame (final (step s)).frame

theorem relates_save
    {R : Frame → Frame → Prop}
    (outlet : Outlet σ)
    (h : Frame.Chained R)
    (hwritten : ∀ f path, R f { f with written := f.written ++ [path] })
    (path : Path) :
    Relates R (save outlet path) := by
  intro s
  simp only [save]
  split
  · exact hwritten s.frame _
  · exact h.refl s.frame

/-- A respected relation holds between the frames before and after a directive. -/
theorem relates_perform
    {R : Frame → Frame → Prop}
    (outlet : Outlet σ)
    (h : Frame.Respected R)
    (settings : Settings)
    (line : Int)
    (directive : Directive) :
    Relates R (perform settings outlet line directive) :=
  fun s => (changes_perform settings outlet line directive s).respects h

/-- The session after a statement, whether it failed or not. -/
def attempt
    (settings : Settings)
    (outlet : Outlet σ)
    (s : Session σ)
    (statement : Statement) :
    Session σ :=
  final (execute settings outlet statement s)

/-- The session after statements in order; one that fails does not keep the others back. -/
def attemptAll
    (settings : Settings)
    (outlet : Outlet σ)
    (s : Session σ)
    (statements : List Statement) :
    Session σ :=
  statements.foldl (attempt settings outlet) s

/-- A warning is kept on the first frame only. -/
theorem warn_eq
    (s : Session σ)
    (error : ScriptError) :
    ∃ notices, s.warn error =
      { frame := { s.frame with
          warnings := s.frame.warnings ++ if s.frame.index = 0 then [error] else [] }
        outside := s.outside
        notices } := by
  unfold Session.warn
  by_cases hindex : s.frame.index = 0
  · simp only [if_pos hindex]
    exact ⟨_, rfl⟩
  · simp only [if_neg hindex, List.append_nil]
    exact ⟨s.notices, rfl⟩

/-- A statement ends as its directive does, or with a warning where that is not fatal. -/
theorem attempt_cases
    (settings : Settings)
    (outlet : Outlet σ)
    (s : Session σ)
    (statement : Statement) :
    let outcome := perform settings outlet statement.line statement.directive
      (s.note (.executing s.frame.index statement))
    attempt settings outlet s statement = final outcome
      ∨ ∃ error t, outcome = .error (.script error) t ∧ ¬error.fault.kind.isFatal = true
        ∧ attempt settings outlet s statement = t.warn (error.withLine statement.line) := by
  simp only [attempt, execute]
  generalize perform settings outlet statement.line statement.directive
    (s.note (.executing s.frame.index statement)) = outcome
  cases outcome with
  | ok _ t => exact .inl rfl
  | error failure t =>
      cases failure with
      | crash cause => exact .inl rfl
      | script error =>
          simp only
          split
          · exact .inl rfl
          · rename_i hmild
            exact .inr ⟨error, t, rfl, hmild, rfl⟩

/-- A statement makes the change of its directive, apart from its warnings. -/
theorem changes_attempt
    (settings : Settings)
    (outlet : Outlet σ)
    (statement : Statement)
    (s : Session σ) :
    ∃ f warnings, statement.directive.Changes s.frame f
      ∧ (attempt settings outlet s statement).frame = { f with warnings } := by
  have hperform := changes_perform settings outlet statement.line statement.directive
    (s.note (.executing s.frame.index statement))
  rcases attempt_cases settings outlet s statement with hdone | ⟨error, t, houtcome, _, hwarn⟩
  · rw [hdone]
    exact ⟨_, _, hperform, rfl⟩
  · obtain ⟨notices, hwarning⟩ := warn_eq t (error.withLine statement.line)
    rw [hwarn, hwarning]
    rw [houtcome] at hperform
    exact ⟨_, _, hperform, rfl⟩

section

variable {R : Frame → Frame → Prop} (outlet : Outlet σ)

/-- A relation holds across a statement as well if it does not look at the warnings. -/
theorem relates_attempt
    (h : Frame.Respected R)
    (hwarned : ∀ f warnings, R f { f with warnings })
    (settings : Settings)
    (statement : Statement)
    (s : Session σ) :
    R s.frame (attempt settings outlet s statement).frame := by
  have hperform := relates_perform outlet h settings statement.line statement.directive
    (s.note (.executing s.frame.index statement))
  rcases attempt_cases settings outlet s statement with hdone | ⟨error, t, houtcome, _, hwarn⟩
  · rw [hdone]
    exact hperform
  · obtain ⟨notices, hwarning⟩ := warn_eq t (error.withLine statement.line)
    rw [hwarn, hwarning]
    rw [houtcome] at hperform
    exact h.trans _ _ _ hperform (hwarned _ _)

/-- It holds between the frames before and after any list of statements. -/
theorem relates_attemptAll
    (h : Frame.Respected R)
    (hwarned : ∀ f warnings, R f { f with warnings })
    (settings : Settings)
    (statements : List Statement)
    (s : Session σ) :
    R s.frame (attemptAll settings outlet s statements).frame := by
  induction statements generalizing s with
  | nil => exact h.refl s.frame
  | cons statement rest ih =>
      exact h.trans _ _ _ (relates_attempt outlet h hwarned settings statement s) (ih _)

end

end Drawing
end Diorama
