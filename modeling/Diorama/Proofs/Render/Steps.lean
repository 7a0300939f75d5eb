import Diorama.Proofs.Canvas.Crashes
import Diorama.Proofs.Render.Effects

/-!
# What a statement comes to

A statement that saves no picture ends in one of three ways: it is done, it is refused because it
offends behind the statements in front of it, or it crashes.  Which of the first two it is does not
depend on the frame at all, as long as the frame follows those statements; the crash of a rotation
is told by its angle.  A statement that saves a picture does what the outlet says.

**Main statements.**
* `executed`: every statement but a `save` ends in one of the three ways.
* `execute_save_ok`, `execute_save_error`: a `save`, by the answer of the outlet.
-/

namespace Diorama

/-- The angle of a rotation with given knob values is infinite. -/
def Directive.TurnsInfinitely
    (knobs : Named Float) : Directive → Prop
  | .rotate _ degrees knob => (radians (stretch degrees (knob.bind knobs.find?))).isInf = true
  | _ => False

namespace Frame

variable {before : List Statement} {statement : Statement} {frame next : Frame}

/-- A frame with the same scopes and materials follows a quiet statement as well. -/
theorem Follows.quiet
    (h : frame.Follows before)
    (hquiet : statement.directive.Quiet)
    (hdepth : next.stack.depth = frame.stack.depth)
    (hmaterials : next.materials = frame.materials) :
    next.Follows (before ++ [statement]) where
  depth := by
    have hframe := h.depth
    simp only [Script.pops_append_singleton, Script.pushes_append_singleton, hquiet.enters,
      hquiet.leaves, hdepth]
    simpa using hframe
  defined := by
    intro name
    rw [hmaterials, h.defined name, Script.mem_definedNames_append_singleton, hquiet.defines]
    simp

theorem Follows.push
    (h : frame.Follows before)
    (hpush : statement.directive = .push) :
    ({ frame with stack := frame.stack.push } : Frame).Follows (before ++ [statement]) where
  depth := by
    have hframe := h.depth
    simp only [Script.pops_append_singleton, Script.pushes_append_singleton, hpush,
      Directive.enters, Directive.leaves, TransformStack.depth_push]
    simp only [Bool.false_eq_true, if_false, if_true]
    omega
  defined := by
    intro name
    rw [Script.mem_definedNames_append_singleton, hpush]
    simpa [Directive.defines?] using h.defined name

theorem Follows.pop
    {stack : TransformStack Float}
    (h : frame.Follows before)
    (hpop : statement.directive = .pop)
    (hstack : frame.stack.pop? = some stack) :
    ({ frame with stack } : Frame).Follows (before ++ [statement]) where
  depth := by
    have hframe := h.depth
    have hdepth : frame.stack.depth = stack.depth + 1 := TransformStack.depth_of_pop? hstack
    simp only [Script.pops_append_singleton, Script.pushes_append_singleton, hpop,
      Directive.enters, Directive.leaves]
    simp only [Bool.false_eq_true, if_false, if_true]
    omega
  defined := by
    intro name
    rw [Script.mem_definedNames_append_singleton, hpop]
    simpa [Directive.defines?] using h.defined name

/-- The outermost scope is left where as many scopes were left as entered. -/
theorem Follows.pop?_eq_none_iff
    (h : frame.Follows before) :
    frame.stack.pop? = none ↔ Script.pops before = Script.pushes before := by
  have hframe := h.depth
  rw [TransformStack.pop?_eq_none_iff]
  omega

theorem Follows.register
    (h : frame.Follows before)
    (m : Material (Vec3 Float))
    (henters : statement.directive.enters = false)
    (hleaves : statement.directive.leaves = false)
    (hdefines : statement.directive.defines? = some m.name) :
    ({ frame with materials := frame.materials.register m } : Frame).Follows
      (before ++ [statement]) where
  depth := by
    have hframe := h.depth
    simp only [Script.pops_append_singleton, Script.pushes_append_singleton, henters, hleaves]
    simpa using hframe
  defined := by
    intro name
    rw [Script.mem_definedNames_append_singleton, hdefines, ← h.defined name]
    simp only [MaterialRegistry.register, Option.some.injEq]
    by_cases hname : m.name = name
    · subst hname
      simp
    · rw [Named.find?_insert_of_ne (Ne.symm hname)]
      simp [hname]

end Frame

variable {σ : Type}

/-- What a statement that saves nothing leaves alone; the outlet at most shows a picture. -/
structure Session.Keeps
    (outlet : Outlet σ)
    (s t : Session σ) : Prop where
  index : t.frame.index = s.frame.index
  knobs : t.frame.knobs = s.frame.knobs
  written : t.frame.written = s.frame.written
  outside : t.outside = s.outside ∨ ∃ canvas, t.outside = (outlet.present canvas s.outside).2

/-- What drawing and showing leave alone. -/
structure Session.Shows
    (outlet : Outlet σ)
    (s t : Session σ) : Prop extends Session.Keeps outlet s t where
  stack : t.frame.stack = s.frame.stack
  materials : t.frame.materials = s.frame.materials

namespace Drawing

variable {settings : Settings} {outlet : Outlet σ} {before : List Statement} {line : Int}
  {directive : Directive} {s : Session σ}

/-- What performing a directive behind some statements comes to. -/
inductive Performed
    (outlet : Outlet σ)
    (before : List Statement)
    (line : Int)
    (directive : Directive)
    (s : Session σ) :
    EStateM.Result Failure (Session σ) Unit → Prop
  | done
      {t : Session σ}
      (sound : Script.offence? before directive = none)
      (turns : ¬directive.TurnsInfinitely s.frame.knobs)
      (keeps : s.Keeps outlet t)
      (follows : t.frame.Follows (before ++ [⟨line, directive⟩])) :
      Performed outlet before line directive s (.ok () t)
  | refused
      {error : ScriptError}
      {t : Session σ}
      (offends : Script.offence? before directive = some error.fault)
      (place : error.withLine line = .onLine error.fault line)
      (keeps : s.Keeps outlet t) :
      Performed outlet before line directive s (.error (.script error) t)
  | skipped
      {keyword : Text}
      {t : Session σ}
      (sound : Script.offence? before directive = none)
      (turns : ¬directive.TurnsInfinitely s.frame.knobs)
      (keeps : s.Keeps outlet t)
      (follows : t.frame.Follows (before ++ [⟨line, directive⟩])) :
      Performed outlet before line directive s
        (.error (.script (.onLine (.unsupportedDirective keyword) line)) t)
  | crashed
      {cause : Crash}
      {t : Session σ}
      (sound : Script.offence? before directive = none)
      (turns : cause = .infiniteAngle ↔ directive.TurnsInfinitely s.frame.knobs)
      (keeps : s.Keeps outlet t) :
      Performed outlet before line directive s (.error (.crash cause) t)

/-- A step that at most draws and shows; it never crashes with an infinite angle. -/
def Draws
    (outlet : Outlet σ)
    (step : Drawing σ Unit) :
    Prop :=
  ∀ s,
    (∃ t, step s = .ok () t ∧ s.Shows outlet t) ∨
      ∃ cause t, step s = .error (.crash cause) t ∧ cause ≠ .infiniteAngle ∧ s.Keeps outlet t

theorem draws_pure :
    Draws outlet (pure () : Drawing σ Unit) :=
  fun s => .inl ⟨s, rfl, ⟨⟨rfl, rfl, rfl, .inl rfl⟩, rfl, rfl⟩⟩

theorem draws_triangles
    (lighting : Lighting (Vec3 Float))
    (m : Material (Vec3 Float))
    (ts : List (Vec3 Float × Vec3 Float × Vec3 Float)) :
    Draws outlet (triangles lighting m ts) := by
  intro s
  simp only [triangles]
  split
  · exact .inl ⟨_, rfl, ⟨⟨rfl, rfl, rfl, .inl rfl⟩, rfl, rfl⟩⟩
  · rename_i cause canvas hcrash
    have hcause := Draw.triangles_sparesAngle _ _ _ _ _ _ hcrash
    exact .inr ⟨cause, _, rfl, hcause, ⟨rfl, rfl, rfl, .inl rfl⟩⟩

theorem draws_edge
    (colour : Colour)
    (start stop : Vec3 Float) :
    Draws outlet (edge colour start stop) := by
  intro s
  simp only [edge]
  split
  · exact .inl ⟨_, rfl, ⟨⟨rfl, rfl, rfl, .inl rfl⟩, rfl, rfl⟩⟩
  · rename_i cause canvas hcrash
    have hcause := Draw.lines_sparesAngle _ _ _ _ _ hcrash
    exact .inr ⟨cause, _, rfl, hcause, ⟨rfl, rfl, rfl, .inl rfl⟩⟩

/-- The canvas is shown, whatever the viewer answers. -/
theorem draws_present
    (line : Int) :
    Draws outlet (present outlet line) := by
  intro s
  simp only [present]
  rcases hanswer : outlet.present s.frame.canvas s.outside with ⟨answer, outside⟩
  have houtside : outside = (outlet.present s.frame.canvas s.outside).2 := by rw [hanswer]
  cases answer with
  | ok _ => exact .inl ⟨_, rfl, ⟨⟨rfl, rfl, rfl, .inr ⟨_, houtside⟩⟩, rfl, rfl⟩⟩
  | error text => exact .inl ⟨_, rfl, ⟨⟨rfl, rfl, rfl, .inr ⟨_, houtside⟩⟩, rfl, rfl⟩⟩

/-- What is drawn is computed first. -/
theorem draws_orCrash_bind
    {β : Type}
    {result : Except Crash β}
    {next : β → Drawing σ Unit}
    (hresult : Crash.Within Crash.SparesAngle result)
    (hnext : ∀ b, Draws outlet (next b)) :
    Draws outlet (orCrash result >>= next) := by
  intro s
  cases hvalue : result with
  | ok b => exact hnext b s
  | error cause =>
      exact .inr ⟨cause, s, rfl, hresult cause hvalue, ⟨rfl, rfl, rfl, .inl rfl⟩⟩

/-- A quiet directive that draws comes to its drawing. -/
theorem performed_draws
    {step : Drawing σ Unit}
    (hfollows : s.frame.Follows before)
    (hsound : Script.offence? before directive = none)
    (hturns : ¬directive.TurnsInfinitely s.frame.knobs)
    (hquiet : directive.Quiet)
    (hstep : Draws outlet step) :
    Performed outlet before line directive s (step s) := by
  rcases hstep s with ⟨t, hdone, hshows⟩ | ⟨cause, t, hcrash, hcause, hkeeps⟩
  · rw [hdone]
    have hdepth : t.frame.stack.depth = s.frame.stack.depth := by rw [hshows.stack]
    exact .done hsound hturns hshows.toKeeps (hfollows.quiet hquiet hdepth hshows.materials)
  · rw [hcrash]
    exact .crashed hsound ⟨fun h => absurd h hcause, fun h => absurd h hturns⟩ hkeeps

/-- The default material may always be named; others have to be defined in front. -/
theorem material_eq
    (hfollows : s.frame.Follows before)
    (line : Int)
    (name : Option Text) :
    (∃ m, material line name s = .ok m s ∧ ∀ n ∈ name, n ∈ Script.definedNames before) ∨
      ∃ n, name = some n ∧ n ∉ Script.definedNames before
        ∧ material line name s = .error (.script (.onLine (.unknownMaterial n) line)) s := by
  cases name with
  | none => exact .inl ⟨_, rfl, by simp⟩
  | some n =>
      have hdefined := hfollows.defined n
      cases hfound : s.frame.materials.defined.find? n with
      | some m =>
          rw [hfound] at hdefined
          refine .inl ⟨m, by simp [material, MaterialRegistry.resolve, hfound], ?_⟩
          rintro _ ⟨rfl⟩
          exact hdefined.mp rfl
      | none =>
          rw [hfound] at hdefined
          refine .inr ⟨n, rfl, fun hmem => ?_, ?_⟩
          · exact absurd (hdefined.mpr hmem) (by simp)
          · simp [material, MaterialRegistry.resolve, hfound, ScriptError.onLine]

/-- A shape is refused where its material is not defined, and drawn everywhere else. -/
theorem performed_shape
    {name : Option Text}
    {shape : Material (Vec3 Float) → Drawing σ Unit}
    (hfollows : s.frame.Follows before)
    (hoffence : Script.offence? before directive
      = match name with
        | some n => if n ∈ Script.definedNames before then none else some (.unknownMaterial n)
        | none => none)
    (hturns : ¬directive.TurnsInfinitely s.frame.knobs)
    (hquiet : directive.Quiet)
    (hshape : ∀ m, Draws outlet (shape m)) :
    Performed outlet before line directive s ((material line name >>= shape) s) := by
  rcases material_eq hfollows line name with ⟨m, hm, hdefined⟩ | ⟨n, rfl, hn, hm⟩
  · have hbind : (material line name >>= shape) s = shape m s := by
      simp only [bind, EStateM.bind, hm]
    rw [hbind]
    refine performed_draws hfollows ?_ hturns hquiet (hshape m)
    rw [hoffence]
    cases name with
    | none => rfl
    | some n => simp [hdefined n rfl]
  · have hbind : (material line (some n) >>= shape) s
        = .error (.script (.onLine (.unknownMaterial n) line)) s := by
      simp only [bind, EStateM.bind, hm]
    rw [hbind]
    refine .refused ?_ rfl ⟨rfl, rfl, rfl, .inl rfl⟩
    rw [hoffence]
    simp [hn, ScriptError.onLine]

/-- A change of the current transform by an amount that a knob may stretch. -/
theorem performed_compose
    {knob : Option Text}
    {change : Option Float → ScopeStep Float}
    (hfollows : s.frame.Follows before)
    (hsound : Script.offence? before directive = none)
    (hturns : ¬directive.TurnsInfinitely s.frame.knobs)
    (hquiet : directive.Quiet)
    (hchange : ∀ factor, ∃ first,
      s.frame.stack.step? (change factor) = some (s.frame.stack.compose first)) :
    Performed outlet before line directive s
      ((knobValue knob >>= fun factor => takeStep line (change factor)) s) := by
  obtain ⟨notices, hbind⟩ := knobValue_bind knob (fun factor => takeStep line (change factor)) s
  obtain ⟨first, hfirst⟩ := hchange (knob.bind s.frame.knobs.find?)
  rw [hbind]
  simp only [takeStep, hfirst]
  exact .done hsound hturns ⟨rfl, rfl, rfl, .inl rfl⟩
    (hfollows.quiet hquiet (TransformStack.depth_compose _ _) rfl)

/-- A name stands for an axis if it is one of three. -/
theorem offence?_rotate
    (before : List Statement)
    (name : Text)
    (degrees : Float)
    (knob : Option Text) :
    Script.offence? before (.rotate name degrees knob)
      = match Axis.ofName? name with
        | some _ => none
        | none => some (.invalidAxis name) := by
  have hx : ("x" : Text) = [.char 'x'] := rfl
  have hy : ("y" : Text) = [.char 'y'] := rfl
  have hz : ("z" : Text) = [.char 'z'] := rfl
  simp only [Script.offence?, Axis.ofName?, List.mem_cons, List.not_mem_nil, or_false, hx, hy, hz]
  split
  · rename_i hname
    rcases hname with rfl | rfl | rfl <;> rfl
  · rename_i hname
    simp only [not_or] at hname
    split <;> simp_all

/-- A rotation is refused for its axis, and crashes for its angle. -/
theorem performed_rotate
    {name : Text}
    {degrees : Float}
    {knob : Option Text}
    (hfollows : s.frame.Follows before) :
    Performed outlet before line (.rotate name degrees knob) s
      (perform settings outlet line (.rotate name degrees knob) s) := by
  obtain ⟨notices, hbind⟩ := knobValue_bind knob _ s
  have hoffence := offence?_rotate before name degrees knob
  simp only [perform]
  rw [hbind]
  cases haxis : Axis.ofName? name with
  | none =>
      rw [haxis] at hoffence
      exact .refused hoffence rfl ⟨rfl, rfl, rfl, .inl rfl⟩
  | some axis =>
      rw [haxis] at hoffence
      by_cases hturns : (radians (stretch degrees (knob.bind s.frame.knobs.find?))).isInf = true
      · simp only [cosineSine, hturns]
        exact .crashed hoffence ⟨fun _ => hturns, fun _ => rfl⟩ ⟨rfl, rfl, rfl, .inl rfl⟩
      · simp only [cosineSine, hturns]
        exact .done hoffence hturns ⟨rfl, rfl, rfl, .inl rfl⟩
          (hfollows.quiet ⟨rfl, rfl, rfl⟩ (TransformStack.depth_compose _ _) rfl)

/-- Every directive that saves nothing is done, refused, skipped or crashes. -/
theorem performed
    (hfollows : s.frame.Follows before)
    (hsave : settings.savePath? ⟨line, directive⟩ = none) :
    Performed outlet before line directive s (perform settings outlet line directive s) := by
  cases directive with
  | constants name coefficients color =>
      exact .done rfl id ⟨rfl, rfl, rfl, .inl rfl⟩
        (hfollows.register (.ofCoefficients name coefficients color) rfl rfl rfl)
  | push => exact .done rfl id ⟨rfl, rfl, rfl, .inl rfl⟩ (hfollows.push rfl)
  | pop =>
      have hempty := hfollows.pop?_eq_none_iff
      simp only [perform, takeStep, TransformStack.step?]
      cases hpop : s.frame.stack.pop? with
      | none =>
          have hoffence : Script.offence? before .pop = some .stackUnderflow := by
            simp [Script.offence?, hempty.mp hpop]
          exact .refused hoffence rfl ⟨rfl, rfl, rfl, .inl rfl⟩
      | some stack =>
          have hoffence : Script.offence? before .pop = none := by
            simp [Script.offence?, ← hempty, hpop]
          exact .done hoffence id ⟨rfl, rfl, rfl, .inl rfl⟩ (hfollows.pop rfl hpop)
  | move offset knob =>
      exact performed_compose hfollows rfl id ⟨rfl, rfl, rfl⟩ fun factor => ⟨_, rfl⟩
  | scale factors knob =>
      exact performed_compose hfollows rfl id ⟨rfl, rfl, rfl⟩ fun factor => ⟨_, rfl⟩
  | rotate name degrees knob => exact performed_rotate hfollows
  | sphere name center radius =>
      exact performed_shape hfollows rfl id ⟨rfl, rfl, rfl⟩ fun m =>
        draws_orCrash_bind (Sphere.triangles?_sparesAngle _ _ _) fun ts => draws_triangles _ m ts
  | box name corner size =>
      exact performed_shape hfollows rfl id ⟨rfl, rfl, rfl⟩ fun m => draws_triangles _ m _
  | torus name center tube ring =>
      exact performed_shape hfollows rfl id ⟨rfl, rfl, rfl⟩ fun m =>
        draws_orCrash_bind (Torus.triangles?_sparesAngle _ _ _ _) fun ts => draws_triangles _ m ts
  | line start stop =>
      exact performed_draws hfollows rfl id ⟨rfl, rfl, rfl⟩ (draws_edge _ start stop)
  | display => exact performed_draws hfollows rfl id ⟨rfl, rfl, rfl⟩ (draws_present line)
  | save name => cases hsave
  | unknown keyword tokens =>
      exact .skipped rfl id ⟨rfl, rfl, rfl, .inl rfl⟩ (hfollows.quiet ⟨rfl, rfl, rfl⟩ rfl rfl)
  | frames _ | basename _ | vary _ _ _ _ _ | finish =>
      exact performed_draws hfollows rfl id ⟨rfl, rfl, rfl⟩ draws_pure

theorem isFatal_of_offence?
    {fault : Fault}
    (h : Script.offence? before directive = some fault) :
    fault.kind.isFatal = true := by
  unfold Script.offence? at h
  split at h
  · split at h <;> cases h
    rfl
  · split at h <;> cases h
    rfl
  · split at h
    · split at h <;> cases h
      rfl
    · cases h

/-- What performing a statement behind others comes to. -/
inductive Executed
    (outlet : Outlet σ)
    (before : List Statement)
    (statement : Statement)
    (s : Session σ) :
    EStateM.Result Failure (Session σ) Unit → Prop
  | done
      {t : Session σ}
      (sound : Script.offence? before statement.directive = none)
      (turns : ¬statement.directive.TurnsInfinitely s.frame.knobs)
      (keeps : s.Keeps outlet t)
      (follows : t.frame.Follows (before ++ [statement])) :
      Executed outlet before statement s (.ok () t)
  | refused
      {fault : Fault}
      {t : Session σ}
      (offends : Script.offence? before statement.directive = some fault)
      (keeps : s.Keeps outlet t) :
      Executed outlet before statement s (.error (.script (.onLine fault statement.line)) t)
  | crashed
      {cause : Crash}
      {t : Session σ}
      (sound : Script.offence? before statement.directive = none)
      (turns : cause = .infiniteAngle ↔ statement.directive.TurnsInfinitely s.frame.knobs)
      (keeps : s.Keeps outlet t) :
      Executed outlet before statement s (.error (.crash cause) t)

theorem keeps_of_note
    {s t : Session σ}
    {notice : Notice}
    (h : (s.note notice).Keeps outlet t) :
    s.Keeps outlet t :=
  ⟨h.index, h.knobs, h.written, h.outside⟩

theorem keeps_warn
    {s t : Session σ}
    (h : s.Keeps outlet t)
    (error : ScriptError) :
    s.Keeps outlet (t.warn error) := by
  unfold Session.warn
  split
  · exact ⟨h.index, h.knobs, h.written, h.outside⟩
  · exact h

theorem follows_warn
    {t : Session σ}
    (h : t.frame.Follows before)
    (error : ScriptError) :
    (t.warn error).frame.Follows before := by
  unfold Session.warn
  split
  · exact ⟨h.depth, h.defined⟩
  · exact h

/-- Every statement that saves nothing is done, refused or crashes. -/
theorem executed
    {statement : Statement}
    (hfollows : s.frame.Follows before)
    (hsave : settings.savePath? statement = none) :
    Executed outlet before statement s (execute settings outlet statement s) := by
  obtain ⟨line, directive⟩ := statement
  have hperformed : Performed outlet before line directive
      (s.note (.executing s.frame.index ⟨line, directive⟩))
      (perform settings outlet line directive
        (s.note (.executing s.frame.index ⟨line, directive⟩))) :=
    performed hfollows hsave
  simp only [execute]
  generalize perform settings outlet line directive
    (s.note (.executing s.frame.index ⟨line, directive⟩)) = result at hperformed
  cases hperformed with
  | done sound turns keeps follows => exact .done sound turns (keeps_of_note keeps) follows
  | refused offends place keeps =>
      have hfatal := isFatal_of_offence? offends
      simp only [place, ScriptError.onLine, hfatal, if_true]
      exact .refused offends (keeps_of_note keeps)
  | skipped sound turns keeps follows =>
      exact .done sound turns (keeps_warn (keeps_of_note keeps) _) (follows_warn follows _)
  | crashed sound turns keeps => exact .crashed sound turns (keeps_of_note keeps)

section Saves

variable {statement : Statement} {path : Path}

/-- A statement that saves a picture is quiet, does not offend, and turns nothing. -/
theorem quiet_of_savePath?
    (before : List Statement)
    (hsave : settings.savePath? statement = some path) :
    statement.directive.Quiet ∧ Script.offence? before statement.directive = none
      ∧ ∀ knobs, ¬statement.directive.TurnsInfinitely knobs := by
  obtain ⟨line, directive⟩ := statement
  cases directive <;> cases hsave
  exact ⟨⟨rfl, rfl, rfl⟩, rfl, fun _ => id⟩

/-- The session after a picture was saved. -/
def wrote
    (s : Session σ)
    (saved : Path)
    (outside : σ) :
    Session σ :=
  ({ s with
    frame := { s.frame with written := s.frame.written ++ [saved] }
    outside } : Session σ).note (.imageSaved saved.toText)

/-- A picture that the outlet takes is written. -/
theorem execute_save_ok
    {saved : Path}
    {outside : σ}
    (hfollows : s.frame.Follows before)
    (hsave : settings.savePath? statement = some path)
    (hanswer : outlet.save s.frame.canvas path s.outside = (.ok saved, outside)) :
    ∃ notices, execute settings outlet statement s
        = .ok () (wrote { s with notices } saved outside)
      ∧ (wrote { s with notices } saved outside).frame.Follows (before ++ [statement]) := by
  have hquiet := (quiet_of_savePath? before hsave).1
  obtain ⟨line, directive⟩ := statement
  cases directive <;> cases hsave
  rename_i name
  refine ⟨s.notices.push (.executing s.frame.index ⟨line, .save name⟩), ?_, ?_⟩
  case refine_2 => exact hfollows.quiet hquiet rfl rfl
  simp only [execute, perform, save, Session.note, hanswer, wrote]

/-- A picture that the outlet does not take ends the frame on its line. -/
theorem execute_save_error
    {failure : SaveFailure}
    {error : ScriptError}
    {outside : σ}
    (hsave : settings.savePath? statement = some path)
    (hanswer : outlet.save s.frame.canvas path s.outside = (.error failure, outside))
    (herror : Failure.ofSave path failure = .script error)
    (hfatal : error.fault.kind.isFatal = true) :
    ∃ notices, execute settings outlet statement s
      = .error (.script (error.withLine statement.line)) { s with notices, outside } := by
  obtain ⟨line, directive⟩ := statement
  cases directive <;> cases hsave
  rename_i name
  refine ⟨s.notices.push (.executing s.frame.index ⟨line, .save name⟩), ?_⟩
  have hkept : (error.withLine line).fault.kind.isFatal = true := hfatal
  simp only [execute, perform, save, Session.note, hanswer, herror, hkept, if_true]

end Saves

end Drawing
end Diorama
