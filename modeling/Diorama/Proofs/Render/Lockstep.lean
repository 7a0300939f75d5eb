import Diorama.Proofs.Render.Alike
import Diorama.Proofs.Render.Effects

/-!
# Drawing in lockstep

Two drawing steps run in lockstep when they lead equal frames to equal frames over related outlets,
and fail in the same way if they fail; only their notices may differ.  No directive touches the
number of its frame or its warnings, so what looks alike and started equal stays equal.

**Main statements.**
* `alike_perform`: a directive does the same over alike outlets.
* `inStep_execute`: a statement runs in lockstep with itself.
-/

namespace Diorama

/-- Two outcomes of the same kind, with the same failure if there is one, and related states. -/
inductive SameEnd
    {α β : Type}
    (Q : α → β → Prop) :
    EStateM.Result Failure α Unit → EStateM.Result Failure β Unit → Prop
  | done
      {a : α}
      {b : β}
      (related : Q a b) :
      SameEnd Q (.ok () a) (.ok () b)
  | failed
      (failure : Failure)
      {a : α}
      {b : β}
      (related : Q a b) :
      SameEnd Q (.error failure a) (.error failure b)

/-- Two outcomes that end like a third one end alike. -/
theorem SameEnd.meet
    {α β γ : Type}
    {P : α → β → Prop}
    {Q : γ → β → Prop}
    {R : α → γ → Prop}
    {x : EStateM.Result Failure α Unit}
    {y : EStateM.Result Failure β Unit}
    {z : EStateM.Result Failure γ Unit}
    (hstates : ∀ a b c, P a b → Q c b → R a c)
    (hx : SameEnd P x y)
    (hz : SameEnd Q z y) :
    SameEnd R x z := by
  cases hx with
  | done hp =>
      cases hz with
      | done hq => exact .done (hstates _ _ _ hp hq)
  | failed failure hp =>
      cases hz with
      | failed _ hq => exact .failed failure (hstates _ _ _ hp hq)

/-- Frames that look alike are equal if their numbers, knob values and warnings are. -/
theorem Frame.eq_of_view_eq
    {f g : Frame}
    (hview : f.view = g.view)
    (hindex : f.index = g.index)
    (hknobs : f.knobs = g.knobs)
    (hwarnings : f.warnings = g.warnings) :
    f = g := by
  cases f
  cases g
  simp only [Frame.view, FrameView.mk.injEq] at hview
  obtain ⟨rfl, rfl, rfl, rfl, rfl, rfl⟩ := hview
  simp only at hindex hknobs hwarnings
  rw [hindex, hknobs, hwarnings]

variable {σ τ : Type}

/-- Two sessions with the same frame over related outlets. -/
structure Session.InStep
    (R : σ → τ → Prop)
    (s : Session σ)
    (t : Session τ) : Prop where
  frame : s.frame = t.frame
  outside : R s.outside t.outside

/-- Alike sessions with the same knob values, and warnings from the same frame, are in step. -/
theorem Session.Alike.inStep
    {R : σ → τ → Prop}
    {knobs : Named Float}
    {s : Session σ}
    {t : Session τ}
    {before : Frame}
    (h : Session.Alike R knobs knobs s t)
    (hs : before.WarnsLike s.frame)
    (ht : before.WarnsLike t.frame) :
    Session.InStep R s t where
  frame := Frame.eq_of_view_eq h.view (hs.index.trans ht.index.symm)
    (h.knobs.trans h.others.symm) (hs.warnings.trans ht.warnings.symm)
  outside := h.outside

namespace Drawing

section SameDirective

variable {R : σ → τ → Prop} {knobs : Named Float} {settings : Settings}
  {first : Outlet σ} {second : Outlet τ}

theorem alike_knobValue_self
    (knob : Option Text) :
    Alike R knobs knobs (knobValue knob) (knobValue knob) := by
  intro s t h
  cases knob with
  | none => exact .done none h
  | some name =>
      have hs : s.frame.knobs.find? name = knobs.find? name := by rw [h.knobs]
      have ht : t.frame.knobs.find? name = knobs.find? name := by rw [h.others]
      simp only [knobValue, hs, ht]
      cases knobs.find? name with
      | some value => exact .done (some value) h
      | none => exact .done none ⟨h.view, h.outside, h.knobs, h.others⟩

/-- A directive does the same on frames that look alike and have the same knob values. -/
theorem alike_perform
    (houtlet : Outlet.Alike R first second)
    (line : Int)
    (directive : Directive) :
    Alike R knobs knobs
      (perform settings first line directive)
      (perform settings second line directive) := by
  cases directive with
  | constants name coefficients color => exact alike_register _
  | push => exact alike_takeStep line .enter
  | pop => exact alike_takeStep line .leave
  | move offset knob | scale offset knob =>
      exact alike_bind (alike_knobValue_self knob) fun _ => alike_takeStep line _
  | rotate axis degrees knob =>
      refine alike_bind (alike_knobValue_self knob) fun factor => ?_
      cases Axis.ofName? axis with
      | none => exact alike_throw _
      | some turned => exact alike_bind (alike_orCrash _) fun _ => alike_takeStep line _
  | sphere name center radius =>
      refine alike_bind (alike_material line name) fun m => ?_
      exact alike_bind (alike_orCrash _) fun ts => alike_triangles _ m ts
  | box name corner size =>
      exact alike_bind (alike_material line name) fun m => alike_triangles _ m _
  | torus name center tube ring =>
      refine alike_bind (alike_material line name) fun m => ?_
      exact alike_bind (alike_orCrash _) fun ts => alike_triangles _ m ts
  | line start stop => exact alike_edge _ start stop
  | display => exact alike_present houtlet line
  | save name => exact alike_save houtlet _
  | unknown keyword tokens => exact alike_throw _
  | frames _ | basename _ | vary _ _ _ _ _ | finish => exact alike_pure ()

end SameDirective

/-- Two steps that lead equal frames over related outlets to the same end. -/
def InStep
    (R : σ → τ → Prop)
    (first : Drawing σ Unit)
    (second : Drawing τ Unit) :
    Prop :=
  ∀ s t, Session.InStep R s t → SameEnd (Session.InStep R) (first s) (second t)

section Steps

variable {R : σ → τ → Prop} {settings : Settings} {first : Outlet σ} {second : Outlet τ}

theorem inStep_pure :
    InStep R (pure ()) (pure ()) :=
  fun _ _ h => .done h

theorem inStep_bind
    {step : Drawing σ Unit}
    {other : Drawing τ Unit}
    {next : Unit → Drawing σ Unit}
    {follow : Unit → Drawing τ Unit}
    (hstep : InStep R step other)
    (hnext : InStep R (next ()) (follow ())) :
    InStep R (step >>= next) (other >>= follow) := by
  intro s t h
  have hend := hstep s t h
  simp only [bind, EStateM.bind]
  generalize step s = left at hend
  generalize other t = right at hend
  cases hend with
  | done related => exact hnext _ _ related
  | failed failure related => exact .failed failure related

/-- Steps that look alike with any knob values, and keep the warnings, run in lockstep. -/
theorem inStep_of_alike
    {step : Drawing σ Unit}
    {other : Drawing τ Unit}
    (halike : ∀ knobs, Alike R knobs knobs step other)
    (hstep : Relates Frame.WarnsLike step)
    (hother : Relates Frame.WarnsLike other) :
    InStep R step other := by
  intro s t h
  have hview : s.frame.view = t.frame.view := by rw [h.frame]
  have hknobs : t.frame.knobs = s.frame.knobs := by rw [h.frame]
  have hends := halike s.frame.knobs s t ⟨hview, h.outside, rfl, hknobs⟩
  have hleft := hstep s
  have hright := hother t
  rw [← h.frame] at hright
  generalize step s = left at hends hleft
  generalize other t = right at hends hright
  cases hends with
  | done _ alike => exact .done (alike.inStep hleft hright)
  | failed failure alike => exact .failed failure (alike.inStep hleft hright)

theorem inStep_save
    (houtlet : Outlet.Alike R first second)
    (path : Path) :
    InStep R (save first path) (save second path) :=
  have hchained := Frame.respected_warnsLike.toChained
  have hwritten := Frame.respected_warnsLike.written
  inStep_of_alike (fun _ => alike_save houtlet path)
    (relates_save first hchained hwritten path) (relates_save second hchained hwritten path)

theorem inStep_perform
    (houtlet : Outlet.Alike R first second)
    (line : Int)
    (directive : Directive) :
    InStep R (perform settings first line directive) (perform settings second line directive) :=
  inStep_of_alike (fun _ => alike_perform houtlet line directive)
    (relates_perform first Frame.respected_warnsLike settings line directive)
    (relates_perform second Frame.respected_warnsLike settings line directive)

theorem inStep_warn
    {s : Session σ}
    {t : Session τ}
    (h : Session.InStep R s t)
    (error : ScriptError) :
    Session.InStep R (s.warn error) (t.warn error) := by
  obtain ⟨hframe, houtside⟩ := h
  simp only [Session.warn, hframe]
  split
  · exact ⟨rfl, houtside⟩
  · exact ⟨hframe, houtside⟩

/-- A statement runs in lockstep with itself. -/
theorem inStep_execute
    (houtlet : Outlet.Alike R first second)
    (statement : Statement) :
    InStep R (execute settings first statement) (execute settings second statement) := by
  intro s t h
  have hend : SameEnd (Session.InStep R)
      (perform settings first statement.line statement.directive
        (s.note (.executing s.frame.index statement)))
      (perform settings second statement.line statement.directive
        (t.note (.executing t.frame.index statement))) :=
    inStep_perform houtlet statement.line statement.directive _ _ ⟨h.frame, h.outside⟩
  simp only [execute]
  generalize perform settings first statement.line statement.directive _ = left at hend
  generalize perform settings second statement.line statement.directive _ = right at hend
  cases hend with
  | done related => exact .done related
  | failed failure related =>
      cases failure with
      | crash cause => exact .failed _ related
      | script error =>
          simp only
          split
          · exact .failed _ related
          · exact .done (inStep_warn related _)

end Steps

end Drawing
end Diorama
