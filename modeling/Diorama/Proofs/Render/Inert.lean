import Diorama.Proofs.Render.Interleaving
import Diorama.Proofs.Render.Warnings

/-!
# Inert directives

A directive that is not supported is passed over, and one that shows the canvas only shows it.  A
run comes to the same without them, whatever the viewer answers, apart from the warnings.

**Main statements.**
* `alike_replay_active`: a replay is alike to that of the active statements.
* `Running.sameEnd_frame_active`: so is a frame, apart from its warnings.
* `inert_directives`: whole runs, with and without the inert directives.
-/

namespace Diorama

/-- Whether a directive neither draws nor writes anything. -/
def Directive.isInert : Directive → Bool
  | unknown .. | display => true
  | _ => false

namespace Script

/-- The statements that are not inert, on their lines. -/
def active
    (statements : List Statement) :
    List Statement :=
  statements.filter fun statement => !statement.directive.isInert

theorem active_cons_of_inert
    {statement : Statement}
    (h : statement.directive.isInert = true)
    (rest : List Statement) :
    active (statement :: rest) = active rest := by
  simp [active, h]

theorem active_cons_of_not_inert
    {statement : Statement}
    (h : statement.directive.isInert = false)
    (rest : List Statement) :
    active (statement :: rest) = statement :: active rest := by
  simp [active, h]

theorem body_active
    (statements : List Statement) :
    body (active statements) = active (body statements) := by
  refine body_filter (fun statement hend => ?_) statements
  rw [hend]
  rfl

/-- What settles the animation is not inert. -/
theorem plan_active
    (statements : List Statement) :
    plan (active statements) = plan statements := by
  rw [plan, plan, active, List.filter_filter]
  refine List.filter_congr fun statement _ => ?_
  cases statement.directive <;> rfl

end Script

variable {σ τ : Type} {R : σ → τ → Prop} {first : Outlet σ} {second : Outlet τ}

/-- What an outlet shows leaves no trace that a relation looks at. -/
def Outlet.ShowsUnseen
    (R : σ → τ → Prop)
    (outlet : Outlet σ) :
    Prop :=
  ∀ canvas s t, R s t → R (outlet.present canvas s).2 t

namespace Drawing

variable {knobs : Named Float}

/-- An inert directive is done, and the session looks as it did. -/
theorem execute_of_inert
    (hunseen : first.ShowsUnseen R)
    (settings : Settings)
    {statement : Statement}
    (h : statement.directive.isInert = true)
    {s : Session σ}
    {t : Session τ}
    (halike : Session.Alike R knobs knobs s t) :
    ∃ s', execute settings first statement s = .ok () s' ∧ Session.Alike R knobs knobs s' t := by
  obtain ⟨line, directive⟩ := statement
  cases directive with
  | unknown keyword tokens =>
      have hunknown : (Statement.mk line (.unknown keyword tokens)).directive
          = .unknown keyword tokens := rfl
      obtain ⟨notices, hdone⟩ := execute_unknown hunknown
      exact ⟨_, hdone, halike.view, halike.outside, halike.knobs, halike.others⟩
  | display =>
      have hshown := hunseen s.frame.canvas s.outside t.outside halike.outside
      have hdone : ∃ notices, execute settings first ⟨line, .display⟩ s
          = .ok () ⟨s.frame, (first.present s.frame.canvas s.outside).2, notices⟩ := by
        simp only [execute, perform, present, Session.note]
        rcases first.present s.frame.canvas s.outside with ⟨answer, outside⟩
        cases answer with
        | ok _ | error text => exact ⟨_, rfl⟩
      obtain ⟨notices, hdone⟩ := hdone
      exact ⟨_, hdone, halike.view, hshown, halike.knobs, halike.others⟩
  | _ => cases h

/-- A walk over statements is alike to the walk over those that are active. -/
theorem alike_forM_active
    (houtlet : Outlet.Alike R first second)
    (hunseen : first.ShowsUnseen R)
    (settings : Settings)
    (statements : List Statement) :
    Alike R knobs knobs
      (statements.forM (execute settings first))
      ((Script.active statements).forM (execute settings second)) := by
  induction statements with
  | nil => exact alike_pure ()
  | cons statement rest ih =>
      cases hinert : statement.directive.isInert with
      | true =>
          intro s t h
          obtain ⟨s', hdone, hnext⟩ := execute_of_inert hunseen settings hinert h
          rw [Script.active_cons_of_inert hinert, forM_cons, hdone]
          exact ih s' t hnext
      | false =>
          rw [Script.active_cons_of_not_inert hinert]
          exact alike_bind (alike_execute (alike_perform houtlet _ _)) fun _ => ih

/-- A replay is alike to that of the active statements. -/
theorem alike_replay_active
    (houtlet : Outlet.Alike R first second)
    (hunseen : first.ShowsUnseen R)
    (settings : Settings)
    (statements : List Statement) :
    Alike R knobs knobs
      (replay settings first statements)
      (replay settings second (Script.active statements)) := by
  rw [replay_eq_forM, replay_eq_forM, Script.body_active]
  exact alike_forM_active houtlet hunseen settings (Script.body statements)

end Drawing

/-! ## Runs without their warnings -/

/-- A result without its warnings. -/
def RunResult.unwarned
    (r : RunResult) :
    RunResult :=
  { r with warnings := [] }

/-- Progress without the warnings of its result. -/
def Progress.unwarned
    (p : Progress σ) :
    Progress σ :=
  { p with result := p.result.unwarned }

/-- An outcome without the warnings of its result. -/
def RunOutcome.unwarned
    (outcome : RunOutcome σ) :
    RunOutcome σ :=
  { outcome with result := outcome.result.map RunResult.unwarned }

/-- The parts of a result apart from its warnings, read off progress in step. -/
theorem Progress.parts_of_unwarned
    {p : Progress σ}
    {q : Progress τ}
    (h : Progress.InStep R p.unwarned q.unwarned) :
    p.result.animation = q.result.animation ∧ p.result.knobs = q.result.knobs ∧
      p.result.frameCount = q.result.frameCount ∧ p.result.written = q.result.written := by
  have hresult := h.result
  simp only [unwarned, RunResult.unwarned, RunResult.mk.injEq, and_true] at hresult
  exact hresult

/-- What alike frames add to a result is the same, apart from their warnings. -/
theorem Progress.inStep_collect_of_alike
    {p : Progress σ}
    {q : Progress τ}
    {s : Session σ}
    {t : Session τ}
    {knobs others : Named Float}
    (h : Progress.InStep R p.unwarned q.unwarned)
    (halike : Session.Alike R knobs others s t) :
    Progress.InStep R (p.collect s).unwarned (q.collect t).unwarned := by
  obtain ⟨hanimation, hknobs, hcount, hwritten⟩ := parts_of_unwarned h
  obtain ⟨_, _, _, _, _, hframe⟩ := Drawing.alike_parts halike
  refine ⟨?_, halike.outside⟩
  simp only [unwarned, RunResult.unwarned, collect, hanimation, hknobs, hcount, hwritten, hframe]

namespace Running

/-- A frame ends as that of the active statements, apart from its warnings. -/
theorem sameEnd_frame_active
    (houtlet : Outlet.Alike R first second)
    (hunseen : first.ShowsUnseen R)
    (settings : Settings)
    (statements : List Statement)
    (index : Nat)
    (p : Progress σ)
    (q : Progress τ)
    (h : Progress.InStep R p.unwarned q.unwarned) :
    SameEnd (fun p q => Progress.InStep R p.unwarned q.unwarned)
      (frame settings first statements index p)
      (frame settings second (Script.active statements) index q) := by
  obtain ⟨hanimation, hknobs, _, _⟩ := Progress.parts_of_unwarned h
  let knobs := q.result.knobs.valuesOn index
  have hdrawing : Drawing.Alike R knobs knobs
      (drawing settings first statements q.result.animation index)
      (drawing settings second (Script.active statements) q.result.animation index) := by
    refine Drawing.alike_bind
      (Drawing.alike_replay_active houtlet hunseen settings statements) fun _ => ?_
    split
    · exact Drawing.alike_save houtlet _
    · exact Drawing.alike_pure ()
  have hends := hdrawing
    ⟨Frame.start settings index knobs, p.outside, #[]⟩
    ⟨Frame.start settings index knobs, q.outside, #[]⟩
    ⟨rfl, h.outside, rfl, rfl⟩
  simp only [frame, hanimation, hknobs]
  generalize drawing settings first statements q.result.animation index _ = left at hends
  generalize drawing settings second (Script.active statements) _ index _ = right at hends
  cases hends with
  | done _ halike =>
      have hcollect := Progress.inStep_collect_of_alike h halike
      exact .done (Progress.inStep_finishFrame hcollect index)
  | failed failure halike => exact .failed _ (Progress.inStep_collect_of_alike h halike)

end Running

theorem RunOutcome.agree_unwarned_ofFrames
    {left : EStateM.Result Failure (Progress σ) Unit}
    {right : EStateM.Result Failure (Progress τ) Unit}
    (h : SameEnd (fun p q => Progress.InStep R p.unwarned q.unwarned) left right) :
    Agree R (ofFrames left).unwarned (ofFrames right).unwarned := by
  cases h with
  | done h => exact ⟨congrArg some h.result, rfl, h.outside⟩
  | failed failure h => exact ⟨congrArg some h.result, rfl, h.outside⟩

/-- A run agrees with that of the active statements, apart from its warnings. -/
theorem agree_run_active
    (houtlet : Outlet.Alike R first second)
    (hunseen : first.ShowsUnseen R)
    (settings : Settings)
    (statements : List Statement)
    {outside : σ}
    {beside : τ}
    (hstate : R outside beside) :
    RunOutcome.Agree R
      (run settings first statements outside).unwarned
      (run settings second (Script.active statements) beside).unwarned := by
  refine run_of_plan (Q := fun outcome other => RunOutcome.Agree R outcome.unwarned other.unwarned)
    (Script.plan_active statements).symm (fun error notices => ⟨rfl, rfl, hstate⟩) ?_
  intro animation knobs notices more indices
  exact RunOutcome.agree_unwarned_ofFrames (Running.sameEnd_frames_of
    (Running.sameEnd_frame_active houtlet hunseen settings statements) indices ⟨rfl, hstate⟩)

/-- What a recording outlet shows leaves no trace either. -/
theorem Outlet.ShowsUnseen.recording
    (h : first.ShowsUnseen R) :
    first.recording.ShowsUnseen
      fun s (t : τ × List (Path × Canvas Float)) => R s.1 t.1 ∧ s.2 = t.2 :=
  fun canvas s t hst => ⟨h canvas s.1 t.1 hst.1, hst.2⟩

/--
The inert directives of a script make no difference, whatever the viewer answers: without them a
run comes to the same animation, knob values, files and number of frames, fails in the same way if
it fails, and saves the same pictures.  A completed run warns once of every directive that is not
supported, in order and on its line.
-/
theorem inert_directives
    (houtlet : Outlet.Alike R first second)
    (hunseen : first.ShowsUnseen R)
    (hsaving : first.FailsBySaving)
    (settings : Settings)
    {text : Text}
    {statements : List Statement}
    (hread : Script.read text = .ok statements)
    {outside : σ}
    {beside : τ}
    (hstate : R outside beside) :
    RunOutcome.Agree R
        (run settings first statements outside).unwarned
        (run settings second (Script.active statements) beside).unwarned
      ∧ (run settings first.recording statements (outside, [])).outside.2
          = (run settings second.recording (Script.active statements) (beside, [])).outside.2
      ∧ ((run settings first statements outside).failure = none →
          ∃ result, (run settings first statements outside).result = some result
            ∧ result.warnings = Script.unsupported statements) := by
  have hrecorded : RunOutcome.Agree (fun s t => R s.1 t.1 ∧ s.2 = t.2)
      (run settings first.recording statements (outside, [])).unwarned
      (run settings second.recording (Script.active statements) (beside, [])).unwarned :=
    agree_run_active (Outlet.alike_recording houtlet) hunseen.recording settings statements
      ⟨hstate, rfl⟩
  exact ⟨agree_run_active houtlet hunseen settings statements hstate, hrecorded.outside.2,
    warnings_run hsaving settings hread outside⟩

/-- An outlet that takes every picture and counts its calls, and whose viewer fails. -/
def Outlet.blind : Outlet (Nat × Nat) where
  save := fun _ path s => (.ok path, s.1 + 1, s.2)
  present := fun _ s => (.error "no screen", s.1, s.2 + 1)

/-- A directive that is not supported and a viewer that fails, on two frames. -/
theorem inert_directives_blind :
    let text : Text := "frames 2\nmesh a\ndisplay\nsave b\n"
    let sameSaves (s t : Nat × Nat) : Prop := s.1 = t.1
    ∃ statements, Script.read text = .ok statements
      ∧ RunOutcome.Agree sameSaves
          (run {} Outlet.blind statements (0, 0)).unwarned
          (run {} Outlet.blind (Script.active statements) (0, 0)).unwarned
      ∧ ∃ result, (run {} Outlet.blind statements (0, 0)).result = some result
        ∧ result.warnings = [.onLine (.unsupportedDirective "mesh") 2] := by
  intro text sameSaves
  let statements : List Statement :=
    [⟨1, .frames ⟨2, 2⟩⟩, ⟨2, .unknown "mesh" ["a"]⟩, ⟨3, .display⟩, ⟨4, .save "b"⟩, ⟨5, .finish⟩]
  have hread : Script.read text = .ok statements := by decide +kernel
  have houtlet : Outlet.Alike sameSaves Outlet.blind Outlet.blind :=
    ⟨fun _ _ _ _ _ => rfl, fun _ _ _ _ h => congrArg (· + 1) h, fun _ _ _ h => h⟩
  have hunseen : Outlet.blind.ShowsUnseen sameSaves := fun _ _ _ h => h
  have hsaving : Outlet.blind.FailsBySaving := fun _ _ _ _ h => by cases h
  have hdone : (run {} Outlet.blind statements (0, 0)).failure = none := by decide +kernel
  obtain ⟨hagree, _, hwarnings⟩ := inert_directives houtlet hunseen hsaving {} hread rfl
  exact ⟨statements, hread, hagree, hwarnings hdone⟩

end Diorama
