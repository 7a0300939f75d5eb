import Diorama.Proofs.Animation.Settling
import Diorama.Proofs.Render.Lockstep
import Diorama.Proofs.Render.Specialisation

/-!
# Interleavings of a plan and a picture

The statements of a script fall into two parts.  Its plan settles the animation before anything is
drawn, and does nothing on a frame; its picture is what the frames perform, and does nothing to the
animation.  A run does not depend on how the two parts are interleaved: both passes over a script
can be read on the part that matters to them.

**Main statements.**
* `scan_plan`, `knobTable_plan`: an animation is settled by the plan of its script.
* `inStep_replay_picture`: a replay runs in lockstep with that of the picture alone.
* `Running.sameEnd_frame`, `Running.sameEnd_frames`: one frame, and then all frames.
* `run_interleaved`: two interleavings of a plan and a picture are run alike.
-/

namespace Diorama

/-- Whether a directive settles the animation. -/
def Directive.plans : Directive → Bool
  | frames _ | basename _ | vary .. => true
  | _ => false

namespace Script

/-- The statements that settle the animation. -/
def plan
    (statements : List Statement) :
    List Statement :=
  statements.filter fun statement => statement.directive.plans

/-- The statements that are drawn, with the end marker. -/
def picture
    (statements : List Statement) :
    List Statement :=
  statements.filter fun statement => !statement.directive.plans

theorem picture_cons_of_plans
    {statement : Statement}
    (h : statement.directive.plans = true)
    (rest : List Statement) :
    picture (statement :: rest) = picture rest := by
  simp [picture, h]

theorem picture_cons_of_not_plans
    {statement : Statement}
    (h : statement.directive.plans = false)
    (rest : List Statement) :
    picture (statement :: rest) = statement :: picture rest := by
  simp [picture, h]

/-- The picture of a body is the body of the picture: the end marker is no plan. -/
theorem body_picture
    (statements : List Statement) :
    body (picture statements) = picture (body statements) := by
  refine body_filter (fun statement hend => ?_) statements
  rw [hend]
  rfl

end Script

namespace Animation

theorem observe_of_not_plans
    {s : Statement}
    (h : s.directive.plans = false)
    (a : Animation) :
    a.observe s = a := by
  obtain ⟨line, directive⟩ := s
  cases directive <;> first | rfl | cases h

theorem enterStatement_of_not_plans
    {s : Statement}
    (h : s.directive.plans = false)
    (frameCount : Nat)
    (t : KnobTable) :
    enterStatement frameCount t s = .ok t := by
  obtain ⟨line, directive⟩ := s
  cases directive <;> first | rfl | cases h

/-- What varies a knob belongs to the plan. -/
theorem plans_and_varies
    (directive : Directive) :
    (directive.plans && directive.varies) = directive.varies := by
  cases directive <;> rfl

/-- The plan of an animation is that of the statements that settle it. -/
theorem scan_plan
    (statements : List Statement)
    (defaultBasename : Text) :
    scan (Script.plan statements) defaultBasename = scan statements defaultBasename := by
  have hstep : (fun (a : Animation) (s : Statement) =>
      if s.directive.plans = true then a.observe s else a) = observe := by
    funext a s
    split
    · rfl
    · rename_i hplans
      exact (observe_of_not_plans (by simpa using hplans) a).symm
  rw [scan, scan, Script.plan, List.foldl_filter, hstep]

/-- The knob values of an animation are those of the statements that settle it. -/
theorem knobTable_plan
    (a : Animation)
    (statements : List Statement) :
    a.knobTable (Script.plan statements) = a.knobTable statements := by
  have hfirst : firstVaryLine? (Script.plan statements) = firstVaryLine? statements := by
    simp only [firstVaryLine?_eq, Script.plan, List.find?_filter, Bool.decide_and,
      Bool.decide_eq_true, plans_and_varies]
  have hstep (frameCount : Nat) : (fun (t : KnobTable) (s : Statement) =>
      if s.directive.plans = true then enterStatement frameCount t s else pure t)
        = enterStatement frameCount := by
    funext t s
    split
    · rfl
    · rename_i hplans
      exact (enterStatement_of_not_plans (by simpa using hplans) frameCount t).symm
  have hramps (frameCount : Nat) (t : KnobTable) :
      (Script.plan statements).foldlM (enterStatement frameCount) t
        = statements.foldlM (enterStatement frameCount) t := by
    rw [Script.plan, List.foldlM_filter, hstep]
  simp only [knobTable, hfirst, hramps]

end Animation

variable {σ τ : Type} {R : σ → τ → Prop} {first : Outlet σ} {second : Outlet τ}
  {statements others : List Statement}

namespace Drawing

/-- On a frame a statement of the plan leaves nothing but a notice. -/
theorem execute_of_plans
    {statement : Statement}
    (h : statement.directive.plans = true)
    (settings : Settings)
    (outlet : Outlet σ)
    (s : Session σ) :
    execute settings outlet statement s = .ok () (s.note (.executing s.frame.index statement)) := by
  obtain ⟨line, directive⟩ := statement
  cases directive <;> first | rfl | cases h

/-- A walk over statements runs in lockstep with one that leaves out the plan. -/
theorem inStep_forM_picture
    (houtlet : Outlet.Alike R first second)
    (settings : Settings)
    (statements : List Statement) :
    InStep R
      (statements.forM (execute settings first))
      ((Script.picture statements).forM (execute settings second)) := by
  induction statements with
  | nil => exact inStep_pure
  | cons statement rest ih =>
      cases hplans : statement.directive.plans with
      | true =>
          -- only a notice is left of the statement, and sessions in step may differ in notices
          intro s t h
          rw [Script.picture_cons_of_plans hplans, forM_cons, execute_of_plans hplans]
          exact ih _ t ⟨h.frame, h.outside⟩
      | false =>
          rw [Script.picture_cons_of_not_plans hplans]
          exact inStep_bind (inStep_execute houtlet statement) ih

/-- A replay runs in lockstep with that of the picture alone. -/
theorem inStep_replay_picture
    (houtlet : Outlet.Alike R first second)
    (settings : Settings)
    (statements : List Statement) :
    InStep R
      (replay settings first statements)
      (replay settings second (Script.picture statements)) := by
  rw [replay_eq_forM, replay_eq_forM, Script.body_picture]
  exact inStep_forM_picture houtlet settings (Script.body statements)

/-- Scripts with the same picture are replayed in lockstep. -/
theorem inStep_replay
    (houtlet : Outlet.Alike R first second)
    (settings : Settings)
    (hpicture : Script.picture statements = Script.picture others) :
    InStep R (replay settings first statements) (replay settings second others) := by
  intro s t h
  have hleft := inStep_replay_picture houtlet settings statements s t h
  have hright := inStep_replay_picture (Outlet.alike_refl second) settings others t t ⟨rfl, rfl⟩
  rw [hpicture] at hleft
  refine SameEnd.meet ?_ hleft hright
  intro a b c hab hcb
  exact ⟨hab.frame.trans hcb.frame.symm, hcb.outside ▸ hab.outside⟩

end Drawing

/-- Two runs that have come to the same result over related outlets. -/
structure Progress.InStep
    (R : σ → τ → Prop)
    (p : Progress σ)
    (q : Progress τ) : Prop where
  result : p.result = q.result
  outside : R p.outside q.outside

namespace Progress

theorem inStep_collect
    {p : Progress σ}
    {q : Progress τ}
    {s : Session σ}
    {t : Session τ}
    (hprogress : Progress.InStep R p q)
    (hsession : Session.InStep R s t) :
    Progress.InStep R (p.collect s) (q.collect t) := by
  refine ⟨?_, hsession.outside⟩
  simp only [collect, hprogress.result, hsession.frame]

theorem inStep_finishFrame
    {p : Progress σ}
    {q : Progress τ}
    (h : Progress.InStep R p q)
    (index : Nat) :
    Progress.InStep R (p.finishFrame index) (q.finishFrame index) := by
  refine ⟨?_, h.outside⟩
  simp only [finishFrame, h.result]

end Progress

namespace Running

/-- Scripts with the same picture draw a frame in lockstep. -/
theorem inStep_drawing
    (houtlet : Outlet.Alike R first second)
    (settings : Settings)
    (hpicture : Script.picture statements = Script.picture others)
    (animation : Animation)
    (index : Nat) :
    Drawing.InStep R
      (drawing settings first statements animation index)
      (drawing settings second others animation index) := by
  refine Drawing.inStep_bind (Drawing.inStep_replay houtlet settings hpicture) ?_
  split
  · exact Drawing.inStep_save houtlet _
  · exact Drawing.inStep_pure

/-- One frame of scripts with the same picture. -/
theorem sameEnd_frame
    (houtlet : Outlet.Alike R first second)
    (settings : Settings)
    (hpicture : Script.picture statements = Script.picture others)
    (index : Nat)
    {p : Progress σ}
    {q : Progress τ}
    (h : Progress.InStep R p q) :
    SameEnd (Progress.InStep R)
      (frame settings first statements index p)
      (frame settings second others index q) := by
  have hend := inStep_drawing houtlet settings hpicture q.result.animation index
    ⟨Frame.start settings index (q.result.knobs.valuesOn index), p.outside, #[]⟩
    ⟨Frame.start settings index (q.result.knobs.valuesOn index), q.outside, #[]⟩
    ⟨rfl, h.outside⟩
  simp only [frame, h.result]
  generalize drawing settings first statements q.result.animation index _ = left at hend
  generalize drawing settings second others q.result.animation index _ = right at hend
  cases hend with
  | done hsession =>
      exact .done (Progress.inStep_finishFrame (Progress.inStep_collect h hsession) index)
  | failed failure hsession => exact .failed _ (Progress.inStep_collect h hsession)

/-- Frames drawn one after the other end alike if each of them does. -/
theorem sameEnd_frames_of
    {P : Progress σ → Progress τ → Prop}
    {settings : Settings}
    (hframe : ∀ index p q, P p q →
      SameEnd P
        (frame settings first statements index p)
        (frame settings second others index q))
    (indices : List Nat)
    {p : Progress σ}
    {q : Progress τ}
    (h : P p q) :
    SameEnd P
      (frames settings first statements indices p)
      (frames settings second others indices q) := by
  induction indices generalizing p q with
  | nil => exact .done h
  | cons index rest ih =>
      have hend := hframe index p q h
      simp only [frames, bind, EStateM.bind]
      generalize frame settings first statements index p = left at hend
      generalize frame settings second others index q = right at hend
      cases hend with
      | done hnext => exact ih hnext
      | failed failure hnext => exact .failed failure hnext

/-- All frames of scripts with the same picture. -/
theorem sameEnd_frames
    (houtlet : Outlet.Alike R first second)
    (settings : Settings)
    (hpicture : Script.picture statements = Script.picture others)
    (indices : List Nat)
    {p : Progress σ}
    {q : Progress τ}
    (h : Progress.InStep R p q) :
    SameEnd (Progress.InStep R)
      (frames settings first statements indices p)
      (frames settings second others indices q) :=
  sameEnd_frames_of (fun index _ _ => sameEnd_frame houtlet settings hpicture index) indices h

end Running

/-- Two runs with the same result and the same failure, if they fail, over related outlets. -/
structure RunOutcome.Agree
    (R : σ → τ → Prop)
    (outcome : RunOutcome σ)
    (other : RunOutcome τ) : Prop where
  result : outcome.result = other.result
  failure : outcome.failure = other.failure
  outside : R outcome.outside other.outside

theorem RunOutcome.agree_ofFrames
    {left : EStateM.Result Failure (Progress σ) Unit}
    {right : EStateM.Result Failure (Progress τ) Unit}
    (h : SameEnd (Progress.InStep R) left right) :
    Agree R (ofFrames left) (ofFrames right) := by
  cases h with
  | done h => exact ⟨congrArg some h.result, rfl, h.outside⟩
  | failed failure h => exact ⟨congrArg some h.result, rfl, h.outside⟩

/-- Two scripts with the same plan are both refused, or both drawn from the same start. -/
theorem run_of_plan
    {Q : RunOutcome σ → RunOutcome τ → Prop}
    {settings : Settings}
    {outside : σ}
    {beside : τ}
    (hplan : Script.plan statements = Script.plan others)
    (hrefused : ∀ error notices,
      Q ⟨none, some (.script error), outside, notices⟩
        ⟨none, some (.script error), beside, notices⟩)
    (hdrawn : ∀ animation knobs notices more,
      let indices := List.range animation.framesToRender
      Q (.ofFrames (Running.frames settings first statements indices
          ⟨⟨animation, knobs, 0, [], []⟩, outside, notices⟩))
        (.ofFrames (Running.frames settings second others indices
          ⟨⟨animation, knobs, 0, [], []⟩, beside, more⟩))) :
    Q (run settings first statements outside) (run settings second others beside) := by
  let animation := Animation.scan others settings.output.basename
  have hscan : Animation.scan statements settings.output.basename = animation := by
    rw [← Animation.scan_plan, hplan, Animation.scan_plan]
  have htable : animation.knobTable statements = animation.knobTable others := by
    rw [← Animation.knobTable_plan, hplan, Animation.knobTable_plan]
  cases hknobs : animation.knobTable others with
  | error error =>
      simp only [run, hscan, htable]
      rw [hknobs]
      exact hrefused error _
  | ok knobs =>
      obtain ⟨notices, hleft⟩ := run_eq first outside hscan (htable.trans hknobs)
      obtain ⟨more, hright⟩ := run_eq second beside rfl hknobs
      rw [hleft, hright]
      exact hdrawn animation knobs notices more

/-- Two interleavings of one plan and one picture agree over alike outlets. -/
theorem agree_run
    (houtlet : Outlet.Alike R first second)
    (settings : Settings)
    (hplan : Script.plan statements = Script.plan others)
    (hpicture : Script.picture statements = Script.picture others)
    {outside : σ}
    {beside : τ}
    (hstate : R outside beside) :
    RunOutcome.Agree R
      (run settings first statements outside)
      (run settings second others beside) := by
  refine run_of_plan hplan (fun error notices => ⟨rfl, rfl, hstate⟩) ?_
  intro animation knobs notices more indices
  exact RunOutcome.agree_ofFrames
    (Running.sameEnd_frames houtlet settings hpicture indices ⟨rfl, hstate⟩)

/--
Two scripts that interleave the same plan with the same picture are run alike, over outlets that
answer alike: they come to the same animation, knob values, files, number of frames and warnings,
they fail in the same way if they fail, and the same pictures are saved.
-/
theorem run_interleaved
    (houtlet : Outlet.Alike R first second)
    (settings : Settings)
    (hplan : Script.plan statements = Script.plan others)
    (hpicture : Script.picture statements = Script.picture others)
    {outside : σ}
    {beside : τ}
    (hstate : R outside beside) :
    RunOutcome.Agree R
        (run settings first statements outside)
        (run settings second others beside)
      ∧ (run settings first.recording statements (outside, [])).outside.2
          = (run settings second.recording others (beside, [])).outside.2 := by
  have hrecorded : RunOutcome.Agree (fun s t => R s.1 t.1 ∧ s.2 = t.2)
      (run settings first.recording statements (outside, []))
      (run settings second.recording others (beside, [])) :=
    agree_run (Outlet.alike_recording houtlet) settings hplan hpicture ⟨hstate, rfl⟩
  exact ⟨agree_run houtlet settings hplan hpicture hstate, hrecorded.outside.2⟩

/-- A plan in front of its picture, and one scattered behind and into it. -/
theorem run_interleaved_scattered :
    let statements : List Statement :=
      [⟨1, .frames ⟨2, 2⟩⟩, ⟨2, .vary "k" ⟨0, 0⟩ ⟨1, 1⟩ 0 4⟩, ⟨3, .basename (some "b")⟩,
        ⟨4, .move ⟨1, 2, 3⟩ (some "k")⟩, ⟨5, .save "a"⟩, ⟨6, .finish⟩]
    let others : List Statement :=
      [⟨4, .move ⟨1, 2, 3⟩ (some "k")⟩, ⟨1, .frames ⟨2, 2⟩⟩, ⟨5, .save "a"⟩,
        ⟨2, .vary "k" ⟨0, 0⟩ ⟨1, 1⟩ 0 4⟩, ⟨3, .basename (some "b")⟩, ⟨6, .finish⟩]
    Script.plan statements = Script.plan others
      ∧ Script.picture statements = Script.picture others
      ∧ RunOutcome.Agree Eq
          (run {} Outlet.accepting statements ())
          (run {} Outlet.accepting others ())
      ∧ (run {} Outlet.accepting.recording statements ((), [])).outside.2
          = (run {} Outlet.accepting.recording others ((), [])).outside.2 := by
  intro statements others
  have hplan : Script.plan statements = Script.plan others := rfl
  have hpicture : Script.picture statements = Script.picture others := rfl
  refine ⟨hplan, hpicture, ?_⟩
  exact run_interleaved (Outlet.alike_refl Outlet.accepting) {} hplan hpicture rfl

end Diorama
