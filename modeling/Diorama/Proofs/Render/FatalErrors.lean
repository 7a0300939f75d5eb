import Diorama.Proofs.Render.Replay
import Diorama.Proofs.Render.Steps
import Diorama.Proofs.Script.FrameCount
import Mathlib.Control.Monad.Basic

/-!
# Fatal errors

Whether a run ends with an error of its script is decided by the script alone: the first offence in
it ends the first frame, and a script without offence is drawn to its last frame.  What can come in
between is a crash; as far as drawing does not crash, the only one is a rotation whose angle a knob
makes infinite.

**Main statements.**
* `replayed`, `framed`, `framedAll`: what a replay, a frame and a list of frames come to.
* `fatal_errors_decided`: the script decides, exactly as long as no angle gets infinite.
-/

namespace Diorama

variable {σ : Type} {settings : Settings} {outlet : Outlet σ}

/-- An outlet that takes every picture. -/
def Outlet.TakesAll
    (outlet : Outlet σ) :
    Prop :=
  ∀ canvas path outside, ∃ saved, (outlet.save canvas path outside).1 = .ok saved

namespace Drawing

variable {before rest : List Statement} {s : Session σ}

/-- What replaying the rest of a script comes to. -/
inductive Replayed
    (before rest : List Statement)
    (s : Session σ) :
    EStateM.Result Failure (Session σ) Unit → Prop
  | finished
      {t : Session σ}
      (sound : Script.firstOffence? before rest = none)
      (turns : ∀ statement ∈ Script.reached before rest,
        ¬statement.directive.TurnsInfinitely s.frame.knobs) :
      Replayed before rest s (.ok () t)
  | refused
      {statement : Statement}
      {fault : Fault}
      {t : Session σ}
      (offends : Script.firstOffence? before rest = some (statement, fault))
      (turns : ∀ statement ∈ Script.reached before rest,
        ¬statement.directive.TurnsInfinitely s.frame.knobs) :
      Replayed before rest s (.error (.script (.onLine fault statement.line)) t)
  | crashed
      {cause : Crash}
      {t : Session σ}
      (turns : cause = .infiniteAngle → ∃ statement ∈ Script.reached before rest,
        statement.directive.TurnsInfinitely s.frame.knobs) :
      Replayed before rest s (.error (.crash cause) t)

/-- A statement that is done is followed by what the rest comes to. -/
theorem Replayed.cons
    {statement : Statement}
    {t : Session σ}
    {result : EStateM.Result Failure (Session σ) Unit}
    (hsound : Script.offence? before statement.directive = none)
    (hturns : ¬statement.directive.TurnsInfinitely s.frame.knobs)
    (hknobs : t.frame.knobs = s.frame.knobs)
    (h : Replayed (before ++ [statement]) rest t result) :
    Replayed before (statement :: rest) s result := by
  have hfirst : Script.firstOffence? before (statement :: rest)
      = Script.firstOffence? (before ++ [statement]) rest := by
    simp only [Script.firstOffence?, hsound]
  have hreached : Script.reached before (statement :: rest)
      = statement :: Script.reached (before ++ [statement]) rest := by
    simp only [Script.reached, hsound]
  have hquiet : (∀ later ∈ Script.reached (before ++ [statement]) rest,
        ¬later.directive.TurnsInfinitely t.frame.knobs) →
      ∀ other ∈ Script.reached before (statement :: rest),
        ¬other.directive.TurnsInfinitely s.frame.knobs := by
    intro hlater other hother
    rw [hreached] at hother
    rcases List.mem_cons.mp hother with rfl | hmem
    · exact hturns
    · exact hknobs ▸ hlater other hmem
  cases h with
  | finished sound turns => exact .finished (hfirst.trans sound) (hquiet turns)
  | refused offends turns => exact .refused (hfirst.trans offends) (hquiet turns)
  | crashed turns =>
      refine .crashed fun hcause => ?_
      obtain ⟨other, hother, hturn⟩ := turns hcause
      rw [hreached]
      exact ⟨other, List.mem_cons_of_mem _ hother, hknobs ▸ hturn⟩

/-- A replay behind some statements, over an outlet that takes every picture. -/
theorem replayed
    (houtlet : outlet.TakesAll)
    (hfollows : s.frame.Follows before) :
    Replayed before rest s (rest.forM (execute settings outlet) s) := by
  induction rest generalizing before s with
  | nil => exact .finished rfl (fun _ h => absurd h (by simp [Script.reached]))
  | cons statement rest ih =>
      rw [forM_cons]
      cases hsave : settings.savePath? statement with
      | none =>
          have hexecuted : Executed outlet before statement s
              (execute settings outlet statement s) :=
            executed hfollows hsave
          generalize execute settings outlet statement s = result at hexecuted
          cases hexecuted with
          | done sound turns keeps follows =>
              exact Replayed.cons sound turns keeps.knobs (ih follows)
          | refused offends keeps =>
              refine .refused (by simp only [Script.firstOffence?, offends]) ?_
              simp [Script.reached, offends]
          | crashed sound turns keeps =>
              refine .crashed fun hcause => ⟨statement, ?_, turns.mp hcause⟩
              simp [Script.reached, sound]
      | some path =>
          obtain ⟨_, hsound, hturns⟩ := quiet_of_savePath? before hsave
          obtain ⟨saved, hsaved⟩ := houtlet s.frame.canvas path s.outside
          have hanswer : outlet.save s.frame.canvas path s.outside
              = (.ok saved, (outlet.save s.frame.canvas path s.outside).2) := by
            rw [← hsaved]
          obtain ⟨notices, hdone, hnext⟩ := execute_save_ok hfollows hsave hanswer
          rw [hdone]
          refine Replayed.cons hsound (hturns s.frame.knobs) ?_ (ih hnext)
          rfl

theorem save_of_takesAll
    (houtlet : outlet.TakesAll)
    (path : Path)
    (s : Session σ) :
    ∃ t, save outlet path s = .ok () t := by
  obtain ⟨saved, hsaved⟩ := houtlet s.frame.canvas path s.outside
  simp only [save]
  split
  · exact ⟨_, rfl⟩
  · rename_i failure outside hanswer
    rw [hanswer] at hsaved
    cases hsaved

end Drawing

/-- Some rotation that a script comes to has an infinite angle with given knob values. -/
def Script.TurnsInfinitely
    (statements : List Statement)
    (knobs : Named Float) :
    Prop :=
  ∃ statement ∈ Script.reached [] (Script.body statements),
    statement.directive.TurnsInfinitely knobs

theorem Failure.place_onLine
    (animated : Bool)
    (fault : Fault)
    (line index : Int) :
    (if animated then (Failure.script (.onLine fault line)).withFrame index
      else .script (.onLine fault line))
      = .script ⟨fault, some line, if animated then some index else none⟩ := by
  cases animated <;> rfl

namespace Running

/-- What drawing a frame comes to. -/
inductive Framed
    (statements : List Statement)
    (index : Nat)
    (p : Progress σ) :
    EStateM.Result Failure (Progress σ) Unit → Prop
  | finished
      {q : Progress σ}
      (sound : Script.firstOffence? [] (Script.body statements) = none)
      (turns : ¬Script.TurnsInfinitely statements (p.result.knobs.valuesOn index))
      (animation : q.result.animation = p.result.animation)
      (knobs : q.result.knobs = p.result.knobs)
      (count : q.result.frameCount = p.result.frameCount + 1) :
      Framed statements index p (.ok () q)
  | refused
      {statement : Statement}
      {fault : Fault}
      {q : Progress σ}
      (offends : Script.firstOffence? [] (Script.body statements) = some (statement, fault))
      (turns : ¬Script.TurnsInfinitely statements (p.result.knobs.valuesOn index))
      (count : q.result.frameCount = p.result.frameCount) :
      Framed statements index p
        (.error
          (.script ⟨fault, some statement.line,
            if p.result.animation.isAnimated then some index else none⟩) q)
  | crashed
      {cause : Crash}
      {q : Progress σ}
      (turns : cause = .infiniteAngle →
        Script.TurnsInfinitely statements (p.result.knobs.valuesOn index)) :
      Framed statements index p (.error (.crash cause) q)

/-- Saving the picture of a frame changes nothing of what its replay comes to. -/
theorem drawing_replayed
    (houtlet : outlet.TakesAll)
    (settings : Settings)
    (statements : List Statement)
    (animation : Animation)
    (index : Nat)
    (s : Session σ)
    (hstart : s.frame.Follows []) :
    Drawing.Replayed [] (Script.body statements) s
      (drawing settings outlet statements animation index s) := by
  have hreplay : Drawing.Replayed [] (Script.body statements) s
      (Drawing.replay settings outlet statements s) := by
    rw [Drawing.replay_eq_forM]
    exact Drawing.replayed houtlet hstart
  simp only [drawing, bind, EStateM.bind]
  generalize Drawing.replay settings outlet statements s = result at hreplay
  cases hreplay with
  | refused offends turns => exact .refused offends turns
  | crashed turns => exact .crashed turns
  | @finished t sound turns =>
      simp only
      split
      · obtain ⟨u, hu⟩ := Drawing.save_of_takesAll houtlet (settings.framePath animation index) t
        rw [hu]
        exact .finished sound turns
      · exact .finished sound turns

theorem framed
    (houtlet : outlet.TakesAll)
    (settings : Settings)
    (statements : List Statement)
    (index : Nat)
    (p : Progress σ) :
    Framed statements index p (frame settings outlet statements index p) := by
  have hdrawing := drawing_replayed houtlet settings statements p.result.animation index
    ⟨Frame.start settings index (p.result.knobs.valuesOn index), p.outside, #[]⟩
    (Frame.follows_start settings index _)
  simp only [frame]
  generalize drawing settings outlet statements p.result.animation index _ = result at hdrawing
  cases hdrawing with
  | finished sound turns =>
      refine .finished sound ?_ rfl rfl rfl
      rintro ⟨statement, hreached, hturn⟩
      exact turns statement hreached hturn
  | @refused statement fault t offends turns =>
      have hturns : ¬Script.TurnsInfinitely statements (p.result.knobs.valuesOn index) := by
        rintro ⟨other, hreached, hturn⟩
        exact turns other hreached hturn
      simp only [Failure.place_onLine]
      exact .refused offends hturns rfl
  | crashed turns =>
      simp only [Failure.withFrame, ite_self]
      exact .crashed fun hcause => turns hcause

/-- What drawing a list of frames comes to. -/
inductive FramedAll
    (statements : List Statement)
    (indices : List Nat)
    (p : Progress σ) :
    EStateM.Result Failure (Progress σ) Unit → Prop
  | finished
      {q : Progress σ}
      (sound : indices ≠ [] → Script.firstOffence? [] (Script.body statements) = none)
      (turns : ∀ index ∈ indices,
        ¬Script.TurnsInfinitely statements (p.result.knobs.valuesOn index))
      (count : q.result.frameCount = p.result.frameCount + indices.length) :
      FramedAll statements indices p (.ok () q)
  | refused
      {statement : Statement}
      {fault : Fault}
      {index : Nat}
      {q : Progress σ}
      (first : indices.head? = some index)
      (offends : Script.firstOffence? [] (Script.body statements) = some (statement, fault))
      (turns : ¬Script.TurnsInfinitely statements (p.result.knobs.valuesOn index))
      (count : q.result.frameCount = p.result.frameCount) :
      FramedAll statements indices p
        (.error
          (.script ⟨fault, some statement.line,
            if p.result.animation.isAnimated then some index else none⟩) q)
  | crashed
      {cause : Crash}
      {index : Nat}
      {q : Progress σ}
      (reached : index ∈ indices)
      (first : Script.firstOffence? [] (Script.body statements) ≠ none →
        indices.head? = some index)
      (turns : cause = .infiniteAngle →
        Script.TurnsInfinitely statements (p.result.knobs.valuesOn index)) :
      FramedAll statements indices p (.error (.crash cause) q)

/-- Frames over an outlet that takes every picture: only the first can meet an offence. -/
theorem framedAll
    (houtlet : outlet.TakesAll)
    (settings : Settings)
    (statements : List Statement)
    (indices : List Nat)
    (p : Progress σ) :
    FramedAll statements indices p (frames settings outlet statements indices p) := by
  induction indices generalizing p with
  | nil => exact .finished (fun h => absurd rfl h) (by simp) rfl
  | cons index rest ih =>
      have hframe := framed houtlet settings statements index p
      simp only [frames, bind, EStateM.bind]
      generalize frame settings outlet statements index p = result at hframe
      cases hframe with
      | refused offends turns count => exact .refused rfl offends turns count
      | crashed turns => exact .crashed List.mem_cons_self (fun _ => rfl) turns
      | @finished q sound turns animation knobs count =>
          have hrest := ih q
          simp only
          generalize frames settings outlet statements rest q = result at hrest
          cases hrest with
          | finished soundRest turnsRest countRest =>
              refine .finished (fun _ => sound) ?_ ?_
              · intro other hother
                rcases List.mem_cons.mp hother with rfl | hlater
                · exact turns
                · exact knobs ▸ turnsRest other hlater
              · rw [countRest, count, List.length_cons]
                omega
          | refused first offends turnsRest countRest =>
              rw [sound] at offends
              cases offends
          | crashed reached first turnsRest =>
              refine .crashed (List.mem_cons_of_mem _ reached) (absurd sound) ?_
              intro hcause
              exact knobs ▸ turnsRest hcause

end Running

/-- The number of frames that a run begins: an offence ends the first one. -/
def Script.framesBegun
    (statements : List Statement)
    (total : Nat) :
    Nat :=
  match Script.firstOffence? [] (Script.body statements) with
  | none => total
  | some _ => 1

/-- A run that ends as its script decides: with its first offence, or with its last frame. -/
structure RunOutcome.DecidedBy
    (outcome : RunOutcome σ)
    (statements : List Statement)
    (animation : Animation) : Prop where
  raises : outcome.failure ≠ none ↔ ¬Script.Sound [] (Script.body statements)
  refused : ∀ earlier statement later fault,
    Script.body statements = earlier ++ statement :: later →
    Script.Sound [] earlier →
    Script.offence? earlier statement.directive = some fault →
    outcome.failure = some (.script ⟨fault, some statement.line,
        if animation.isAnimated then some 0 else none⟩)
      ∧ outcome.result.map RunResult.frameCount = some 0
  finished : Script.Sound [] (Script.body statements) →
    outcome.failure = none
      ∧ outcome.result.map RunResult.frameCount = some animation.framesToRender

section Decisions

variable {statements : List Statement} {animation : Animation} {outcome : RunOutcome σ}

theorem RunOutcome.decidedBy_of_finished
    (hsound : Script.firstOffence? [] (Script.body statements) = none)
    (hfailure : outcome.failure = none)
    (hcount : outcome.result.map RunResult.frameCount = some animation.framesToRender) :
    outcome.DecidedBy statements animation where
  raises := by
    have hscript := (Script.firstOffence?_eq_none_iff _ _).mp hsound
    simp [hfailure, hscript]
  refused := by
    intro earlier statement later fault hsplit hearlier hoffence
    have hsome : Script.firstOffence? [] (Script.body statements) = some (statement, fault) :=
      (Script.firstOffence?_eq_some_iff _ _ _ _).mpr ⟨earlier, later, hsplit, hearlier, hoffence⟩
    rw [hsound] at hsome
    cases hsome
  finished := fun _ => ⟨hfailure, hcount⟩

theorem RunOutcome.decidedBy_of_refused
    {statement : Statement}
    {fault : Fault}
    (hoffence : Script.firstOffence? [] (Script.body statements) = some (statement, fault))
    (hfailure : outcome.failure = some (.script ⟨fault, some statement.line,
      if animation.isAnimated then some 0 else none⟩))
    (hcount : outcome.result.map RunResult.frameCount = some 0) :
    outcome.DecidedBy statements animation := by
  have hunsound : ¬Script.Sound [] (Script.body statements) := by
    rw [← Script.firstOffence?_eq_none_iff, hoffence]
    simp
  refine ⟨by simp [hfailure, hunsound], ?_, fun h => absurd h hunsound⟩
  intro earlier other later wrong hsplit hearlier hwrong
  have hsome : Script.firstOffence? [] (Script.body statements) = some (other, wrong) :=
    (Script.firstOffence?_eq_some_iff _ _ _ _).mpr ⟨earlier, later, hsplit, hearlier, hwrong⟩
  rw [hoffence] at hsome
  cases hsome
  exact ⟨hfailure, hcount⟩

/-- A run that crashes is not decided. -/
theorem RunOutcome.not_decidedBy_of_crash
    {cause : Crash}
    (hfailure : outcome.failure = some (.crash cause)) :
    ¬outcome.DecidedBy statements animation := by
  intro hdecided
  cases hoffence : Script.firstOffence? [] (Script.body statements) with
  | none =>
      have hnone := (hdecided.finished ((Script.firstOffence?_eq_none_iff _ _).mp hoffence)).1
      rw [hfailure] at hnone
      cases hnone
  | some first =>
      obtain ⟨statement, fault⟩ := first
      obtain ⟨earlier, later, hsplit, hearlier, hfault⟩ :=
        (Script.firstOffence?_eq_some_iff _ _ _ _).mp hoffence
      have hscript := (hdecided.refused earlier statement later fault hsplit hearlier hfault).1
      rw [hfailure] at hscript
      cases hscript

/-- The outcome of the frames is decided exactly as long as no angle gets infinite. -/
theorem RunOutcome.decidedBy_ofFrames_iff
    {p : Progress σ}
    {knobs : KnobTable}
    {result : EStateM.Result Failure (Progress σ) Unit}
    (hpositive : 0 < animation.framesToRender)
    (hanimation : p.result.animation = animation)
    (hknobs : p.result.knobs = knobs)
    (hcount : p.result.frameCount = 0)
    (hframes : Running.FramedAll statements (List.range animation.framesToRender) p result)
    (hdrawing : ∀ cause, (ofFrames result).failure = some (.crash cause) →
      cause = .infiniteAngle) :
    ((ofFrames result).DecidedBy statements animation ↔
        ∀ index < Script.framesBegun statements animation.framesToRender,
          ¬Script.TurnsInfinitely statements (knobs.valuesOn index))
      ∧ (¬(ofFrames result).DecidedBy statements animation →
        (ofFrames result).failure = some (.crash .infiniteAngle)) := by
  subst hanimation hknobs
  have hfirst : (List.range p.result.animation.framesToRender).head? = some 0 := by
    obtain ⟨more, hmore⟩ := Nat.exists_eq_add_of_lt hpositive
    rw [hmore, Nat.zero_add, List.range_succ_eq_map, List.head?_cons]
  cases hframes with
  | @finished q sound turns count =>
      have hsound := sound fun hnil => by simp [hnil] at hfirst
      have hdecided : (ofFrames (.ok () q)).DecidedBy statements p.result.animation := by
        apply decidedBy_of_finished hsound rfl
        simp [ofFrames, count, hcount]
      refine ⟨⟨fun _ index hindex => ?_, fun _ => hdecided⟩, fun h => absurd hdecided h⟩
      simp only [Script.framesBegun, hsound] at hindex
      exact turns index (List.mem_range.mpr hindex)
  | @refused statement fault index q first offends turns count =>
      obtain rfl : 0 = index := Option.some.inj (hfirst.symm.trans first)
      let failure : Failure := .script ⟨fault, some statement.line,
        if p.result.animation.isAnimated then some 0 else none⟩
      have hdecided : (ofFrames (.error failure q)).DecidedBy statements p.result.animation :=
        decidedBy_of_refused offends rfl (congrArg some (count.trans hcount))
      refine ⟨⟨fun _ index hindex => ?_, fun _ => hdecided⟩, fun h => absurd hdecided h⟩
      simp only [Script.framesBegun, offends, Nat.lt_one_iff] at hindex
      rw [hindex]
      exact turns
  | @crashed cause index q reached first turns =>
      obtain rfl := hdrawing cause rfl
      refine ⟨⟨fun h => absurd h (not_decidedBy_of_crash rfl), fun h => ?_⟩, fun _ => rfl⟩
      refine absurd (turns rfl) (h index ?_)
      unfold Script.framesBegun
      split
      · exact List.mem_range.mp reached
      · rename_i offence hoffence
        have hzero := first (by simp [hoffence])
        obtain rfl : 0 = index := Option.some.inj (hfirst.symm.trans hzero)
        exact Nat.zero_lt_one

end Decisions

/--
As far as drawing raises nothing, the script decides how its run ends exactly as long as no frame
that is begun comes to a rotation whose angle its knobs make infinite.  Such a rotation crashes.
-/
theorem fatal_errors_decided
    {text : Text}
    {statements : List Statement}
    {knobs : KnobTable}
    (settings : Settings)
    (outside : σ)
    (houtlet : outlet.TakesAll)
    (hread : Script.read text = .ok statements)
    (hknobs : (Animation.scan statements settings.output.basename).knobTable statements = .ok knobs)
    (hdrawing : ∀ cause, (run settings outlet statements outside).failure = some (.crash cause) →
      cause = .infiniteAngle) :
    let animation := Animation.scan statements settings.output.basename
    let outcome := run settings outlet statements outside
    (outcome.DecidedBy statements animation ↔
        ∀ index < Script.framesBegun statements animation.framesToRender,
          ¬Script.TurnsInfinitely statements (knobs.valuesOn index))
      ∧ (¬outcome.DecidedBy statements animation →
        outcome.failure = some (.crash .infiniteAngle)) := by
  intro animation outcome
  have hpositive : 0 < animation.framesToRender :=
    Script.framesToRender_pos_of_read hread settings.output.basename
  obtain ⟨notices, hrun⟩ := run_eq outlet outside rfl hknobs
  have houtcome : outcome = .ofFrames _ := hrun
  rw [hrun] at hdrawing
  rw [houtcome]
  exact RunOutcome.decidedBy_ofFrames_iff hpositive rfl rfl rfl
    (Running.framedAll houtlet settings statements _ _) hdrawing

/-- A rotation about a proper axis with a finite angle leaves the decision to the `pop` after it. -/
theorem fatal_errors_decided_underflow :
    let text : Text := "frames 2\nvary k 0 1 1 2\nrotate x 90 k\npop\n"
    let statements : List Statement :=
      [⟨1, .frames ⟨2, 2⟩⟩, ⟨2, .vary "k" ⟨0, 0⟩ ⟨1, 1⟩ 1 2⟩, ⟨3, .rotate "x" 90 (some "k")⟩,
        ⟨4, .pop⟩, ⟨5, .finish⟩]
    let outcome := run {} Outlet.accepting statements ()
    Script.read text = .ok statements
      ∧ outcome.DecidedBy statements (Animation.scan statements "output") := by
  intro text statements outcome
  have hread : Script.read text = .ok statements := by decide +kernel
  have hknobs : (Animation.scan statements "output").knobTable statements
      = .ok ⟨#[[("k", 1)], [("k", 2)]], true⟩ := by decide +kernel
  have hfailure : outcome.failure = some (.script ⟨.stackUnderflow, some 4, some 0⟩) := by
    decide +kernel
  have hdrawing : ∀ cause, outcome.failure = some (.crash cause) → cause = .infiniteAngle := by
    intro cause hcrash
    rw [hfailure] at hcrash
    cases hcrash
  have hdecided := fatal_errors_decided {} () (fun _ path _ => ⟨path, rfl⟩) hread hknobs hdrawing
  refine ⟨hread, hdecided.1.mpr ?_⟩
  rintro index hindex ⟨statement, hreached, hturn⟩
  have hbegun : Script.framesBegun statements 2 = 1 := by decide +kernel
  have hangle : (radians (stretch 90 (some 1))).isInf = false := by decide +kernel
  obtain rfl : index = 0 := Nat.lt_one_iff.mp (hbegun ▸ hindex)
  have hlist : Script.reached [] (Script.body statements) = statements.take 3 := by decide +kernel
  rw [hlist] at hreached
  rcases List.mem_cons.mp hreached with rfl | hreached
  · exact hturn
  · rcases List.mem_cons.mp hreached with rfl | hreached
    · exact hturn
    · obtain rfl := List.mem_singleton.mp hreached
      change (radians (stretch 90 (some 1))).isInf = true at hturn
      rw [hangle] at hturn
      cases hturn

/-- A knob turns an angle infinite: the script is sound, and its run crashes in the second frame. -/
theorem fatal_errors_undecided_overflow :
    let text : Text := "frames 2\nvary k 1 1 10 10\nrotate x 1e308 k\n"
    let statements : List Statement :=
      [⟨1, .frames ⟨2, 2⟩⟩, ⟨2, .vary "k" ⟨1, 1⟩ ⟨1, 1⟩ 10 10⟩, ⟨3, .rotate "x" 1e308 (some "k")⟩,
        ⟨4, .finish⟩]
    let animation := Animation.scan statements "output"
    let outcome := run {} Outlet.accepting statements ()
    Script.read text = .ok statements
      ∧ animation.knobTable statements = .ok ⟨#[[], [("k", 10)]], true⟩
      ∧ Script.Sound [] (Script.body statements)
      ∧ outcome.failure = some (.crash .infiniteAngle)
      ∧ outcome.result.map RunResult.frameCount = some 1
      ∧ ¬outcome.DecidedBy statements animation := by
  intro text statements animation outcome
  have hfailure : outcome.failure = some (.crash .infiniteAngle) := by decide +kernel
  refine ⟨by decide +kernel, by decide +kernel, ?_, hfailure, by decide +kernel, ?_⟩
  · rw [← Script.firstOffence?_eq_none_iff]
    decide +kernel
  · exact RunOutcome.not_decidedBy_of_crash hfailure

end Diorama
