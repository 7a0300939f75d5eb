import Diorama.Render.WriteLog

/-!
# Replays as walks over a list

A replay performs the statements in front of the end marker one after the other, and stops at the
first that fails.  With the end marker out of the way it is a plain walk over a list, on which
the inductions of this library run.

**Main statements.**
* `replay_eq_forM`: a replay is the walk over the body of its script.
* `run_eq`: a run whose animation is settled is the walk over its frames.
-/

namespace Diorama

/-- An outlet that takes every picture under its path and shows every picture. -/
def Outlet.accepting : Outlet Unit where
  save := fun _ path s => (.ok path, s)
  present := fun _ s => (.ok (), s)

theorem Script.body_cons_of_ne
    {statement : Statement}
    (hne : statement.directive ≠ .finish)
    (rest : List Statement) :
    Script.body (statement :: rest) = statement :: Script.body rest := by
  obtain ⟨line, directive⟩ := statement
  cases directive <;> first | rfl | exact absurd rfl hne

/-- The body of what is kept of a script is what is kept of its body, if end markers are kept. -/
theorem Script.body_filter
    {keep : Statement → Bool}
    (hkeep : ∀ statement : Statement, statement.directive = .finish → keep statement = true)
    (statements : List Statement) :
    Script.body (statements.filter keep) = (Script.body statements).filter keep := by
  induction statements with
  | nil => rfl
  | cons statement rest ih =>
      by_cases hend : statement.directive = .finish
      · rw [List.filter_cons_of_pos (hkeep statement hend)]
        obtain ⟨line, directive⟩ := statement
        obtain rfl : directive = .finish := hend
        rfl
      · rw [Script.body_cons_of_ne hend, List.filter_cons, List.filter_cons]
        split
        · rw [Script.body_cons_of_ne hend, ih]
        · exact ih

namespace Drawing

variable {σ : Type}

/-- A replay is the walk over the body of its script. -/
theorem replay_eq_forM
    (settings : Settings)
    (outlet : Outlet σ)
    (statements : List Statement) :
    replay settings outlet statements
      = (Script.body statements).forM (execute settings outlet) := by
  induction statements with
  | nil => rfl
  | cons statement rest ih =>
      by_cases hend : statement.directive = .finish
      · obtain ⟨line, directive⟩ := statement
        obtain rfl : directive = .finish := hend
        rfl
      · rw [Script.body_cons_of_ne hend]
        have hstep : replay settings outlet (statement :: rest)
            = (execute settings outlet statement >>= fun _ => replay settings outlet rest) := by
          obtain ⟨line, directive⟩ := statement
          cases directive <;> first | rfl | exact absurd rfl hend
        rw [hstep, ih]
        rfl

theorem forM_cons
    (settings : Settings)
    (outlet : Outlet σ)
    (statement : Statement)
    (rest : List Statement)
    (s : Session σ) :
    (statement :: rest).forM (execute settings outlet) s
      = match execute settings outlet statement s with
        | .ok () s' => rest.forM (execute settings outlet) s'
        | .error failure s' => .error failure s' := by
  change (execute settings outlet statement >>= fun _ => _) s = _
  simp only [bind, EStateM.bind]
  cases execute settings outlet statement s <;> rfl

theorem forM_append
    (settings : Settings)
    (outlet : Outlet σ)
    (first second : List Statement)
    (s : Session σ) :
    (first ++ second).forM (execute settings outlet) s
      = match first.forM (execute settings outlet) s with
        | .ok () s' => second.forM (execute settings outlet) s'
        | .error failure s' => .error failure s' := by
  induction first generalizing s with
  | nil => rfl
  | cons statement rest ih =>
      rw [List.cons_append, forM_cons, forM_cons]
      cases execute settings outlet statement s with
      | ok _ t => exact ih t
      | error failure t => rfl

end Drawing

/-- The outcome of a run whose frames were drawn. -/
def RunOutcome.ofFrames
    {σ : Type} :
    EStateM.Result Failure (Progress σ) Unit → RunOutcome σ
  | .ok () p => ⟨some p.result, none, p.outside, p.notices⟩
  | .error failure p => ⟨some p.result, some failure, p.outside, p.notices⟩

/-- A run whose animation is settled is the walk over its frames. -/
theorem run_eq
    {σ : Type}
    {settings : Settings}
    {statements : List Statement}
    {animation : Animation}
    {knobs : KnobTable}
    (outlet : Outlet σ)
    (outside : σ)
    (hscan : Animation.scan statements settings.output.basename = animation)
    (hknobs : animation.knobTable statements = .ok knobs) :
    ∃ notices, run settings outlet statements outside
      = .ofFrames (Running.frames settings outlet statements (List.range animation.framesToRender)
          ⟨⟨animation, knobs, 0, [], []⟩, outside, notices⟩) := by
  let notices := animation.warnings ++ animation.tableNotices knobs
    ++ [.rendering animation.framesToRender statements.length]
  refine ⟨notices.toArray, ?_⟩
  simp only [run, hscan, hknobs]
  generalize Running.frames settings outlet statements _ _ = result
  cases result <;> rfl

end Diorama
