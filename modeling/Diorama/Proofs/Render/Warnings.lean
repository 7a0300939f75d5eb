import Diorama.Proofs.Render.Refusals
import Diorama.Proofs.Script.FrameCount

/-!
# The warnings of a run

Only a directive that is not supported leaves a warning, and only on the first frame.  A run draws
its first frame in any case, so once it is completed it has warned once of each of them.

**Main statements.**
* `warnings_execute`, `warnings_forM`: statements on one frame.
* `Running.warnings_frame`, `Running.warnings_frames`: only the first frame warns.
* `warnings_run`: a completed run.
-/

namespace Diorama

/-- The warning that a statement leaves behind, if its directive is not supported. -/
def Statement.unsupported?
    (statement : Statement) :
    Option ScriptError :=
  match statement.directive with
  | .unknown keyword _ => some (.onLine (.unsupportedDirective keyword) statement.line)
  | _ => none

namespace Script

/-- The warnings of unsupported directives, in order. -/
def unsupported
    (statements : List Statement) :
    List ScriptError :=
  statements.filterMap Statement.unsupported?

/-- The end marker leaves no warning. -/
theorem unsupported_of_read
    {text : Text}
    {statements : List Statement}
    (h : read text = .ok statements) :
    unsupported statements = unsupported (body statements) := by
  obtain ⟨last, hlast⟩ := body_of_read h
  calc
    unsupported statements = unsupported (body statements ++ [⟨last, .finish⟩]) :=
      congrArg unsupported hlast
    _ = unsupported (body statements) := by
      rw [unsupported, List.filterMap_append]
      exact List.append_nil _

end Script

variable {σ : Type} {outlet : Outlet σ}

namespace Drawing

/-- A statement warns if it is not supported, and only on the first frame. -/
theorem warnings_execute
    (hsaving : outlet.FailsBySaving)
    (settings : Settings)
    {statement : Statement}
    {s t : Session σ}
    (h : execute settings outlet statement s = .ok () t) :
    t.frame.index = s.frame.index
      ∧ t.frame.warnings = s.frame.warnings
        ++ if s.frame.index = 0 then statement.unsupported?.toList else [] := by
  have hattempt : attempt settings outlet s statement = t := by rw [attempt, h, final]
  constructor
  · obtain ⟨f, warnings, hchanges, hframe⟩ := changes_attempt settings outlet statement s
    rw [hattempt] at hframe
    rw [hframe]
    exact (hchanges.respects Frame.respected_warnsLike).index
  · by_cases hunknown : ∃ keyword tokens, statement.directive = .unknown keyword tokens
    · obtain ⟨keyword, tokens, hdirective⟩ := hunknown
      obtain ⟨notices, hdone⟩ := execute_unknown hdirective
      rw [h] at hdone
      cases hdone
      simp only [Statement.unsupported?, hdirective, Option.toList_some]
    · have hsupported : ∀ keyword tokens, statement.directive ≠ .unknown keyword tokens :=
        fun keyword tokens hdirective => hunknown ⟨keyword, tokens, hdirective⟩
      have hnone : statement.unsupported? = none := by
        unfold Statement.unsupported?
        split
        · rename_i keyword tokens hdirective
          exact absurd hdirective (hsupported keyword tokens)
        · rfl
      rw [← hattempt, warnings_attempt hsaving hsupported, hnone]
      simp

/-- Statements that are all done warn once each, if they warn at all. -/
theorem warnings_forM
    (hsaving : outlet.FailsBySaving)
    (settings : Settings)
    {statements : List Statement}
    {s t : Session σ}
    (h : statements.forM (execute settings outlet) s = .ok () t) :
    t.frame.warnings = s.frame.warnings
      ++ if s.frame.index = 0 then Script.unsupported statements else [] := by
  induction statements generalizing s with
  | nil =>
      cases h
      simp [Script.unsupported]
  | cons statement rest ih =>
      rw [forM_cons] at h
      cases hfirst : execute settings outlet statement s with
      | error failure u =>
          rw [hfirst] at h
          cases h
      | ok _ u =>
          rw [hfirst] at h
          obtain ⟨hindex, hwarnings⟩ := warnings_execute hsaving settings hfirst
          rw [ih h, hindex, hwarnings, List.append_assoc]
          split
          · simp only [Script.unsupported, List.filterMap_cons]
            cases statement.unsupported? <;> rfl
          · rfl

end Drawing

namespace Running

variable {settings : Settings} {statements : List Statement}

/-- A finished frame warns if it is the first one. -/
theorem warnings_frame
    (hsaving : outlet.FailsBySaving)
    {index : Nat}
    {p q : Progress σ}
    (h : frame settings outlet statements index p = .ok () q) :
    q.result.warnings = p.result.warnings
      ++ if index = 0 then Script.unsupported (Script.body statements) else [] := by
  simp only [frame] at h
  split at h
  · rename_i s hdrawn
    cases h
    simp only [drawing, bind, EStateM.bind] at hdrawn
    split at hdrawn
    · rename_i t hreplay
      rw [Drawing.replay_eq_forM] at hreplay
      have hwarnings := Drawing.warnings_forM hsaving settings hreplay
      -- the picture of the frame is saved without a warning
      have hsaved : s.frame.warnings = t.frame.warnings := by
        split at hdrawn
        · have hkept := Drawing.relates_save outlet Frame.respected_warnsLike.toChained
            Frame.respected_warnsLike.written (settings.framePath p.result.animation index) t
          rw [hdrawn] at hkept
          exact hkept.warnings
        · cases hdrawn
          rfl
      simp only [Frame.start, List.nil_append, Int.natCast_eq_zero] at hwarnings
      simp only [Progress.finishFrame, Progress.collect, hsaved, hwarnings]
    · cases hdrawn
  · cases h

/-- Finished frames warn if the first one is among them. -/
theorem warnings_frames
    (hsaving : outlet.FailsBySaving)
    {indices : List Nat}
    {p q : Progress σ}
    (h : frames settings outlet statements indices p = .ok () q) :
    q.result.warnings = p.result.warnings
      ++ indices.flatMap fun index =>
        if index = 0 then Script.unsupported (Script.body statements) else [] := by
  induction indices generalizing p with
  | nil =>
      cases h
      exact (List.append_nil _).symm
  | cons index rest ih =>
      simp only [frames, bind, EStateM.bind] at h
      cases hfirst : frame settings outlet statements index p with
      | error failure r =>
          rw [hfirst] at h
          cases h
      | ok _ r =>
          rw [hfirst] at h
          rw [ih h, warnings_frame hsaving hfirst, List.flatMap_cons, List.append_assoc]

end Running

/-- What only the first of some frames gives. -/
theorem flatMap_range_first
    {α : Type}
    {total : Nat}
    (hpos : 0 < total)
    (given : List α) :
    ((List.range total).flatMap fun index => if index = 0 then given else []) = given := by
  obtain ⟨rest, rfl⟩ := Nat.exists_eq_add_of_lt hpos
  rw [Nat.zero_add, List.range_succ_eq_map, List.flatMap_cons, List.flatMap_map]
  simp

/-- A run of a script that was read warns of its unsupported directives if it is completed. -/
theorem warnings_run
    (hsaving : outlet.FailsBySaving)
    (settings : Settings)
    {text : Text}
    {statements : List Statement}
    (hread : Script.read text = .ok statements)
    (outside : σ)
    (hdone : (run settings outlet statements outside).failure = none) :
    ∃ result, (run settings outlet statements outside).result = some result
      ∧ result.warnings = Script.unsupported statements := by
  let animation := Animation.scan statements settings.output.basename
  cases hknobs : animation.knobTable statements with
  | error error =>
      have hfailed : (run settings outlet statements outside).failure = some (.script error) := by
        simp only [run]
        rw [hknobs]
      rw [hfailed] at hdone
      cases hdone
  | ok knobs =>
      obtain ⟨notices, hrun⟩ := run_eq outlet outside rfl hknobs
      rw [hrun] at hdone ⊢
      cases hframes : Running.frames settings outlet statements
          (List.range animation.framesToRender)
          ⟨⟨animation, knobs, 0, [], []⟩, outside, notices⟩ with
      | error failure p =>
          rw [hframes] at hdone
          cases hdone
      | ok _ p =>
          have hwarnings := Running.warnings_frames hsaving hframes
          rw [flatMap_range_first (Script.framesToRender_pos_of_read hread _),
            ← Script.unsupported_of_read hread] at hwarnings
          exact ⟨p.result, rfl, hwarnings⟩

end Diorama
