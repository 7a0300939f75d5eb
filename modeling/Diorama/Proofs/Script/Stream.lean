import Diorama.Proofs.Render.Replay
import Diorama.Proofs.Script.Signatures
import Diorama.Script

/-!
# Statements that are read

Every statement of a script that was read comes from the words of its line, and the only end marker
is the one that closes the script.

**Main statements.**
* `ofTokens_of_read?`: a statement is read from words, on its line.
* `forall_of_readLines`: what holds of every directive that is read holds throughout a script.
* `body_of_read`: a script that was read is its body and an end marker.
-/

namespace Diorama

/-- A statement is read from words, on its line. -/
theorem Statement.ofTokens_of_read?
    {line : Int}
    {raw : Text}
    {statement : Statement}
    (h : read? line raw = .ok (some statement)) :
    statement.line = line
      ∧ ∃ keyword tokens, Directive.ofTokens keyword tokens = .ok statement.directive := by
  unfold read? at h
  split at h
  · cases h
  · split at h
    · rename_i keyword tokens _ _ directive hdirective
      cases h
      exact ⟨rfl, keyword, tokens, hdirective⟩
    · cases h

namespace Script

theorem body_of_readLines
    {line : Nat}
    {raws : List Text}
    {statements : List Statement}
    (h : readLines line raws = .ok statements) :
    ∃ last, statements = body statements ++ [⟨last, .finish⟩] := by
  induction raws generalizing line statements with
  | nil =>
      cases h
      exact ⟨line, rfl⟩
  | cons raw rest ih =>
      simp only [readLines] at h
      split at h
      · cases h
      · rename_i first hfirst
        split at h
        · cases h
        · rename_i others hothers
          cases h
          obtain ⟨last, hlast⟩ := ih hothers
          cases first with
          | none => exact ⟨last, hlast⟩
          | some statement =>
              obtain ⟨_, keyword, tokens, htokens⟩ := Statement.ofTokens_of_read? hfirst
              have hne : statement.directive ≠ .finish := by
                intro hfinish
                rw [hfinish] at htokens
                exact Directive.ofTokens_ne_finish keyword tokens htokens
              refine ⟨last, ?_⟩
              change statement :: others = body (statement :: others) ++ _
              rw [body_cons_of_ne hne, List.cons_append, ← hlast]

/-- What holds of the end marker and of every directive that is read holds throughout a script. -/
theorem forall_of_readLines
    {line : Nat}
    {raws : List Text}
    {statements : List Statement}
    {P : Directive → Prop}
    (hfinish : P .finish)
    (hread : ∀ keyword tokens directive,
      Directive.ofTokens keyword tokens = .ok directive → P directive)
    (h : readLines line raws = .ok statements) :
    ∀ statement ∈ statements, P statement.directive := by
  induction raws generalizing line statements with
  | nil =>
      cases h
      intro statement hmem
      obtain rfl := List.mem_singleton.mp hmem
      exact hfinish
  | cons raw rest ih =>
      simp only [readLines] at h
      split at h
      · cases h
      · rename_i first hfirst
        split at h
        · cases h
        · rename_i others hothers
          cases h
          intro statement hmem
          rcases List.mem_append.mp hmem with hhead | htail
          · obtain rfl : first = some statement := Option.mem_toList.mp hhead
            obtain ⟨_, keyword, tokens, htokens⟩ := Statement.ofTokens_of_read? hfirst
            exact hread keyword tokens _ htokens
          · exact ih hothers statement htail

/-- A script that was read is its body and an end marker. -/
theorem body_of_read
    {text : Text}
    {statements : List Statement}
    (h : read text = .ok statements) :
    ∃ last, statements = body statements ++ [⟨last, .finish⟩] :=
  body_of_readLines h

end Script
end Diorama
