import Diorama.Animation.Plan
import Diorama.Proofs.Script.Stream

/-!
# Frame counts that are read

A script that was read asks for one frame at least: a `frames` directive with a smaller number is
not read at all, and a script without one is a single frame.

**Main statements.**
* `counts_ofTokens`: no directive that is read counts to zero.
* `framesToRender_pos_of_read`: a script that was read has a frame to draw.
-/

namespace Diorama
namespace Directive

/-- A directive that is no `frames` directive, or one with a positive number. -/
def Counts : Directive → Prop
  | .frames count => 0 < count.value
  | _ => True

/-- Every directive that a reading gives counts. -/
def ReadsCounts
    (reading : Except Fault Directive) :
    Prop :=
  ∀ directive, reading = .ok directive → directive.Counts

/-- No directive that is read counts to zero. -/
theorem counts_ofTokens
    (keyword : Text)
    (tokens : List Text) :
    ReadsCounts (ofTokens keyword tokens) := by
  intro directive hread
  rcases spelled_or_unknown_of_ofTokens hread with hspelled | rfl
  · cases hspelled with
    | frames hcount => exact hcount.bound
    | _ => trivial
  · trivial

end Directive

namespace Script

/-- Every statement that is read counts. -/
theorem counts_of_readLines
    {line : Nat}
    {raws : List Text}
    {statements : List Statement}
    (h : readLines line raws = .ok statements) :
    ∀ statement ∈ statements, statement.directive.Counts :=
  forall_of_readLines (P := Directive.Counts) trivial Directive.counts_ofTokens h

/-- A plan keeps to a positive number of frames. -/
theorem frameCount_pos_of_observe
    {plan : Animation}
    {statements : List Statement}
    (hplan : ∀ count ∈ plan.frameCount, 0 < count)
    (h : ∀ statement ∈ statements, statement.directive.Counts) :
    ∀ count ∈ (statements.foldl Animation.observe plan).frameCount, 0 < count := by
  induction statements generalizing plan with
  | nil => exact hplan
  | cons statement rest ih =>
      refine ih ?_ fun other hother => h other (List.mem_cons_of_mem _ hother)
      have hfirst := h statement List.mem_cons_self
      unfold Animation.observe
      split
      · rename_i written hdirective
        rw [hdirective] at hfirst
        rintro count hcount
        cases hcount
        exact hfirst
      · exact hplan
      · exact hplan
      · exact hplan
      · exact hplan

/-- A script that was read has a frame to draw. -/
theorem framesToRender_pos_of_read
    {text : Text}
    {statements : List Statement}
    (h : read text = .ok statements)
    (basename : Text) :
    0 < (Animation.scan statements basename).framesToRender := by
  have hcounts : ∀ count ∈ (Animation.scan statements basename).frameCount, 0 < count :=
    frameCount_pos_of_observe (by simp) (counts_of_readLines h)
  unfold Animation.framesToRender
  cases hcount : (Animation.scan statements basename).frameCount with
  | none => exact Nat.zero_lt_one
  | some count => exact hcounts count hcount

end Script
end Diorama
