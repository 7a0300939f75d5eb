import Diorama.Proofs.Canvas.Grid
import Diorama.Proofs.Number.FloatOrder

/-!
# Marks on a canvas

A mark is a pixel that arrives at a position and a depth.  Marks are put on a canvas one after the
other; what a position shows in the end is decided by the marks that arrived there.  It is the
earliest of the closest marks, or the background where no mark is above minus infinity.

**Main statements.**
* `Canvas.cell?_markAll`: every position looks at its own marks.
* `Cell.decided_receiveAll`: the earliest of the closest marks is shown.
* `Cell.noDeeper_receiveAll`: depths never decrease.
* `Cell.eq_of_decided_perm`: without equal depths the order of the marks does not matter.
-/

namespace Diorama

open Scalar (less same isAboveBottom IsNumber LawfulOrder)

/-- A pixel that arrives at a position and a depth. -/
structure Mark (α : Type) where
  x : Int
  y : Int
  depth : α
  pixel : Pixel

variable {α : Type}

/-- Whether a mark arrives at a position. -/
def Mark.isAt
    (m : Mark α)
    (x y : Int) :
    Bool :=
  decide (x = m.x ∧ y = m.y)

section Order

variable [Scalar α] [LawfulOrder α] {a b : α}

theorem less_irrefl
    (a : α) :
    less a a = false := by
  cases h : less a a with
  | false => rfl
  | true =>
      have hsame := LawfulOrder.not_same_of_less h
      have hnumber := (LawfulOrder.isNumber_of_less h).1
      rw [IsNumber, hsame] at hnumber
      cases hnumber

theorem less_asymm
    (h : less a b = true) :
    less b a = false := by
  cases h' : less b a with
  | false => rfl
  | true =>
      have hself := LawfulOrder.less_trans h h'
      rw [less_irrefl] at hself
      cases hself

end Order

namespace Cell

variable [Scalar α]

/-- What a cell becomes when marks arrive one after the other. -/
def receiveAll
    (cell : Cell α)
    (marks : List (Mark α)) :
    Cell α :=
  marks.foldl (fun cell m => cell.receive m.depth m.pixel) cell

/--
What marks leave at a position: the background, if none of them is above minus infinity; otherwise
the earliest of those that are closest.
-/
inductive Decided
    (background : Pixel)
    (marks : List (Mark α)) :
    Cell α → Prop
  | background
      (low : ∀ m ∈ marks, isAboveBottom m.depth = false) :
      Decided background marks ⟨background, none⟩
  | mark
      {earlier later : List (Mark α)}
      {m : Mark α}
      (split : marks = earlier ++ m :: later)
      (above : isAboveBottom m.depth = true)
      (farther : ∀ e ∈ earlier, IsNumber e.depth → less e.depth m.depth = true)
      (closest : ∀ l ∈ later, less m.depth l.depth = false) :
      Decided background marks ⟨m.pixel, some m.depth⟩

/-- A cell that changes to another only if that is closer. -/
def NoDeeper
    (cell next : Cell α) :
    Prop :=
  next = cell ∨ ∃ z, next.depth = some z ∧ cell.shows z = true

variable {background : Pixel} {marks rest : List (Mark α)} {cell next : Cell α}

/-- Only the background has no depth. -/
theorem Decided.pixel_eq_background
    (h : Decided background marks cell)
    (hnone : cell.depth = none) :
    cell.pixel = background := by
  cases h with
  | background _ => rfl
  | mark _ _ _ _ => cases hnone

variable [LawfulOrder α]

theorem Decided.receive
    (h : Decided background marks cell)
    (m : Mark α) :
    Decided background (marks ++ [m]) (cell.receive m.depth m.pixel) := by
  cases h with
  | background low =>
      cases habove : isAboveBottom m.depth with
      | true =>
          simp only [Cell.receive, Cell.shows, habove, if_true]
          refine .mark rfl habove ?_ (by simp)
          intro e he hnumber
          exact LawfulOrder.less_of_isAboveBottom hnumber (low e he) habove
      | false =>
          simp only [Cell.receive, Cell.shows, habove, Bool.false_eq_true, if_false]
          refine .background ?_
          intro e he
          rcases List.mem_append.mp he with hold | hnew
          · exact low e hold
          · obtain rfl := List.mem_singleton.mp hnew
            exact habove
  | @mark earlier later w split above farther closest =>
      cases hcloser : less w.depth m.depth with
      | true =>
          simp only [Cell.receive, Cell.shows, hcloser, if_true]
          refine .mark rfl (LawfulOrder.isAboveBottom_of_less hcloser) ?_ (by simp)
          intro e he hnumber
          rw [split] at he
          rcases List.mem_append.mp he with hfirst | hrest
          · exact LawfulOrder.less_trans (farther e hfirst hnumber) hcloser
          · rcases List.mem_cons.mp hrest with rfl | hlast
            · exact hcloser
            · have hw := (LawfulOrder.isNumber_of_less hcloser).1
              rcases LawfulOrder.less_or_same_or_less hnumber hw with hless | hsame | hgreater
              · exact LawfulOrder.less_trans hless hcloser
              · exact LawfulOrder.less_of_same_of_less hsame hcloser
              · rw [closest e hlast] at hgreater
                cases hgreater
      | false =>
          simp only [Cell.receive, Cell.shows, hcloser, Bool.false_eq_true, if_false]
          have hsplit : marks ++ [m] = earlier ++ w :: (later ++ [m]) := by
            rw [split, List.append_assoc, List.cons_append]
          refine .mark hsplit above farther ?_
          intro l hl
          rcases List.mem_append.mp hl with hold | hnew
          · exact closest l hold
          · obtain rfl := List.mem_singleton.mp hnew
            exact hcloser

theorem Decided.receiveAll
    (h : Decided background marks cell) :
    Decided background (marks ++ rest) (cell.receiveAll rest) := by
  induction rest generalizing marks cell with
  | nil =>
      rw [List.append_nil]
      exact h
  | cons m rest ih =>
      have hnext := ih (h.receive m)
      rw [List.append_assoc, List.singleton_append] at hnext
      exact hnext

/-- The marks on an empty position decide what it shows. -/
theorem decided_receiveAll
    (background : Pixel)
    (marks : List (Mark α)) :
    Decided background marks ((⟨background, none⟩ : Cell α).receiveAll marks) := by
  have hempty : Decided background ([] : List (Mark α)) ⟨background, none⟩ := .background (by simp)
  exact hempty.receiveAll

theorem NoDeeper.trans
    {last : Cell α}
    (h : cell.NoDeeper next)
    (h' : next.NoDeeper last) :
    cell.NoDeeper last := by
  rcases h' with rfl | ⟨z', hz', hshows'⟩
  · exact h
  · refine .inr ⟨z', hz', ?_⟩
    rcases h with rfl | ⟨z, hz, hshows⟩
    · exact hshows'
    · unfold Cell.shows at hshows hshows' ⊢
      rw [hz] at hshows'
      cases hdepth : cell.depth with
      | none => exact LawfulOrder.isAboveBottom_of_less hshows'
      | some depth =>
          rw [hdepth] at hshows
          exact LawfulOrder.less_trans hshows hshows'

/-- Marks never make a cell deeper. -/
theorem noDeeper_receiveAll
    (cell : Cell α)
    (marks : List (Mark α)) :
    cell.NoDeeper (cell.receiveAll marks) := by
  induction marks generalizing cell with
  | nil => exact .inl rfl
  | cons m rest ih =>
      refine NoDeeper.trans ?_ (ih (cell.receive m.depth m.pixel))
      unfold Cell.receive
      split
      · rename_i hshows
        exact .inr ⟨m.depth, rfl, hshows⟩
      · exact .inl rfl

/-- Where no two depths are the same, the order of the marks does not matter. -/
theorem eq_of_decided_perm
    {others : List (Mark α)}
    (hperm : marks.Perm others)
    (hdistinct : marks.Pairwise fun m n => same m.depth n.depth = false)
    (h : Decided background marks cell)
    (h' : Decided background others next) :
    cell = next := by
  cases h with
  | background low =>
      cases h' with
      | background _ => rfl
      | @mark earlier later m split above _ _ =>
          have hm : m ∈ marks := hperm.mem_iff.mpr (by simp [split])
          rw [low m hm] at above
          cases above
  | @mark earlier later m split above farther closest =>
      cases h' with
      | background low =>
          have hm : m ∈ others := hperm.mem_iff.mp (by simp [split])
          rw [low m hm] at above
          cases above
      | @mark earlier' later' m' split' above' farther' closest' =>
          have hnumber := LawfulOrder.isNumber_of_isAboveBottom above
          have hnumber' := LawfulOrder.isNumber_of_isAboveBottom above'
          have hm : m ∈ earlier' ++ m' :: later' := split' ▸ hperm.mem_iff.mp (by simp [split])
          have hm' : m' ∈ earlier ++ m :: later := split ▸ hperm.mem_iff.mpr (by simp [split'])
          -- neither of the two winners is closer than the other
          have hnot : m = m' ∨ less m'.depth m.depth = false := by
            rcases List.mem_append.mp hm with hfirst | hrest
            · exact .inr (less_asymm (farther' m hfirst hnumber))
            · rcases List.mem_cons.mp hrest with hsame | hlast
              · exact .inl hsame
              · exact .inr (closest' m hlast)
          rcases hnot with rfl | hnot
          · rfl
          · rcases List.mem_append.mp hm' with hfirst | hrest
            · rw [farther m' hfirst hnumber'] at hnot
              cases hnot
            · rcases List.mem_cons.mp hrest with rfl | hlast
              · rfl
              · have hafter := closest m' hlast
                rw [split] at hdistinct
                have hdiffer := (List.pairwise_cons.mp
                  (List.pairwise_append.mp hdistinct).2.1).1 m' hlast
                rcases LawfulOrder.less_or_same_or_less hnumber hnumber' with hless | hsame | hless
                · rw [hafter] at hless
                  cases hless
                · rw [hdiffer] at hsame
                  cases hsame
                · rw [hnot] at hless
                  cases hless

end Cell

namespace Canvas

variable [Scalar α]

/-- A canvas after marks are put on it one after the other. -/
def markAll
    (c : Canvas α)
    (marks : List (Mark α)) :
    Canvas α :=
  marks.foldl (fun c m => c.put m.x m.y m.depth m.pixel) c

theorem markAll_append
    (c : Canvas α)
    (marks rest : List (Mark α)) :
    c.markAll (marks ++ rest) = (c.markAll marks).markAll rest :=
  List.foldl_append

theorem sameGrid_markAll
    (c : Canvas α)
    (marks : List (Mark α)) :
    c.SameGrid (c.markAll marks) := by
  induction marks generalizing c with
  | nil => exact .refl c
  | cons m rest ih => exact (sameGrid_put c m.x m.y m.depth m.pixel).trans (ih _)

/-- Every position receives its own marks, in order. -/
theorem cell?_markAll
    (c : Canvas α)
    (marks : List (Mark α))
    (x y : Int) :
    (c.markAll marks).cell? x y
      = (c.cell? x y).map fun cell => cell.receiveAll (marks.filter fun m => m.isAt x y) := by
  induction marks generalizing c with
  | nil => simp [markAll, Cell.receiveAll]
  | cons m rest ih =>
      have hrest := ih (c.put m.x m.y m.depth m.pixel)
      rw [cell?_put] at hrest
      by_cases hat : m.isAt x y = true
      · obtain ⟨rfl, rfl⟩ : x = m.x ∧ y = m.y := of_decide_eq_true hat
        rw [if_pos ⟨rfl, rfl⟩, Option.map_map] at hrest
        rw [List.filter_cons_of_pos (p := fun n : Mark α => n.isAt m.x m.y) hat]
        exact hrest
      · have haway : ¬(x = m.x ∧ y = m.y) := fun h => hat (decide_eq_true h)
        rw [if_neg haway] at hrest
        rw [List.filter_cons_of_neg (p := fun n : Mark α => n.isAt x y) hat]
        exact hrest

end Canvas
end Diorama
