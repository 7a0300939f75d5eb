import Diorama.Proofs.Render.Effects
import Diorama.Proofs.Render.Replay
import Mathlib.Data.List.Infix

/-!
# Nested scopes

What is done in a scope stays in it.  Statements that leave only scopes which they entered
themselves never touch the entries of the stack that were there before; with a `push` in front of
them and a `pop` behind them they leave the stack as it was, and keep everything else they did.

**Main statements.**
* `Changes.above`: one directive above some entries of the stack.
* `above_forM`: a list of statements, however it ends.
* `scope_restored`: a balanced list between a `push` and a `pop`.
-/

namespace Diorama

/-- A stack that has some more entries than another one, on top of it. -/
def TransformStack.Above
    {α : Type}
    (base : TransformStack α)
    (scopes : Nat)
    (s : TransformStack α) :
    Prop :=
  ∃ inner, s.toList = inner ++ base.toList ∧ inner.length = scopes

namespace TransformStack

variable {α : Type} {base s rest : TransformStack α} {scopes : Nat}

theorem above_self
    (s : TransformStack α) :
    s.Above 0 s :=
  ⟨[], rfl, rfl⟩

theorem Above.push
    (h : base.Above scopes s) :
    base.Above (scopes + 1) s.push := by
  obtain ⟨inner, hs, hlength⟩ := h
  refine ⟨s.top :: inner, ?_, ?_⟩
  · rw [toList_push, hs, List.cons_append]
  · rw [List.length_cons, hlength]

/-- Above a stack there is an entry to be removed, and it is removed above that stack. -/
theorem Above.pop
    (h : base.Above (scopes + 1) s) :
    ∃ rest, s.pop? = some rest ∧ base.Above scopes rest := by
  obtain ⟨inner, hs, hlength⟩ := h
  cases inner with
  | nil => cases hlength
  | cons top inner =>
      have henclosing : s.enclosing = inner ++ base.toList := (List.cons.inj hs).2
      cases hpop : s.pop? with
      | none =>
          have hdepth : s.depth = 1 := s.pop?_eq_none_iff.mp hpop
          simp [depth, henclosing, toList] at hdepth
      | some rest =>
          have hrest := enclosing_of_pop? hpop
          exact ⟨rest, rfl, inner, hrest ▸ henclosing, Nat.succ.inj hlength⟩

theorem Above.compose
    [Scalar α]
    (h : base.Above (scopes + 1) s)
    (first : Transform α) :
    base.Above (scopes + 1) (s.compose first) := by
  obtain ⟨inner, hs, hlength⟩ := h
  cases inner with
  | nil => cases hlength
  | cons top inner =>
      have henclosing : s.enclosing = inner ++ base.toList := (List.cons.inj hs).2
      refine ⟨first.compose s.top :: inner, ?_, hlength⟩
      rw [List.cons_append, ← henclosing]
      rfl

theorem Above.eq_base
    (h : base.Above 0 s) :
    s = base := by
  obtain ⟨inner, hs, hlength⟩ := h
  obtain rfl := List.length_eq_zero_iff.mp hlength
  obtain ⟨htop, henclosing⟩ := List.cons.inj hs
  cases s
  cases base
  simp_all

end TransformStack

namespace Script

/-- Statements that leave as many scopes as they enter, and none that they did not enter. -/
structure Balanced
    (statements : List Statement) : Prop where
  covered : ∀ before, before <+: statements → pops before ≤ pushes before
  closed : pops statements = pushes statements

instance
    (statements : List Statement) :
    Decidable (Balanced statements) :=
  decidable_of_iff
    ((∀ before ∈ statements.inits, pops before ≤ pushes before)
      ∧ pops statements = pushes statements)
    ⟨fun h => ⟨fun before hbefore => h.1 before ((List.mem_inits _ _).mpr hbefore), h.2⟩,
      fun h => ⟨fun before hbefore => h.covered before ((List.mem_inits _ _).mp hbefore), h.closed⟩⟩

theorem pushes_cons
    (statement : Statement)
    (rest : List Statement) :
    pushes (statement :: rest) = pushes rest + (if statement.directive.enters then 1 else 0) := by
  simp [pushes, List.countP_cons]

theorem pops_cons
    (statement : Statement)
    (rest : List Statement) :
    pops (statement :: rest) = pops rest + (if statement.directive.leaves then 1 else 0) := by
  simp [pops, List.countP_cons]

end Script

/-- One directive above some entries of the stack, which has at least one entry more. -/
theorem Directive.Changes.above
    {directive : Directive}
    {f g : Frame}
    {base : TransformStack Float}
    {scopes : Nat}
    (h : directive.Changes f g)
    (habove : base.Above (scopes + 1) f.stack) :
    ∃ left, base.Above left g.stack
      ∧ left + (if directive.leaves then 1 else 0)
        = scopes + 1 + (if directive.enters then 1 else 0) := by
  cases h with
  | defines => exact ⟨_, habove, rfl⟩
  | enters => exact ⟨_, habove.push, rfl⟩
  | leaves left =>
      obtain ⟨rest, hpop, hrest⟩ := habove.pop
      obtain rfl := Option.some.inj (left.symm.trans hpop)
      exact ⟨scopes, hrest, rfl⟩
  | stays outermost =>
      obtain ⟨rest, hpop, _⟩ := habove.pop
      rw [outermost] at hpop
      cases hpop
  | composes quiet step composed =>
      refine ⟨_, habove.compose _, ?_⟩
      rw [quiet.leaves, quiet.enters]
  | fills quiet _ _ | strokes quiet _ _ | nothing quiet =>
      refine ⟨_, habove, ?_⟩
      rw [quiet.leaves, quiet.enters]
  | saves path => exact ⟨_, habove, rfl⟩

namespace Drawing

variable {σ : Type} (settings : Settings) (outlet : Outlet σ)

/--
Statements that leave only scopes entered above some entries of the stack, or by themselves, leave
those entries alone, however they end; if they all are done, the scopes can be counted.
-/
theorem above_forM
    {base : TransformStack Float}
    {scopes : Nat}
    {statements : List Statement}
    {s : Session σ}
    (habove : base.Above (scopes + 1) s.frame.stack)
    (hcovered : ∀ before, before <+: statements →
      Script.pops before ≤ Script.pushes before + scopes) :
    ∃ left, base.Above (left + 1)
        (final (statements.forM (execute settings outlet) s)).frame.stack
      ∧ ∀ t, statements.forM (execute settings outlet) s = .ok () t →
        left + Script.pops statements = Script.pushes statements + scopes := by
  induction statements generalizing scopes s with
  | nil => exact ⟨scopes, habove, fun _ _ => Nat.add_comm scopes 0⟩
  | cons statement rest ih =>
      obtain ⟨f, warnings, hchanges, hattempt⟩ := changes_attempt settings outlet statement s
      obtain ⟨left, hleft, hcount⟩ := hchanges.above habove
      have hstack : (attempt settings outlet s statement).frame.stack = f.stack := by rw [hattempt]
      have hfirst := hcovered [statement] ⟨rest, rfl⟩
      rw [Script.pops_cons, Script.pushes_cons] at hfirst
      -- the statement itself is covered, so an entry is left above the base
      obtain ⟨scopes', rfl⟩ : ∃ m, left = m + 1 := by
        refine ⟨left - 1, ?_⟩
        have hnil : Script.pops [] = 0 ∧ Script.pushes [] = 0 := ⟨rfl, rfl⟩
        omega
      rw [forM_cons]
      cases houtcome : execute settings outlet statement s with
      | error failure t =>
          simp only [attempt, houtcome, final] at hstack
          exact ⟨scopes', hstack ▸ hleft, fun _ h => by cases h⟩
      | ok _ t =>
          simp only [attempt, houtcome, final] at hstack
          have hrest : ∀ before, before <+: rest →
              Script.pops before ≤ Script.pushes before + scopes' := by
            intro before hbefore
            have hwhole := hcovered (statement :: before)
              (List.cons_prefix_cons.mpr ⟨rfl, hbefore⟩)
            rw [Script.pops_cons, Script.pushes_cons] at hwhole
            omega
          obtain ⟨n, hn, hcounts⟩ := ih (hstack ▸ hleft) hrest
          refine ⟨n, hn, fun u hu => ?_⟩
          have hlast := hcounts u hu
          rw [Script.pops_cons, Script.pushes_cons]
          omega

/-- Behind a `push` the entries that were there lie below one more. -/
theorem forM_push
    (line : Int)
    (s : Session σ) :
    ∃ entered : Session σ, s.frame.stack.Above 1 entered.frame.stack
      ∧ ∀ statements : List Statement,
        (⟨line, .push⟩ :: statements).forM (execute settings outlet) s
          = statements.forM (execute settings outlet) entered := by
  refine ⟨⟨{ s.frame with stack := s.frame.stack.push }, s.outside,
    s.notices.push (.executing s.frame.index ⟨line, .push⟩)⟩, s.frame.stack.above_self.push, ?_⟩
  intro statements
  rw [forM_cons]
  rfl

/-- A `pop` behind balanced statements that are done leads back to those entries. -/
theorem forM_pop
    {base : TransformStack Float}
    {body : List Statement}
    {s t : Session σ}
    (hbalanced : Script.Balanced body)
    (habove : base.Above 1 s.frame.stack)
    (hdone : body.forM (execute settings outlet) s = .ok () t)
    (line : Int) :
    ∃ notices, (body ++ [Statement.mk line .pop]).forM (execute settings outlet) s
      = .ok () ⟨{ t.frame with stack := base }, t.outside, notices⟩ := by
  obtain ⟨left, hleft, hcount⟩ :=
    above_forM settings outlet habove hbalanced.covered
  have htotal := hcount t hdone
  rw [hbalanced.closed] at htotal
  obtain rfl : left = 0 := by omega
  rw [hdone] at hleft
  obtain ⟨stack, hpop, hstack⟩ := hleft.pop
  obtain rfl := hstack.eq_base
  simp only [final] at hpop
  have hlast : execute settings outlet ⟨line, .pop⟩ t
      = .ok () ⟨{ t.frame with stack }, t.outside,
        t.notices.push (.executing t.frame.index ⟨line, .pop⟩)⟩ := by
    simp only [execute, perform, takeStep, TransformStack.step?, Session.note, hpop]
  refine ⟨t.notices.push (.executing t.frame.index ⟨line, .pop⟩), ?_⟩
  rw [forM_append, hdone]
  simp only [forM_cons, hlast]
  rfl

end Drawing

/--
Behind a `push`, statements that are balanced leave the entries of the stack alone that were there
before it, at every point and however they end.  If they are done, a `pop` is done behind them: the
stack is what it was before the `push`, and all else is what the statements made of it.
-/
theorem scope_restored
    {σ : Type}
    (settings : Settings)
    (outlet : Outlet σ)
    {body : List Statement}
    (hbalanced : Script.Balanced body)
    (opening closing : Int)
    (s : Session σ) :
    let inside (statements : List Statement) :=
      (⟨opening, .push⟩ :: statements).forM (Drawing.execute settings outlet) s
    (∀ before, before <+: body → ∃ inner, inner ≠ []
        ∧ (Drawing.final (inside before)).frame.stack.toList = inner ++ s.frame.stack.toList)
      ∧ (∀ t, inside (body ++ [⟨closing, .pop⟩]) = .ok () t →
        t.frame.stack = s.frame.stack
          ∧ ∃ u, inside body = .ok () u
            ∧ t.frame = { u.frame with stack := s.frame.stack } ∧ t.outside = u.outside)
      ∧ (∀ u, inside body = .ok () u → ∃ t, inside (body ++ [⟨closing, .pop⟩]) = .ok () t) := by
  intro inside
  obtain ⟨entered, habove, hinside⟩ := Drawing.forM_push settings outlet opening s
  have hclosed {u : Session σ} := Drawing.forM_pop (t := u) settings outlet hbalanced habove
  refine ⟨?_, ?_, ?_⟩
  case refine_1 =>
    intro before hbefore
    obtain ⟨left, ⟨inner, hstack, hlength⟩, _⟩ :=
      Drawing.above_forM settings outlet habove fun part hpart =>
        hbalanced.covered part (hpart.trans hbefore)
    refine ⟨inner, List.ne_nil_of_length_pos (hlength ▸ Nat.succ_pos left), ?_⟩
    simp only [inside, hinside]
    exact hstack
  case refine_2 =>
    intro t ht
    simp only [inside, hinside] at ht ⊢
    cases hbody : body.forM (Drawing.execute settings outlet) entered with
    | error failure u =>
        rw [Drawing.forM_append, hbody] at ht
        cases ht
    | ok _ u =>
        obtain ⟨notices, hdone⟩ := hclosed hbody closing
        rw [hdone] at ht
        cases ht
        exact ⟨rfl, u, rfl, rfl, rfl⟩
  case refine_3 =>
    intro u hu
    simp only [inside, hinside] at hu ⊢
    obtain ⟨notices, hdone⟩ := hclosed hu closing
    exact ⟨_, hdone⟩

/-- A scope in a scope, behind a move and around a directive that is not supported. -/
theorem scope_restored_nested :
    let body : List Statement :=
      [⟨2, .move ⟨1, 2, 3⟩ none⟩, ⟨3, .push⟩, ⟨4, .unknown "mesh" []⟩, ⟨5, .pop⟩]
    let s : Session Unit := ⟨Frame.start {} 0 [], (), #[]⟩
    Script.Balanced body
      ∧ ∃ t, (⟨1, .push⟩ :: body ++ [Statement.mk 6 .pop]).forM
            (Drawing.execute {} Outlet.accepting) s = .ok () t
        ∧ t.frame.stack = s.frame.stack
        ∧ t.frame.warnings = [.onLine (.unsupportedDirective "mesh") 4] := by
  intro body s
  have hbalanced : Script.Balanced body := by decide
  let inside := (⟨1, .push⟩ :: body).forM (Drawing.execute {} Outlet.accepting) s
  obtain ⟨u, hu⟩ : ∃ u, inside = .ok () u := ⟨_, rfl⟩
  have hwarnings : (Drawing.final inside).frame.warnings
      = [.onLine (.unsupportedDirective "mesh") 4] := rfl
  obtain ⟨_, hrestored, hdone⟩ := scope_restored {} Outlet.accepting hbalanced 1 6 s
  obtain ⟨t, ht⟩ := hdone u hu
  obtain ⟨hstack, v, hv, hframe, _⟩ := hrestored t ht
  have hlast : inside = .ok () v := hv
  rw [hlast] at hwarnings
  refine ⟨hbalanced, t, ht, hstack, ?_⟩
  rw [hframe]
  exact hwarnings

end Diorama
