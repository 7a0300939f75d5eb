import Diorama.Geometry.PointBuffer
import Diorama.Geometry.TransformStack
import Mathlib.Data.List.Induction

/-!
# What a stack of transforms stands for

A stack is driven by calls.  Its current transform is the product of the transforms that were
composed in the scopes that are still open: a transform is discarded by the `pop` that leaves the
scope it was composed in, and by a reset.  Which transforms these are is said on the list of the
calls, each with the depth at which it was made; no matrix is looked at for it.

**Main statements.**
* `scoped_calls`: every entry of the stack is the product of the transforms of its open scopes.
* `depth_calls`: the depth counts the scopes that were entered and not left.
* `PointBuffer.transform_product`: in exact arithmetic a product acts one factor after the other.
* `stack_denotes_scopes`: the three together.
-/

namespace Diorama

/-- A call on a stack of transforms; a `pop` may know the line it is made for. -/
inductive StackCall (α : Type)
  | push
  | pop (line : Option Int)
  | compose (first : Transform α)
  | reset

/-- A call, and the depth of the stack on which it was made. -/
structure MadeCall (α : Type) where
  depth : Nat
  call : StackCall α

namespace MadeCall

variable {α : Type}

/-- Whether a call enters a scope. -/
def enters
    (m : MadeCall α) :
    Bool :=
  match m.call with
  | .push => true
  | _ => false

/-- Whether a call leaves a scope; the outermost scope is not left. -/
def leaves
    (m : MadeCall α) :
    Bool :=
  match m.call with
  | .pop _ => decide (1 < m.depth)
  | _ => false

/-- Whether a call begins the stack anew. -/
def resets
    (m : MadeCall α) :
    Bool :=
  match m.call with
  | .reset => true
  | _ => false

/--
Whether a call discards what was composed in the open scope of the given depth.  Scopes are closed
in reverse order, so the next `pop` made at a scope's own depth is the one that leaves it.
-/
def discards
    (m : MadeCall α)
    (scope : Nat) :
    Bool :=
  m.resets || (m.leaves && m.depth == scope)

/-- The calls since the last reset. -/
def sinceReset
    (made : List (MadeCall α)) :
    List (MadeCall α) :=
  (made.reverse.takeWhile fun m => !m.resets).reverse

/-- The transforms that no later call discards, each with the depth of its scope. -/
def survivors : List (MadeCall α) → List (Nat × Transform α)
  | [] => []
  | ⟨scope, .compose first⟩ :: later =>
      if later.any fun m => m.discards scope then survivors later
      else (scope, first) :: survivors later
  | _ :: later => survivors later

/-- The transform that a call adds, with the depth of its scope. -/
def composed
    (m : MadeCall α) :
    List (Nat × Transform α) :=
  match m.call with
  | .compose first => [(m.depth, first)]
  | _ => []

theorem sinceReset_append_singleton
    (made : List (MadeCall α))
    (m : MadeCall α) :
    sinceReset (made ++ [m]) = if m.resets then [] else sinceReset made ++ [m] := by
  cases hreset : m.resets <;> simp [sinceReset, hreset]

/-- One more call discards some of the survivors and may add one. -/
theorem survivors_append_singleton
    (made : List (MadeCall α))
    (m : MadeCall α) :
    survivors (made ++ [m])
      = (survivors made).filter (fun e => !m.discards e.1) ++ m.composed := by
  induction made with
  | nil =>
      obtain ⟨depth, call⟩ := m
      cases call <;> simp [survivors, composed]
  | cons first made ih =>
      obtain ⟨scope, call⟩ := first
      cases call with
      | push => simpa [survivors] using ih
      | pop line => simpa [survivors] using ih
      | reset => simpa [survivors] using ih
      | compose e =>
          simp only [List.cons_append, survivors, List.any_append, List.any_cons, List.any_nil,
            Bool.or_false, ih]
          by_cases hmade : made.any fun m => m.discards scope
          · simp [hmade]
          · by_cases hlast : m.discards scope <;> simp [hmade, hlast]

end MadeCall

/-- The product of transforms on top of another one; a later factor acts before an earlier one. -/
def Transform.product
    {α : Type}
    [Scalar α]
    (base : Transform α)
    (factors : List (Nat × Transform α)) :
    Transform α :=
  factors.foldl (fun m e => e.2.compose m) base

@[simp]
theorem Transform.product_append_singleton
    {α : Type}
    [Scalar α]
    (base : Transform α)
    (factors : List (Nat × Transform α))
    (e : Nat × Transform α) :
    base.product (factors ++ [e]) = e.2.compose (base.product factors) := by
  simp [product]

namespace TransformStack

variable {α : Type} [Scalar α]

/-- The stack after a call; a `pop` that fails changes nothing. -/
def call
    (s : TransformStack α) :
    StackCall α → TransformStack α
  | .push => s.push
  | .pop line => (s.pop line).toOption.getD s
  | .compose first => s.compose first
  | .reset => TransformStack.reset

/-- The stack after calls in order. -/
def calls
    (s : TransformStack α)
    (cs : List (StackCall α)) :
    TransformStack α :=
  cs.foldl call s

/-- Calls in order, each with the depth at which it is made. -/
def made
    (s : TransformStack α) :
    List (StackCall α) → List (MadeCall α)
  | [] => []
  | c :: cs => ⟨s.depth, c⟩ :: (s.call c).made cs

/-- The transform that the outermost scope begins with. -/
def base
    (root : Transform α)
    (made : List (MadeCall α)) :
    Transform α :=
  if made.any MadeCall.resets then Transform.identity else root

theorem calls_append_singleton
    (s : TransformStack α)
    (cs : List (StackCall α))
    (c : StackCall α) :
    s.calls (cs ++ [c]) = (s.calls cs).call c := by
  simp [calls]

theorem made_append_singleton
    (s : TransformStack α)
    (cs : List (StackCall α))
    (c : StackCall α) :
    s.made (cs ++ [c]) = s.made cs ++ [⟨(s.calls cs).depth, c⟩] := by
  induction cs generalizing s with
  | nil => rfl
  | cons first cs ih => simpa [made, calls] using ih (s.call first)

theorem base_append_singleton
    (root : Transform α)
    (made : List (MadeCall α))
    (m : MadeCall α) :
    base root (made ++ [m]) = if m.resets then Transform.identity else base root made := by
  cases hreset : m.resets <;> simp [base, hreset]

theorem call_pop_of_none
    {s : TransformStack α}
    (h : s.pop? = none)
    (line : Option Int) :
    s.call (.pop line) = s := by
  simp [call, TransformStack.pop, h, Except.toOption]

theorem call_pop_of_some
    {s rest : TransformStack α}
    (h : s.pop? = some rest)
    (line : Option Int) :
    s.call (.pop line) = rest := by
  simp [call, TransformStack.pop, h, Except.toOption]

/--
Every entry of a stack is the product of the factors of its scope and the enclosing ones; an entry
with `n` others around it belongs to depth `n + 1`.
-/
def Denotes
    (base : Transform α)
    (factors : List (Nat × Transform α)) :
    List (Transform α) → Prop
  | [] => True
  | top :: enclosing =>
      top = base.product (factors.filter fun e => decide (e.1 ≤ enclosing.length + 1))
        ∧ Denotes base factors enclosing

/-- Entries are not affected by factors of deeper scopes. -/
theorem Denotes.congr
    {base : Transform α}
    {factors others : List (Nat × Transform α)}
    {entries : List (Transform α)}
    (hsame : ∀ n ≤ entries.length,
      others.filter (fun e => decide (e.1 ≤ n)) = factors.filter fun e => decide (e.1 ≤ n))
    (h : Denotes base factors entries) :
    Denotes base others entries := by
  induction entries with
  | nil => trivial
  | cons top enclosing ih =>
      obtain ⟨htop, henclosing⟩ := h
      refine ⟨?_, ih (fun n hn => hsame n (Nat.le_succ_of_le hn)) henclosing⟩
      rw [hsame (enclosing.length + 1) (Nat.le_refl _), htop]

omit [Scalar α] in
theorem filter_of_bound
    {factors : List (Nat × Transform α)}
    {n : Nat}
    (h : ∀ e ∈ factors, e.1 ≤ n) :
    factors.filter (fun e => decide (e.1 ≤ n)) = factors := by
  rw [List.filter_eq_self]
  simpa using h

/-- What the calls on a stack have left behind. -/
structure Scoped
    (root : Transform α)
    (made : List (MadeCall α))
    (s : TransformStack α) : Prop where
  bound : ∀ e ∈ MadeCall.survivors made, e.1 ≤ s.depth
  denotes : Denotes (base root made) (MadeCall.survivors made) s.toList

namespace Scoped

variable {root : Transform α} {made : List (MadeCall α)} {s : TransformStack α}

/-- The current transform is the product of all survivors, as none lies deeper than the stack. -/
theorem top_eq
    (h : Scoped root made s) :
    s.top = (base root made).product (MadeCall.survivors made) := by
  have htop := h.denotes.1
  rwa [show s.enclosing.length + 1 = s.depth from rfl, filter_of_bound h.bound] at htop

theorem push
    (h : Scoped root made s) :
    Scoped root (made ++ [⟨s.depth, .push⟩]) s.push := by
  have hsurvivors : MadeCall.survivors (made ++ [⟨s.depth, .push⟩]) = MadeCall.survivors made := by
    simp [MadeCall.survivors_append_singleton, MadeCall.discards, MadeCall.resets,
      MadeCall.leaves, MadeCall.composed]
  have hbase : base root (made ++ [⟨s.depth, .push⟩]) = base root made := by
    simp [base_append_singleton, MadeCall.resets]
  have hbound : ∀ e ∈ MadeCall.survivors made, e.1 ≤ s.push.depth := by
    intro e he
    rw [depth_push]
    exact Nat.le_succ_of_le (h.bound e he)
  refine ⟨hsurvivors ▸ hbound, ?_⟩
  rw [hsurvivors, hbase, toList_push]
  refine ⟨?_, h.denotes⟩
  rw [show s.toList.length + 1 = s.push.depth from rfl, filter_of_bound hbound, h.top_eq]

theorem compose
    (h : Scoped root made s)
    (first : Transform α) :
    Scoped root (made ++ [⟨s.depth, .compose first⟩]) (s.compose first) := by
  have hsurvivors : MadeCall.survivors (made ++ [⟨s.depth, .compose first⟩])
      = MadeCall.survivors made ++ [(s.depth, first)] := by
    simp [MadeCall.survivors_append_singleton, MadeCall.discards, MadeCall.resets,
      MadeCall.leaves, MadeCall.composed]
  have hbase : base root (made ++ [⟨s.depth, .compose first⟩]) = base root made := by
    simp [base_append_singleton, MadeCall.resets]
  have hbound : ∀ e ∈ MadeCall.survivors made ++ [(s.depth, first)], e.1 ≤ s.depth := by
    intro e he
    rcases List.mem_append.mp he with hold | hnew
    · exact h.bound e hold
    · obtain rfl := List.mem_singleton.mp hnew
      exact Nat.le_refl _
  refine ⟨hsurvivors ▸ hbound, ?_⟩
  rw [hsurvivors, hbase]
  refine ⟨?_, h.denotes.2.congr fun n hn => ?_⟩
  · change first.compose s.top = _
    rw [show (s.compose first).enclosing.length + 1 = s.depth from rfl, filter_of_bound hbound,
      Transform.product_append_singleton, h.top_eq]
  · -- the new factor lies deeper than the enclosing scopes
    have hdeep : ¬s.depth ≤ n := Nat.not_le.mpr (Nat.lt_succ_of_le hn)
    simp [hdeep]

theorem reset
    (made : List (MadeCall α))
    (root : Transform α)
    (depth : Nat) :
    Scoped root (made ++ [⟨depth, .reset⟩]) TransformStack.reset := by
  have hsurvivors : MadeCall.survivors (made ++ [⟨depth, .reset⟩]) = [] := by
    simp [MadeCall.survivors_append_singleton, MadeCall.discards, MadeCall.resets,
      MadeCall.composed]
  have hbase : base root (made ++ [⟨depth, .reset⟩]) = Transform.identity := by
    simp [base_append_singleton, MadeCall.resets]
  refine ⟨by simp [hsurvivors], ?_⟩
  rw [hsurvivors, hbase]
  exact ⟨rfl, trivial⟩

omit [Scalar α] in
/-- What a `pop` discards: the factors of the scope it leaves. -/
theorem survivors_pop
    (made : List (MadeCall α))
    (depth : Nat)
    (line : Option Int) :
    MadeCall.survivors (made ++ [⟨depth, .pop line⟩])
      = (MadeCall.survivors made).filter fun e => !(decide (1 < depth) && depth == e.1) := by
  simp [MadeCall.survivors_append_singleton, MadeCall.discards, MadeCall.resets,
    MadeCall.leaves, MadeCall.composed]

theorem base_pop
    (root : Transform α)
    (made : List (MadeCall α))
    (depth : Nat)
    (line : Option Int) :
    base root (made ++ [⟨depth, .pop line⟩]) = base root made := by
  simp [base_append_singleton, MadeCall.resets]

/-- Leaving a scope discards what was composed in it. -/
theorem pop
    {rest : TransformStack α}
    (h : Scoped root made s)
    (hpop : s.pop? = some rest)
    (line : Option Int) :
    Scoped root (made ++ [⟨s.depth, .pop line⟩]) rest := by
  have henclosing := enclosing_of_pop? hpop
  have hdepth := depth_of_pop? hpop
  have hinner : 1 < s.depth := hdepth ▸ Nat.succ_lt_succ (Nat.succ_pos _)
  refine ⟨?_, ?_⟩
  · intro e he
    rw [survivors_pop, List.mem_filter] at he
    obtain ⟨hmem, hscope⟩ := he
    have hbound := h.bound e hmem
    simp only [hinner, decide_true, Bool.true_and, Bool.not_eq_true', beq_eq_false_iff_ne] at hscope
    omega
  · rw [survivors_pop, base_pop, ← henclosing]
    refine h.denotes.2.congr fun n hn => ?_
    rw [List.filter_filter]
    refine List.filter_congr fun e _ => ?_
    have hlength : s.depth = s.enclosing.length + 1 := rfl
    by_cases hscope : e.1 ≤ n
    · have hne : s.depth ≠ e.1 := by omega
      simp [hscope, hne]
    · simp [hscope]

/-- The outermost scope is not left, and nothing is discarded. -/
theorem pop_outermost
    (h : Scoped root made s)
    (hpop : s.pop? = none)
    (line : Option Int) :
    Scoped root (made ++ [⟨s.depth, .pop line⟩]) s := by
  have hsurvivors : MadeCall.survivors (made ++ [⟨s.depth, .pop line⟩])
      = MadeCall.survivors made := by
    rw [survivors_pop, (pop?_eq_none_iff s).mp hpop]
    simp
  refine ⟨hsurvivors ▸ h.bound, ?_⟩
  rw [hsurvivors, base_pop]
  exact h.denotes

/-- One call. -/
theorem call
    (h : Scoped root made s)
    (c : StackCall α) :
    Scoped root (made ++ [⟨s.depth, c⟩]) (s.call c) := by
  cases c with
  | push => exact h.push
  | compose first => exact h.compose first
  | reset => exact reset made root s.depth
  | pop line =>
      cases hpop : s.pop? with
      | none =>
          rw [call_pop_of_none hpop]
          exact h.pop_outermost hpop line
      | some rest =>
          rw [call_pop_of_some hpop]
          exact h.pop hpop line

end Scoped

/-- Every entry of the stack is the product of the transforms of its open scopes. -/
theorem scoped_calls
    (root : Transform α)
    (cs : List (StackCall α)) :
    Scoped root ((ofRoot root).made cs) ((ofRoot root).calls cs) := by
  induction cs using List.reverseRecOn with
  | nil => exact ⟨by simp [made, MadeCall.survivors], rfl, trivial⟩
  | append_singleton cs c ih =>
      rw [made_append_singleton, calls_append_singleton]
      exact ih.call c

/-- What one call does to the depth. -/
theorem depth_call
    (s : TransformStack α)
    (c : StackCall α) :
    let m : MadeCall α := ⟨s.depth, c⟩
    (s.call c).depth + (if m.leaves then 1 else 0)
      = if m.resets then 1 else s.depth + (if m.enters then 1 else 0) := by
  cases c with
  | push => simp [call, MadeCall.leaves, MadeCall.resets, MadeCall.enters]
  | compose first => simp [call, MadeCall.leaves, MadeCall.resets, MadeCall.enters]
  | reset => simp [call, MadeCall.leaves, MadeCall.resets, TransformStack.reset, ofRoot, depth]
  | pop line =>
      cases hpop : s.pop? with
      | none =>
          have hdepth := (pop?_eq_none_iff s).mp hpop
          simp [call_pop_of_none hpop, hdepth, MadeCall.leaves, MadeCall.resets, MadeCall.enters]
      | some rest =>
          have hdepth := depth_of_pop? hpop
          have hinner : 0 < rest.depth := Nat.succ_pos _
          simp [call_pop_of_some hpop, hdepth, hinner, MadeCall.leaves, MadeCall.resets,
            MadeCall.enters]

/-- The depth counts the scopes that were entered since the last reset and not left. -/
theorem depth_calls
    (root : Transform α)
    (cs : List (StackCall α)) :
    let since := MadeCall.sinceReset ((ofRoot root).made cs)
    ((ofRoot root).calls cs).depth + since.countP MadeCall.leaves
      = 1 + since.countP MadeCall.enters := by
  induction cs using List.reverseRecOn with
  | nil => rfl
  | append_singleton cs c ih =>
      have hstep := depth_call ((ofRoot root).calls cs) c
      rw [made_append_singleton, calls_append_singleton, MadeCall.sinceReset_append_singleton]
      simp only at ih hstep ⊢
      have hpositive : 1 ≤ (((ofRoot root).calls cs).call c).depth := Nat.succ_pos _
      cases hresets : MadeCall.resets ⟨((ofRoot root).calls cs).depth, c⟩ with
      | true =>
          simp only [hresets, if_true] at hstep
          simp only [if_true, List.countP_nil]
          omega
      | false =>
          simp only [hresets, Bool.false_eq_true, if_false] at hstep
          simp only [Bool.false_eq_true, if_false, List.countP_append, List.countP_cons,
            List.countP_nil]
          omega

end TransformStack

/--
Numbers with exact arithmetic, as far as products of matrices need it: sums may be reordered, and
products distribute over sums.
-/
class ExactScalar (α : Type) [Scalar α] : Prop where
  add_assoc : ∀ a b c : α, a + b + c = a + (b + c)
  add_comm : ∀ a b : α, a + b = b + a
  mul_assoc : ∀ a b c : α, a * b * c = a * (b * c)
  mul_add : ∀ a b c : α, a * (b + c) = a * b + a * c
  add_mul : ∀ a b c : α, (a + b) * c = a * c + b * c

/-- The rational numbers compute without rounding. -/
instance : ExactScalar Rat where
  add_assoc := Rat.add_assoc
  add_comm := Rat.add_comm
  mul_assoc := Rat.mul_assoc
  mul_add := Rat.mul_add
  add_mul := Rat.add_mul

section Exact

variable {α : Type} [Scalar α] [ExactScalar α]

local instance associative_add : Std.Associative (α := α) (· + ·) :=
  ⟨ExactScalar.add_assoc⟩

local instance commutative_add : Std.Commutative (α := α) (· + ·) :=
  ⟨ExactScalar.add_comm⟩

/-- A product of two transforms acts one factor after the other. -/
theorem Transform.apply_compose
    (first second : Transform α)
    (p : Point α) :
    (first.compose second).apply p = second.apply (first.apply p) := by
  simp only [compose, apply, transpose, Point.dot, Point.mk.injEq, ExactScalar.mul_add,
    ExactScalar.add_mul, ExactScalar.mul_assoc]
  refine ⟨?_, ?_, ?_, ?_⟩ <;> ac_rfl

theorem PointBuffer.transform_compose
    {group : Nat}
    (b : PointBuffer α group)
    (first second : Transform α) :
    b.transform (first.compose second) = (b.transform first).transform second := by
  simp [transform, Function.comp_def, Transform.apply_compose]

/-- A product acts one factor after the other: the last one first, and the base last. -/
theorem PointBuffer.transform_product
    {group : Nat}
    (b : PointBuffer α group)
    (base : Transform α)
    (factors : List (Nat × Transform α)) :
    b.transform (base.product factors)
      = (factors.foldr (fun e b => b.transform e.2) b).transform base := by
  induction factors generalizing base with
  | nil => rfl
  | cons e factors ih =>
      change b.transform ((e.2.compose base).product factors) = _
      rw [ih, PointBuffer.transform_compose]
      rfl

end Exact

/--
A stack that begins with a root is never empty, and its depth counts the scopes that were entered
since the last reset and not left; only the outermost scope cannot be left.  Its current transform
is the product of the surviving transforms on top of the root, or of the identity after a reset;
in exact arithmetic it acts as they do one after the other, the last one first.
-/
theorem stack_denotes_scopes
    {α : Type}
    [Scalar α]
    (root : Transform α)
    (cs : List (StackCall α)) :
    let s := (TransformStack.ofRoot root).calls cs
    let made := (TransformStack.ofRoot root).made cs
    let since := MadeCall.sinceReset made
    let factors := MadeCall.survivors made
    let base := TransformStack.base root made
    1 ≤ s.depth
      ∧ s.depth + since.countP MadeCall.leaves = 1 + since.countP MadeCall.enters
      ∧ (∀ line error, s.pop line = .error error
        ↔ s.depth = 1 ∧ error = ⟨.stackUnderflow, line, none⟩)
      ∧ s.top = factors.foldl (fun m e => e.2.compose m) base
      ∧ (ExactScalar α → ∀ {group : Nat} (b : PointBuffer α group),
        b.transform s.top = (factors.foldr (fun e b => b.transform e.2) b).transform base) := by
  intro s made since factors base
  have htop : s.top = base.product factors := (TransformStack.scoped_calls root cs).top_eq
  refine ⟨Nat.succ_pos _, TransformStack.depth_calls root cs, s.pop_eq_error_iff, htop, ?_⟩
  intro hexact group b
  rw [htop, PointBuffer.transform_product]

/-- A scope that is left, a `pop` that fails, and a scope that stays open. -/
theorem stack_denotes_scopes_reentered :
    let root : Transform Rat := .scale ⟨3, 1, 1⟩
    let outer : Transform Rat := .translate ⟨1, 2, 3⟩
    let left : Transform Rat := .scale ⟨2, 2, 2⟩
    let inner : Transform Rat := .translate ⟨0, 0, 5⟩
    let cs : List (StackCall Rat) :=
      [.compose outer, .push, .compose left, .pop none, .pop (some 4), .push, .compose inner]
    let s := (TransformStack.ofRoot root).calls cs
    ExactScalar Rat
      ∧ s.depth = 2
      ∧ s.top = inner.compose (outer.compose root)
      ∧ ∀ b : TriangleBuffer Rat,
        b.transform s.top = ((b.transform inner).transform outer).transform root := by
  intro root outer left inner cs s
  have hexact : ExactScalar Rat := inferInstance
  obtain ⟨_, _, _, htop, htransform⟩ := stack_denotes_scopes root cs
  exact ⟨hexact, rfl, htop, fun b => htransform hexact b⟩

end Diorama
