import Diorama.Geometry.Transform

/-!
# The stack of transforms

A scope of a scene has a current transform, and nested scopes form a stack that is never empty.
A `ScopeStep` is one change of the stack; it fails only where the outermost scope would be left.
-/

namespace Diorama

/-- The current transform and those of the enclosing scopes, innermost first. -/
structure TransformStack (α : Type) where
  top : Transform α
  enclosing : List (Transform α)

/-- A change of the current transform or of the nesting of scopes. -/
inductive ScopeStep (α : Type)
  | enter
  | leave
  | move (offset : Vec3 α)
  | scale (factors : Vec3 α)
  | turn (axis : Axis) (cosine sine : α)

namespace TransformStack

variable {α : Type}

/-- A single scope. -/
def ofRoot
    (root : Transform α) :
    TransformStack α :=
  ⟨root, []⟩

/-- The transforms from the innermost scope to the outermost. -/
def toList
    (s : TransformStack α) :
    List (Transform α) :=
  s.top :: s.enclosing

/-- The number of scopes. -/
def depth
    (s : TransformStack α) :
    Nat :=
  s.enclosing.length + 1

/-- Enter a scope with the same transform. -/
def push
    (s : TransformStack α) :
    TransformStack α :=
  ⟨s.top, s.toList⟩

/-- Leave the innermost scope; the outermost one cannot be left. -/
def pop?
    (s : TransformStack α) :
    Option (TransformStack α) :=
  match s.enclosing with
  | [] => none
  | top :: enclosing => some ⟨top, enclosing⟩

/-- Leave the innermost scope, or report the line on which that is impossible. -/
def pop
    (s : TransformStack α)
    (line : Option Int) :
    Except ScriptError (TransformStack α) :=
  match s.pop? with
  | some rest => .ok rest
  | none => .error ⟨.stackUnderflow, line, none⟩

/-- Let a transform act before the current one. -/
def compose
    [Scalar α]
    (s : TransformStack α)
    (first : Transform α) :
    TransformStack α :=
  { s with top := first.compose s.top }

/-- Take a step; there is none that leaves the outermost scope. -/
def step?
    [Scalar α]
    (s : TransformStack α) :
    ScopeStep α → Option (TransformStack α)
  | .enter => some s.push
  | .leave => s.pop?
  | .move offset => some (s.compose (Transform.translate offset))
  | .scale factors => some (s.compose (Transform.scale factors))
  | .turn axis cosine sine => some (s.compose (axis.turn cosine sine))

/-- A single scope with the identity. -/
def reset
    [Scalar α] :
    TransformStack α :=
  ofRoot Transform.identity

/-- A one-line description. -/
def display
    (s : TransformStack α) :
    String :=
  "TransformStack(depth=" ++ Number.intText s.depth ++ ")"

@[simp]
theorem toList_push
    (s : TransformStack α) :
    s.push.toList = s.top :: s.toList :=
  rfl

@[simp]
theorem depth_push
    (s : TransformStack α) :
    s.push.depth = s.depth + 1 := by
  simp [push, depth, toList]

@[simp]
theorem pop?_push
    (s : TransformStack α) :
    s.push.pop? = some s :=
  rfl

/-- The outermost scope cannot be left; every other one can. -/
theorem pop?_eq_none_iff
    (s : TransformStack α) :
    s.pop? = none ↔ s.depth = 1 := by
  obtain ⟨top, enclosing⟩ := s
  cases enclosing <;> simp [pop?, depth]

theorem enclosing_of_pop?
    {s rest : TransformStack α}
    (h : s.pop? = some rest) :
    s.enclosing = rest.toList := by
  obtain ⟨top, enclosing⟩ := s
  cases enclosing with
  | nil => cases h
  | cons outer enclosing =>
      cases h
      rfl

theorem depth_of_pop?
    {s rest : TransformStack α}
    (h : s.pop? = some rest) :
    s.depth = rest.depth + 1 :=
  congrArg (fun entries => entries.length + 1) (enclosing_of_pop? h)

theorem pop_eq_error_iff
    (s : TransformStack α)
    (line : Option Int)
    (error : ScriptError) :
    s.pop line = .error error ↔ s.depth = 1 ∧ error = ⟨.stackUnderflow, line, none⟩ := by
  rw [← pop?_eq_none_iff, pop]
  cases s.pop? with
  | none => simp [eq_comm]
  | some rest => simp

@[simp]
theorem depth_compose
    [Scalar α]
    (s : TransformStack α)
    (first : Transform α) :
    (s.compose first).depth = s.depth :=
  rfl

end TransformStack
end Diorama
