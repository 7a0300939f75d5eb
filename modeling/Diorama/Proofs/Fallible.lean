/-!
# Fallible computations

When a computation that may fail comes to a value, read off its parts.
-/

namespace Diorama

variable {ε δ α β : Type} {x : Except ε α}

theorem bind_eq_ok_iff
    {next : α → Except ε β}
    {b : β} :
    x >>= next = .ok b ↔ ∃ a, x = .ok a ∧ next a = .ok b := by
  cases x with
  | ok a => simp [bind, Except.bind]
  | error e => simp [bind, Except.bind]

@[simp]
theorem mapError_ok
    (f : ε → δ)
    (a : α) :
    (Except.ok a).mapError f = .ok a :=
  rfl

@[simp]
theorem mapError_error
    (f : ε → δ)
    (e : ε) :
    (Except.error e : Except ε α).mapError f = .error (f e) :=
  rfl

theorem mapError_eq_ok_iff
    {f : ε → δ}
    {a : α} :
    x.mapError f = .ok a ↔ x = .ok a := by
  cases x <;> simp

/-- The error of a computation that failed. -/
def errorOf? : Except ε α → Option ε
  | .ok _ => none
  | .error e => some e

theorem errorOf?_eq_some_iff
    {e : ε} :
    errorOf? x = some e ↔ x = .error e := by
  cases x <;> simp [errorOf?]

theorem errorOf?_mapError
    (x : Except ε α)
    (f : ε → δ) :
    errorOf? (x.mapError f) = (errorOf? x).map f := by
  cases x <;> rfl

theorem exists_ok_of_isOk
    (h : x.isOk = true) :
    ∃ a, x = .ok a := by
  cases x with
  | ok a => exact ⟨a, rfl⟩
  | error e => cases h

end Diorama
