import Mathlib.Logic.Basic

/-!
# Results that may be errors or missing

When a computation that may fail has a given result, by the ways in which it is put together.
-/

namespace SymbolRules

variable {ε ε' α β γ : Type} {x : Except ε α} {e : ε} {taken : Bool}

theorem bind_eq_ok_iff {f : α → Except ε β} {b : β} : (x >>= f) = .ok b ↔ ∃ a, x = .ok a ∧ f a = .ok b := by
  cases x <;> simp [bind, Except.bind]

theorem mapError_eq_ok_iff {f : ε → ε'} {a : α} : x.mapError f = .ok a ↔ x = .ok a := by
  cases x with
  | error _ => exact iff_of_false nofun nofun
  | ok b =>
    show Except.ok b = Except.ok a ↔ _
    rw [Except.ok.injEq, Except.ok.injEq]

/-- A step that is refused when its place is taken. -/
theorem guard_eq_ok_iff {a b : α} :
    (if taken = true then Except.error e else .ok a) = .ok b ↔ taken = false ∧ a = b := by
  cases taken <;> simp

/-- A step that is refused when its place is taken, and then may fail by itself. -/
theorem once_eq_ok_iff {f : α → β} {b : β} :
    (do
      if taken then throw e
      return f (← x)) = Except.ok b ↔ taken = false ∧ ∃ a, x = .ok a ∧ f a = b := by
  cases taken with
  | true => exact iff_of_false nofun nofun
  | false =>
    cases x with
    | error _ => exact iff_of_false nofun nofun
    | ok a =>
      show Except.ok (f a) = Except.ok b ↔ _
      simp

/-- Failing is having no result. -/
theorem exists_error_iff : (∃ e, x = .error e) ↔ ∀ a, x ≠ .ok a := by
  cases x <;> simp

/-- A list is read when each of its members is. -/
theorem mapM_map_eq_some {write : α → β} {read : β → Option γ} {f : α → γ} (h : ∀ a, read (write a) = some (f a))
    (as : List α) : (as.map write).mapM read = some (as.map f) := by
  have each : read ∘ write = fun a => pure (f a) := funext h
  rw [List.mapM_map, each, List.mapM_pure]
  rfl

end SymbolRules
