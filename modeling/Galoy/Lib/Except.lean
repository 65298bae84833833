/-
  Galoy.Lib.Except

  Peeling a successful `Except` computation apart: a bind that succeeded had
  a first step that succeeded, and its continuation ran on that step's value.
  Proofs about a pipeline of fallible stages take one `obtain` per stage with
  `bind_eq_ok`, and never unfold the stages they do not care about.
-/

import Mathlib.Logic.Basic

namespace Except

variable {ε α β : Type}

/-- A bind on a success runs the continuation on its value. -/
@[simp] theorem ok_bind (a : α) (f : α → Except ε β) : (Except.ok a >>= f) = f a := rfl

theorem bind_eq_ok {x : Except ε α} {f : α → Except ε β} {b : β}
    (h : (x >>= f) = .ok b) : ∃ a, x = .ok a ∧ f a = .ok b := by
  cases x with
  | error e => cases h
  | ok a => exact ⟨a, rfl, h⟩

theorem map_eq_ok {x : Except ε α} {f : α → β} {b : β}
    (h : x.map f = .ok b) : ∃ a, x = .ok a ∧ f a = b := by
  cases x with
  | error e => cases h
  | ok a =>
    cases h
    exact ⟨a, rfl, rfl⟩

theorem mapError_eq_ok {ε' : Type} {x : Except ε α} {f : ε → ε'} {a : α}
    (h : x.mapError f = .ok a) : x = .ok a := by
  cases x with
  | error e => cases h
  | ok a' =>
    cases h
    rfl

end Except
