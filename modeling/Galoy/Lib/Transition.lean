/-
  Galoy.Lib.Transition

  Transition systems given by a partial step function `next : σ → α → Option σ`,
  and interleavings of processes inside them.

  A run replays a trace of actions and stops at the first action that is not
  enabled.  `Reachable` closes an initial state under enabled steps; a safety
  property is proved by an inductive invariant (`Invariant.holds`), and refuted
  by one trace whose run ends in a state that breaks it (`exists_of_run`).  A
  system whose steps map to steps of another, or to none, refines it
  (`Reachable.map`).
  `restrict` keeps only the steps that a guard admits: a safety property that
  fails in a system can hold in one of its restrictions.

  Processes are a map from ids to local states (`none`: not started).  A
  per-process invariant is kept by a step of one process when the step keeps
  that process's part and does not disturb the parts of the others
  (`ForallProcs.update`), the interference-freedom condition of Owicki and Gries.
-/

import Mathlib.Logic.Function.Basic
import Mathlib.Data.Nat.Notation

namespace Transition

-- ============================================================================
-- Runs and reachable states
-- ============================================================================

section Runs

variable {σ α : Type} (next : σ → α → Option σ)

/-- Replay a trace: `none` as soon as an action is not enabled. -/
def run : σ → List α → Option σ
  | s, [] => some s
  | s, a :: as => (next s a).bind fun s' => run s' as

/-- The states an enabled sequence of steps leads to from `init`. -/
inductive Reachable (init : σ) : σ → Prop where
  | refl : Reachable init init
  | step {s s' : σ} (a : α) : Reachable init s → next s a = some s' → Reachable init s'

/-- `P` holds initially and every enabled step keeps it. -/
structure Invariant (init : σ) (P : σ → Prop) : Prop where
  init : P init
  step : ∀ s a s', P s → next s a = some s' → P s'

variable {next}

@[simp] theorem run_nil (s : σ) : run next s [] = some s := rfl

@[simp] theorem run_cons (s : σ) (a : α) (as : List α) :
    run next s (a :: as) = (next s a).bind fun s' => run next s' as := rfl

theorem Reachable.trans {init s s' : σ} (h : Reachable next init s)
    (h' : Reachable next s s') : Reachable next init s' := by
  induction h' with
  | refl => exact h
  | step a _ hStep ih => exact .step a ih hStep

/-- Every state a run ends in is reachable. -/
theorem reachable_of_run {init s : σ} {as : List α} (h : run next init as = some s) :
    Reachable next init s := by
  induction as generalizing init with
  | nil =>
    cases h
    exact .refl
  | cons a as ih =>
    simp only [run_cons] at h
    cases hStep : next init a with
    | none => simp [hStep] at h
    | some s' =>
      rw [hStep, Option.bind_some] at h
      exact Reachable.trans (.step a .refl hStep) (ih h)

/-- An invariant holds in every reachable state. -/
theorem Invariant.holds {init : σ} {P : σ → Prop} (hP : Invariant next init P) {s : σ}
    (h : Reachable next init s) : P s := by
  induction h with
  | refl => exact hP.init
  | step a _ hStep ih => exact hP.step _ a _ ih hStep

/-- A run that ends in a state where `p` holds: such a state is reachable. -/
theorem exists_of_run {init : σ} {as : List α} {p : σ → Bool}
    (h : (run next init as).map p = some true) :
    ∃ s, Reachable next init s ∧ p s = true := by
  cases hRun : run next init as with
  | none => simp [hRun] at h
  | some s =>
    rw [hRun, Option.map_some, Option.some.injEq] at h
    exact ⟨s, reachable_of_run hRun, h⟩

/-- A stuttering simulation: when every step of `next` leaves the image under
    `f` as it is or is a step of `next'` there, the image of every reachable
    state is reachable. -/
theorem Reachable.map {τ β : Type} {next' : τ → β → Option τ} (f : σ → τ)
    (hSim : ∀ s a s', next s a = some s' → f s' = f s ∨ ∃ b, next' (f s) b = some (f s'))
    {init s : σ} (h : Reachable next init s) : Reachable next' (f init) (f s) := by
  induction h with
  | refl => exact .refl
  | step a _ hStep ih =>
    rcases hSim _ a _ hStep with hSame | ⟨b, hStep'⟩
    · rw [hSame]
      exact ih
    · exact .step b ih hStep'

/-- The system with only the steps that `allowed` admits. -/
def restrict (next : σ → α → Option σ) (allowed : σ → α → Bool) (s : σ) (a : α) : Option σ :=
  if allowed s a then next s a else none

/-- A step of a restricted system is an admitted step of the full one. -/
theorem restrict_eq_some {allowed : σ → α → Bool} {s s' : σ} {a : α}
    (h : restrict next allowed s a = some s') : allowed s a = true ∧ next s a = some s' := by
  unfold restrict at h
  split at h
  · rename_i hAllowed
    exact ⟨hAllowed, h⟩
  · cases h

end Runs

-- ============================================================================
-- Processes
-- ============================================================================

section Procs

variable {ρ : Type}

/-- `Q` holds of every process that has started. -/
def ForallProcs (procs : ℕ → Option ρ) (Q : ℕ → ρ → Prop) : Prop :=
  ∀ i r, procs i = some r → Q i r

/-- A step of process `i` that sets its local state to `r?` (`none` when the
    process ends) keeps a per-process invariant when `i`'s new local state
    satisfies it and no other process's part is disturbed. -/
theorem ForallProcs.set {procs : ℕ → Option ρ} {Q Q' : ℕ → ρ → Prop}
    (h : ForallProcs procs Q) {i : ℕ} {r? : Option ρ} (hSelf : ∀ r, r? = some r → Q' i r)
    (hOthers : ∀ j r', j ≠ i → procs j = some r' → Q j r' → Q' j r') :
    ForallProcs (Function.update procs i r?) Q' := by
  intro j r' hj
  by_cases hji : j = i
  · subst hji
    rw [Function.update_self] at hj
    exact hSelf r' hj
  · rw [Function.update_of_ne hji] at hj
    exact hOthers j r' hji hj (h j r' hj)

/-- A step of process `i` keeps a per-process invariant when `i`'s new local
    state satisfies it and no other process's part is disturbed. -/
theorem ForallProcs.update {procs : ℕ → Option ρ} {Q Q' : ℕ → ρ → Prop}
    (h : ForallProcs procs Q) {i : ℕ} {r : ρ} (hSelf : Q' i r)
    (hOthers : ∀ j r', j ≠ i → procs j = some r' → Q j r' → Q' j r') :
    ForallProcs (Function.update procs i (some r)) Q' :=
  h.set (fun _ hr => Option.some.inj hr ▸ hSelf) hOthers

/-- A step that leaves every process's part true keeps the invariant. -/
theorem ForallProcs.mono {procs : ℕ → Option ρ} {Q Q' : ℕ → ρ → Prop} (h : ForallProcs procs Q)
    (hImp : ∀ j r, procs j = some r → Q j r → Q' j r) : ForallProcs procs Q' :=
  fun j r hj => hImp j r hj (h j r hj)

end Procs

end Transition
