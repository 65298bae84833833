/-
  Galoy.Lib.JobChain

  A chain of jobs that works through a sequence one page at a time.  Each job
  holds a cursor.  Running it commits, at once, the page its cursor reads and
  the job for the rest, if any; a job may also be given up and commit nothing.
  `rest c` is the part of the sequence from the cursor `c` on, and a pager
  agrees with it: a page and then the rest at the next cursor make the rest at
  its own (`Pager.rest_eq`).

  Whatever order the jobs run in and whichever are given up, the chain has
  committed a prefix of the sequence, and when a job is live the rest at its
  cursor is what is missing (`OnTrack`).  A run that gives no job up has
  committed the whole sequence once no job is live (`Complete`).
-/

import Galoy.Lib.Transition
import Mathlib.Data.List.Infix

namespace JobChain

open Transition

variable {C α : Type}

/-- What a job with a cursor commits, the cursor of the job it spawns, and the
    part of the sequence from each cursor on. -/
structure Pager (C α : Type) where
  page : C → List α × Option C
  rest : C → List α
  rest_eq : ∀ c, rest c = (page c).1 ++ ((page c).2.map rest).getD []

/-- The cursors of the jobs spawned and not finished, and what was committed. -/
structure State (C α : Type) where
  live : List C
  committed : List α

inductive Action where
  /-- the live job `i` commits its page and the job for the rest -/
  | run (i : ℕ)
  /-- the live job `i` is given up -/
  | giveUp (i : ℕ)
  deriving DecidableEq, Repr

variable (p : Pager C α)

/-- One job at the cursor `c`, nothing committed. -/
def start (c : C) : State C α := ⟨[c], []⟩

def next (s : State C α) : Action → Option (State C α)
  | .run i => s.live[i]?.map fun c =>
      ⟨s.live.eraseIdx i ++ (p.page c).2.toList, s.committed ++ (p.page c).1⟩
  | .giveUp i => s.live[i]?.map fun _ => ⟨s.live.eraseIdx i, s.committed⟩

/-- Runs in which no job is given up. -/
def noGiveUp (_ : State C α) : Action → Bool
  | .run _ => true
  | .giveUp _ => false

-- ============================================================================
-- What a run commits
-- ============================================================================

/-- No job is live and a prefix of `whole` is committed, or one job is live
    and the rest at its cursor completes what is committed to `whole`. -/
def OnTrack (whole : List α) (s : State C α) : Prop :=
  (s.live = [] ∧ s.committed <+: whole) ∨ ∃ c, s.live = [c] ∧ s.committed ++ p.rest c = whole

/-- As `OnTrack`, with all of `whole` committed once no job is live. -/
def Complete (whole : List α) (s : State C α) : Prop :=
  (s.live = [] ∧ s.committed = whole) ∨ ∃ c, s.live = [c] ∧ s.committed ++ p.rest c = whole

variable {p}

/-- The one live job commits its page and hands the rest to the job it spawns,
    if any. -/
theorem run_single {committed : List α} {c : C} {i : ℕ} {s' : State C α}
    (h : next p ⟨[c], committed⟩ (.run i) = some s') :
    s' = ⟨(p.page c).2.toList, committed ++ (p.page c).1⟩ := by
  simp only [next] at h
  obtain ⟨c', hc', rfl⟩ := Option.map_eq_some_iff.mp h
  obtain ⟨rfl, rfl⟩ : i = 0 ∧ c' = c := by
    cases i with
    | zero => exact ⟨rfl, (Option.some.inj hc').symm⟩
    | succ i => simp at hc'
  rfl

/-- Giving up the one live job leaves none, and commits nothing. -/
theorem giveUp_single {committed : List α} {c : C} {i : ℕ} {s' : State C α}
    (h : next p ⟨[c], committed⟩ (.giveUp i) = some s') : s' = ⟨[], committed⟩ := by
  simp only [next] at h
  obtain ⟨_, hc', rfl⟩ := Option.map_eq_some_iff.mp h
  cases i with
  | zero => rfl
  | succ i => simp at hc'

/-- Committing the page at `c` keeps the sequence whole: the spawned job's rest
    is what is still missing. -/
theorem committed_run (c : C) (committed : List α) :
    committed ++ (p.page c).1 ++ (((p.page c).2.map p.rest).getD []) =
      committed ++ p.rest c := by
  rw [List.append_assoc, ← p.rest_eq]

theorem onTrack_start (c : C) : OnTrack p (p.rest c) (start c) :=
  .inr ⟨c, rfl, rfl⟩

theorem Complete.onTrack {whole : List α} {s : State C α} (h : Complete p whole s) :
    OnTrack p whole s := by
  rcases h with ⟨hLive, hWhole⟩ | hJob
  · exact .inl ⟨hLive, hWhole ▸ List.prefix_refl _⟩
  · exact .inr hJob

/-- Running the one live job leaves the chain complete: its page is committed
    and the job it spawns, if any, holds the rest. -/
theorem complete_run {whole committed : List α} {c : C} (hWhole : committed ++ p.rest c = whole) :
    Complete p whole ⟨(p.page c).2.toList, committed ++ (p.page c).1⟩ := by
  have hRun := (committed_run c committed).trans hWhole
  cases hNext : (p.page c).2 with
  | none =>
    rw [hNext, Option.map_none, Option.getD_none, List.append_nil] at hRun
    exact .inl ⟨rfl, hRun⟩
  | some c' =>
    rw [hNext, Option.map_some, Option.getD_some] at hRun
    exact .inr ⟨c', rfl, hRun⟩

/-- Every step keeps the chain on track. -/
theorem OnTrack.next {whole : List α} {s s' : State C α} {a : Action} (h : OnTrack p whole s)
    (hStep : JobChain.next p s a = some s') : OnTrack p whole s' := by
  rcases h with ⟨hLive, -⟩ | ⟨c, hLive, hWhole⟩
  -- no job is live, so nothing can step
  · cases a <;> simp [JobChain.next, hLive] at hStep
  · obtain ⟨live, committed⟩ := s
    subst hLive
    cases a with
    | run i =>
      rw [run_single hStep]
      exact (complete_run hWhole).onTrack
    | giveUp i =>
      rw [giveUp_single hStep]
      exact .inl ⟨rfl, ⟨p.rest c, hWhole⟩⟩

theorem complete_start (c : C) : Complete p (p.rest c) (start c) :=
  .inr ⟨c, rfl, rfl⟩

/-- Every step but giving up keeps the chain complete. -/
theorem Complete.next {whole : List α} {s s' : State C α} {a : Action} (h : Complete p whole s)
    (hStep : restrict (JobChain.next p) noGiveUp s a = some s') : Complete p whole s' := by
  obtain ⟨hAllowed, hStep⟩ := restrict_eq_some hStep
  rcases h with ⟨hLive, -⟩ | ⟨c, hLive, hWhole⟩
  · cases a <;> simp [JobChain.next, hLive] at hStep
  · obtain ⟨live, committed⟩ := s
    subst hLive
    cases a with
    | run i =>
      rw [run_single hStep]
      exact complete_run hWhole
    | giveUp i => simp [noGiveUp] at hAllowed

/-- Over every run from one job at `c`, what is committed is a prefix of the
    rest at `c`. -/
theorem committed_prefix {c : C} {s : State C α} (h : Reachable (JobChain.next p) (start c) s) :
    s.committed <+: p.rest c := by
  have hs := Invariant.holds ⟨onTrack_start c, fun _ _ _ hs hStep => hs.next hStep⟩ h
  rcases hs with ⟨-, hPrefix⟩ | ⟨c', -, hWhole⟩
  · exact hPrefix
  · exact ⟨p.rest c', hWhole⟩

/-- A run from one job at `c` that gives no job up has committed all of the
    rest at `c` once no job is live. -/
theorem committed_eq_of_done {c : C} {s : State C α}
    (h : Reachable (restrict (JobChain.next p) noGiveUp) (start c) s) (hDone : s.live = []) :
    s.committed = p.rest c := by
  have hs := Invariant.holds ⟨complete_start c, fun _ _ _ hs hStep => hs.next hStep⟩ h
  rcases hs with ⟨-, hWhole⟩ | ⟨c', hLive, -⟩
  · exact hWhole
  · rw [hDone] at hLive
    cases hLive

end JobChain
