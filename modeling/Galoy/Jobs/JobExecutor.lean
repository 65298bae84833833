/-
  Galoy.Jobs.JobExecutor

  The job executor of `lib/job-executor-rs` (`JobExecutor::execute` and
  `checkpoint_attempt`) running a chain of jobs (`Galoy.Lib.JobChain`).

  An attempt on a job is a sequence of statements, and the worker may stop
  after any of them.  `checkpoint_attempt` commits the job's meta with one
  attempt more and the retry delay doubled, up to a cap; on the last attempt it
  then completes the job, before the closure runs, so that a failing job is
  not retried for ever.  The closure's transaction commits the page and the
  job it spawns, with the job's completion while the row is still there.  An
  attempt that fails at any statement commits nothing more: the queue delivers
  the job again later, or, once its row is completed, the job is gone.

  Every step leaves the chain of jobs as it is or makes one step of
  `JobChain.next` (`next_chain`), so the executor refines the chain
  (`reachable_chain`) and what the chain guarantees holds of the jobs the
  executor runs; giving a job up is the only chain step that loses a page.
  Over every run a job's closure is called at most `max_attempts` times, and
  its meta holds the delay doubled at each attempt from `initial_retry_delay`
  up to `max_retry_delay` (`Job.Sound`).

  The queue (sqlxmq) may deliver a job again at any time while no worker holds
  it and its row is not completed, so the results hold for every schedule of
  retries.  One worker holds a job at a time: the executor keeps its lease
  alive while the closure runs.  That keep-alive loop stops at its first
  failed query; a lease that then lapses lets a second worker run the closure
  as well, and both commit.  The model leaves that out.  Durations are whole
  seconds, as `JobMeta` stores them, and the closures modelled all return
  `JobResult::CompleteWithTx`.
-/

import Galoy.Lib.JobChain
import Mathlib.Data.List.InsertIdx
import Mathlib.Algebra.Group.Nat.Defs

namespace Galoy

open Transition

-- ============================================================================
-- Checkpointing an attempt
-- ============================================================================

/-- `JobMeta`: the attempts made on a job and the delay before the next one,
    in seconds (`DurationSeconds<u64>`). -/
structure JobMeta where
  attempts : ℕ
  waitTillNextAttempt : ℕ
  deriving DecidableEq, Repr

/-- `JobMeta::default`, the meta of a payload that has none: a spawned job's. -/
def JobMeta.default : JobMeta := ⟨0, 1⟩

/-- The retry settings of a `JobExecutor`, with the builder's defaults. -/
structure JobExecutor where
  maxAttempts : ℕ := 5
  initialRetryDelay : ℕ := 4
  maxRetryDelay : ℕ := 60
  deriving DecidableEq, Repr

/-- What `checkpoint_attempt` commits: the new meta, the keep-alive that
    leases the job for this attempt, whether one more retry is granted, and
    whether this attempt is the last. -/
structure Checkpoint where
  jobMeta : JobMeta
  keepAlive : ℕ
  extraRetry : Bool
  lastAttempt : Bool
  deriving DecidableEq, Repr

namespace JobExecutor

variable (ex : JobExecutor)

/-- `checkpoint_attempt` without its tracing; `retry_backoff` is set to the
    new meta's delay. -/
def checkpointAttempt (jobMeta : JobMeta) : Checkpoint :=
  let wait := if jobMeta.attempts = 0 then ex.initialRetryDelay else jobMeta.waitTillNextAttempt
  let attempts := jobMeta.attempts + 1
  { jobMeta := ⟨attempts, min ex.maxRetryDelay (wait * 2)⟩
    keepAlive := wait
    extraRetry := decide (attempts < ex.maxAttempts)
    lastAttempt := decide (ex.maxAttempts ≤ attempts) }

@[simp] theorem attempts_checkpointAttempt (jobMeta : JobMeta) :
    (ex.checkpointAttempt jobMeta).jobMeta.attempts = jobMeta.attempts + 1 := rfl

/-- The delay a meta holds after its attempts: doubled at each one from the
    initial delay, and capped. -/
def Scheduled (jobMeta : JobMeta) : Prop :=
  jobMeta.waitTillNextAttempt =
    if jobMeta.attempts = 0 then 1
    else min ex.maxRetryDelay (ex.initialRetryDelay * 2 ^ jobMeta.attempts)

theorem scheduled_default : ex.Scheduled JobMeta.default := rfl

/-- The loop invariant of the attempts: each checkpoint doubles the delay
    within the cap. -/
theorem Scheduled.checkpointAttempt {jobMeta : JobMeta} (h : ex.Scheduled jobMeta) :
    ex.Scheduled (ex.checkpointAttempt jobMeta).jobMeta := by
  unfold Scheduled at h ⊢
  rw [attempts_checkpointAttempt, if_neg (Nat.succ_ne_zero _), pow_succ, ← mul_assoc]
  simp only [JobExecutor.checkpointAttempt]
  by_cases hFirst : jobMeta.attempts = 0
  · -- the first attempt starts from `initial_retry_delay`
    rw [if_pos hFirst, hFirst, pow_zero, mul_one]
  · -- later ones double the delay the meta holds, which is already capped
    rw [if_neg hFirst, h, if_neg hFirst]
    omega

-- ============================================================================
-- A job under the executor
-- ============================================================================

/-- Where the attempt on a job is. -/
inductive Phase where
  /-- no worker holds the job -/
  | idle
  /-- `checkpoint_attempt` committed, telling whether the attempt is the last -/
  | checkpointed (lastAttempt : Bool)
  /-- the closure was called and has not returned -/
  | running
  deriving DecidableEq, Repr

/-- A row of `mq_msgs` and the attempt on it.  `completed`: the last attempt
    completed the row before calling the closure.  `calls` counts the calls of
    the closure, a ghost of the model. -/
structure Job (C : Type) where
  data : C
  jobMeta : JobMeta
  completed : Bool
  phase : Phase
  calls : ℕ

/-- A job spawned with `set_json(&data)`, whose payload has no meta. -/
def Job.spawn {C : Type} (data : C) : Job C := ⟨data, JobMeta.default, false, .idle, 0⟩

/-- The steps of an attempt that leave the job in the queue. -/
inductive AttemptStep where
  /-- the queue delivers the job and `checkpoint_attempt` commits -/
  | checkpointAttempt
  /-- `self.job.complete()` on the last attempt -/
  | complete
  /-- `func(data.data)`, once `checkpoint_attempt` returned -/
  | callClosure
  /-- the attempt fails before the job is completed: it is retried later -/
  | retry
  deriving DecidableEq, Repr

variable {C α : Type}

/-- One step of an attempt on a job. -/
def attempt (j : Job C) : AttemptStep → Option (Job C)
  | .checkpointAttempt =>
    if j.phase = .idle ∧ j.completed = false then
      some { j with
        jobMeta := (ex.checkpointAttempt j.jobMeta).jobMeta
        phase := .checkpointed (ex.checkpointAttempt j.jobMeta).lastAttempt }
    else none
  | .complete =>
    if j.phase = .checkpointed true ∧ j.completed = false then some { j with completed := true }
    else none
  | .callClosure =>
    -- `checkpoint_attempt` returns `Ok(false)` before the last attempt, and
    -- `Ok(true)` on the last once the job is completed
    if j.phase = .checkpointed j.completed then
      some { j with phase := .running, calls := j.calls + 1 }
    else none
  | .retry =>
    if j.phase ≠ .idle ∧ j.completed = false then some { j with phase := .idle } else none

/-- The jobs in the queue, spawned ones last, and what their closures
    committed. -/
structure Queue (C α : Type) where
  jobs : List (Job C)
  committed : List α

inductive Action where
  | attempt (i : ℕ) (step : AttemptStep)
  /-- the closure of job `i` returned `CompleteWithTx(tx)`, and `tx` commits:
      with `complete_with_transaction`, or alone on the last attempt -/
  | commit (i : ℕ)
  /-- an attempt on job `i` fails after its row was completed -/
  | giveUp (i : ℕ)
  deriving DecidableEq, Repr

/-- One job, spawned at `data`. -/
def start (data : C) : Queue C α := ⟨[Job.spawn data], []⟩

variable (p : JobChain.Pager C α)

def next (s : Queue C α) : Action → Option (Queue C α)
  | .attempt i step => s.jobs[i]?.bind fun j =>
      (ex.attempt j step).map fun j' => ⟨s.jobs.set i j', s.committed⟩
  | .commit i => s.jobs[i]?.bind fun j =>
      if j.phase = .running then
        some ⟨s.jobs.eraseIdx i ++ ((p.page j.data).2.map Job.spawn).toList,
          s.committed ++ (p.page j.data).1⟩
      else none
  | .giveUp i => s.jobs[i]?.bind fun j =>
      if j.completed = true then some ⟨s.jobs.eraseIdx i, s.committed⟩ else none

/-- Runs in which no job is given up. -/
def noGiveUp (_ : Queue C α) : Action → Bool
  | .giveUp _ => false
  | _ => true

variable {ex p}

/-- Everything one attempt step can do. -/
theorem attempt_eq_some {j j' : Job C} {step : AttemptStep} (h : ex.attempt j step = some j') :
    (j.phase = .idle ∧ j.completed = false ∧ j' = { j with
        jobMeta := (ex.checkpointAttempt j.jobMeta).jobMeta
        phase := .checkpointed (ex.checkpointAttempt j.jobMeta).lastAttempt }) ∨
    (j.phase = .checkpointed true ∧ j.completed = false ∧ j' = { j with completed := true }) ∨
    (j.phase = .checkpointed j.completed ∧
      j' = { j with phase := .running, calls := j.calls + 1 }) ∨
    (j.phase ≠ .idle ∧ j.completed = false ∧ j' = { j with phase := .idle }) := by
  cases step <;> simp only [attempt] at h <;> split at h <;> rename_i hGuard <;> cases h
  · exact .inl ⟨hGuard.1, hGuard.2, rfl⟩
  · exact .inr (.inl ⟨hGuard.1, hGuard.2, rfl⟩)
  · exact .inr (.inr (.inl ⟨hGuard, rfl⟩))
  · exact .inr (.inr (.inr ⟨hGuard.1, hGuard.2, rfl⟩))

theorem data_attempt {j j' : Job C} {step : AttemptStep} (h : ex.attempt j step = some j') :
    j'.data = j.data := by
  rcases attempt_eq_some h with ⟨-, -, rfl⟩ | ⟨-, -, rfl⟩ | ⟨-, rfl⟩ | ⟨-, -, rfl⟩ <;> rfl

-- ============================================================================
-- The executor refines the chain
-- ============================================================================

/-- The chain of jobs a queue runs: the jobs' data, and what was committed. -/
def Queue.chain (s : Queue C α) : JobChain.State C α := ⟨s.jobs.map Job.data, s.committed⟩

/-- Writing back an element with the same image leaves the image of a list. -/
theorem map_set_of_getElem? {β γ : Type} {l : List β} {i : ℕ} {x y : β} {f : β → γ}
    (hx : l[i]? = some x) (hf : f y = f x) : (l.set i y).map f = l.map f := by
  apply List.ext_getElem?
  intro n
  rw [List.getElem?_map, List.getElem?_map, List.getElem?_set]
  by_cases hn : i = n
  · subst hn
    obtain ⟨hi, -⟩ := List.getElem?_eq_some_iff.mp hx
    rw [if_pos rfl, if_pos hi, hx, Option.map_some, Option.map_some, hf]
  · rw [if_neg hn]

/-- An attempt step leaves the chain as it is, a commit runs the job in the
    chain, and giving a job up gives it up there. -/
theorem next_chain {s s' : Queue C α} {a : Action} (h : next ex p s a = some s') :
    s'.chain = s.chain ∨
    (∃ i, a = .commit i ∧ JobChain.next p s.chain (.run i) = some s'.chain) ∨
    (∃ i, a = .giveUp i ∧ JobChain.next p s.chain (.giveUp i) = some s'.chain) := by
  cases a with
  | attempt i step =>
    obtain ⟨j, hj, h⟩ := Option.bind_eq_some_iff.mp h
    obtain ⟨j', hj', rfl⟩ := Option.map_eq_some_iff.mp h
    refine .inl ?_
    simp only [Queue.chain, map_set_of_getElem? hj (data_attempt hj')]
  | commit i =>
    obtain ⟨j, hj, h⟩ := Option.bind_eq_some_iff.mp h
    split at h
    · cases h
      -- the job spawned at the page's cursor is the chain's next job
      have hSpawned : ((p.page j.data).2.map Job.spawn).toList.map Job.data =
          (p.page j.data).2.toList := by
        cases (p.page j.data).2 <;> rfl
      refine .inr (.inl ⟨i, rfl, ?_⟩)
      simp only [JobChain.next, Queue.chain, List.getElem?_map, hj, Option.map_some,
        List.map_append, List.eraseIdx_map, hSpawned]
    · cases h
  | giveUp i =>
    obtain ⟨j, hj, h⟩ := Option.bind_eq_some_iff.mp h
    split at h
    · cases h
      refine .inr (.inr ⟨i, rfl, ?_⟩)
      simp only [JobChain.next, Queue.chain, List.getElem?_map, hj, Option.map_some,
        List.eraseIdx_map]
    · cases h

/-- Every run of the executor is, on its chain of jobs, a run of the chain. -/
theorem reachable_chain {data : C} {s : Queue C α} (h : Reachable (next ex p) (start data) s) :
    Reachable (JobChain.next p) (JobChain.start data) s.chain := by
  refine Reachable.map Queue.chain (fun s a s' hStep => ?_) h
  rcases next_chain hStep with hSame | ⟨i, -, hRun⟩ | ⟨i, -, hGiveUp⟩
  · exact .inl hSame
  · exact .inr ⟨_, hRun⟩
  · exact .inr ⟨_, hGiveUp⟩

/-- A run of the executor that gives no job up is one of the chain that gives
    none up: the retries of failed attempts lose nothing. -/
theorem reachable_chain_noGiveUp {data : C} {s : Queue C α}
    (h : Reachable (restrict (next ex p) noGiveUp) (start data) s) :
    Reachable (restrict (JobChain.next p) JobChain.noGiveUp) (JobChain.start data) s.chain := by
  refine Reachable.map Queue.chain (fun s a s' hStep => ?_) h
  obtain ⟨hAllowed, hStep⟩ := restrict_eq_some hStep
  rcases next_chain hStep with hSame | ⟨i, -, hRun⟩ | ⟨i, rfl, -⟩
  · exact .inl hSame
  · refine .inr ⟨.run i, ?_⟩
    simp only [restrict, JobChain.noGiveUp, if_true]
    exact hRun
  · simp [noGiveUp] at hAllowed

-- ============================================================================
-- The retry policy
-- ============================================================================

/-- `1` while an attempt is checkpointed and its closure not yet called. -/
def Phase.held : Phase → ℕ
  | .idle => 0
  | .checkpointed _ => 1
  | .running => 0

variable (ex) in
/-- What holds of a job on every run: its meta is scheduled, its phase keeps
    the checkpoint's last-attempt flag, and the closure's calls fit in the
    attempts made and in `max_attempts`.  A call made on a completed row, at
    most one, is the last one. -/
structure Job.Sound (j : Job C) : Prop where
  scheduled : ex.Scheduled j.jobMeta
  lastAttempt : ∀ b, j.phase = .checkpointed b → b = decide (ex.maxAttempts ≤ j.jobMeta.attempts)
  calls_le_attempts : j.calls + j.phase.held ≤ j.jobMeta.attempts
  calls_lt_maxAttempts :
    j.calls + (if j.phase = .running ∧ j.completed = true then 0 else 1) ≤ max ex.maxAttempts 1

theorem sound_spawn (data : C) : (Job.spawn data).Sound ex :=
  ⟨ex.scheduled_default, fun _ h => (by cases h), le_refl 0,
    by
      simp only [Job.spawn, Bool.false_eq_true, and_false, if_false, Nat.zero_add]
      exact le_max_right _ _⟩

/-- Every attempt step keeps a job sound. -/
theorem Job.Sound.attempt {j j' : Job C} {step : AttemptStep} (h : j.Sound ex)
    (hStep : ex.attempt j step = some j') : j'.Sound ex := by
  obtain ⟨hScheduled, hLast, hLe, hLt⟩ := h
  rcases attempt_eq_some hStep with ⟨hIdle, -, rfl⟩ | ⟨hChecked, -, rfl⟩ |
    ⟨hChecked, rfl⟩ | ⟨-, hFresh, rfl⟩
  · -- `checkpoint_attempt`: one attempt more, none of it used yet
    rw [hIdle, Phase.held] at hLe
    refine ⟨hScheduled.checkpointAttempt, fun b hb => ?_, ?_, ?_⟩
    · cases hb
      rfl
    · show j.calls + 1 ≤ j.jobMeta.attempts + 1
      omega
    · simpa [hIdle] using hLt
  · -- completing the row on the last attempt
    exact ⟨hScheduled, hLast, hLe, by simpa [hChecked] using hLt⟩
  · -- calling the closure uses the attempt checkpointed
    rw [hChecked, Phase.held] at hLe
    refine ⟨hScheduled, fun b hb => (by cases hb), ?_, ?_⟩
    · show j.calls + 1 + 0 ≤ j.jobMeta.attempts
      omega
    · cases hDone : j.completed
      · -- before the last attempt, so another attempt is left
        have hBefore := hLast false (by rw [hChecked, hDone])
        rw [eq_comm, decide_eq_false_iff_not, not_le] at hBefore
        simp only [Bool.false_eq_true, and_false, if_false]
        omega
      · -- on a completed row: the last call
        simpa [hChecked, hDone] using hLt
  · -- a failed attempt hands the job back to the queue
    refine ⟨hScheduled, fun b hb => (by cases hb), ?_, by simpa [hFresh] using hLt⟩
    show j.calls + 0 ≤ j.jobMeta.attempts
    omega

variable (ex) in
/-- Every job in the queue is sound. -/
def AllSound (s : Queue C α) : Prop := ∀ j ∈ s.jobs, j.Sound ex

theorem allSound_start (data : C) : AllSound ex (start data : Queue C α) := by
  intro j hj
  obtain rfl : j = Job.spawn data := List.mem_singleton.mp hj
  exact sound_spawn data

theorem AllSound.next {s s' : Queue C α} {a : Action} (h : AllSound ex s)
    (hStep : next ex p s a = some s') : AllSound ex s' := by
  cases a with
  | attempt i step =>
    obtain ⟨j, hj, hStep⟩ := Option.bind_eq_some_iff.mp hStep
    obtain ⟨j', hj', rfl⟩ := Option.map_eq_some_iff.mp hStep
    intro k hk
    rcases List.mem_or_eq_of_mem_set hk with hk | rfl
    · exact h k hk
    · exact (h j (List.mem_of_getElem? hj)).attempt hj'
  | commit i =>
    obtain ⟨j, -, hStep⟩ := Option.bind_eq_some_iff.mp hStep
    split at hStep
    · cases hStep
      intro k hk
      rcases List.mem_append.mp hk with hk | hk
      · exact h k (List.mem_of_mem_eraseIdx hk)
      · -- the spawned job starts sound
        cases hNext : (p.page j.data).2 with
        | none => simp [hNext] at hk
        | some c =>
          rw [hNext, Option.map_some, Option.toList_some, List.mem_singleton] at hk
          rw [hk]
          exact sound_spawn c
    · cases hStep
  | giveUp i =>
    obtain ⟨j, -, hStep⟩ := Option.bind_eq_some_iff.mp hStep
    split at hStep
    · cases hStep
      exact fun k hk => h k (List.mem_of_mem_eraseIdx hk)
    · cases hStep

/-- Over every run, whichever attempts fail and wherever workers stop, each
    job's closure has been called at most `max_attempts` times (once, if that
    is `0`), and after its first attempt the job waits `initial_retry_delay`
    doubled at each attempt, capped at `max_retry_delay`. -/
theorem calls_le_maxAttempts_and_wait_doubled {data : C} {s : Queue C α}
    (h : Reachable (next ex p) (start data) s) :
    ∀ j ∈ s.jobs, j.calls ≤ max ex.maxAttempts 1 ∧
      (j.jobMeta.attempts = 0 ∨ j.jobMeta.waitTillNextAttempt =
        min ex.maxRetryDelay (ex.initialRetryDelay * 2 ^ j.jobMeta.attempts)) := by
  have hInv : Invariant (next ex p) (start data) (AllSound ex) :=
    ⟨allSound_start data, fun _ _ _ hs hStep => hs.next hStep⟩
  intro j hj
  obtain ⟨hScheduled, -, -, hLt⟩ := hInv.holds h j hj
  refine ⟨by omega, ?_⟩
  by_cases hFirst : j.jobMeta.attempts = 0
  · exact .inl hFirst
  · unfold Scheduled at hScheduled
    rw [if_neg hFirst] at hScheduled
    exact .inr hScheduled

/-- With the builder's defaults, a job whose first attempt stops after its
    checkpoint and whose second fails in its closure has called the closure
    once and waits 16 seconds. -/
theorem twoFailedAttempts_wait_doubled :
    ∃ s, run (next {} (⟨fun c => ([c], none), fun c => [c], fun _ => rfl⟩ : JobChain.Pager ℕ ℕ))
        (start 0) [.attempt 0 .checkpointAttempt, .attempt 0 .retry,
          .attempt 0 .checkpointAttempt, .attempt 0 .callClosure, .attempt 0 .retry] = some s ∧
      s.jobs.map (fun j => (j.calls, j.jobMeta)) = [(1, ⟨2, 16⟩)] ∧
      ∀ j ∈ s.jobs, j.calls ≤ max ({} : JobExecutor).maxAttempts 1 ∧
        (j.jobMeta.attempts = 0 ∨ j.jobMeta.waitTillNextAttempt =
          min ({} : JobExecutor).maxRetryDelay
            (({} : JobExecutor).initialRetryDelay * 2 ^ j.jobMeta.attempts)) := by
  obtain ⟨s, hRun, hJobs⟩ : ∃ s, run (next {}
      (⟨fun c => ([c], none), fun c => [c], fun _ => rfl⟩ : JobChain.Pager ℕ ℕ))
        (start 0) [.attempt 0 .checkpointAttempt, .attempt 0 .retry,
          .attempt 0 .checkpointAttempt, .attempt 0 .callClosure, .attempt 0 .retry] = some s ∧
      s.jobs.map (fun j => (j.calls, j.jobMeta)) = [(1, ⟨2, 16⟩)] := ⟨_, rfl, rfl⟩
  exact ⟨s, hRun, hJobs, calls_le_maxAttempts_and_wait_doubled (reachable_of_run hRun)⟩

end JobExecutor

end Galoy
