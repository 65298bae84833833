/-
  Galoy.Notifications.EventDispatch

  The jobs that deliver one notification event to many users
  (`core/notifications/src/job/mod.rs`, `user_notification_settings/repo.rs`,
  `history/mod.rs`).

  `all_user_event_dispatch` reads one page of user ids above its `search_id`
  with `list_ids_after`: 1000 ids, and one more to see whether more follow.  In
  one transaction it spawns the job for the next page, which starts above the
  page's last id, adds the event to the history of the page's users and spawns
  their email and push jobs; those writes are not modelled, only the ids each
  page reaches.  `multi_user_event_dispatch` does the same over an explicit
  list of ids, split 1000 at a time.

  The job executor (`lib/job-executor-rs`) commits that transaction with the
  job's completion, or nothing when the closure fails and the job is retried.
  On the last attempt it completes the job first, so a last attempt that fails
  gives the job up.  `Galoy.Jobs.JobExecutor` shows that it runs the jobs as a
  job chain, one worker holding a job at a time.

  The all-user job is a pager of a job chain (`Galoy.Lib.JobChain`).  The ids
  still to reach from a job are the settings' ids above its `search_id`.  So
  over every run, with jobs failing and given up, the users reached are the
  first ones of the whole table, in order and each once.  A run that
  gives up no job has reached all of them when no job is left; under the
  executor, retried attempts lose no page.  Users may also
  change the settings table while the chain runs (`AllUserDispatch`): whatever
  it holds at each job, the users reached increase in id, so no user is reached
  twice.  The order on `galoy_user_id` is the database's; any linear order will
  do.
-/

import Galoy.Lib.Keyset
import Galoy.Jobs.JobExecutor

namespace Galoy

open Transition

-- ============================================================================
-- The jobs
-- ============================================================================

/-- `PAGINATION_BATCH_SIZE` of `user_notification_settings/repo.rs`. -/
def PAGINATION_BATCH_SIZE : ℕ := 1000

section Jobs

variable {Id P : Type}

/-- `UserNotificationSettingsRepo::list_ids_after`. -/
def listIdsAfter [LinearOrder Id] (settings : Finset Id) (id : Id) : List Id × Bool :=
  let rows := Keyset.keysAfter settings id (PAGINATION_BATCH_SIZE + 1)
  (rows.take PAGINATION_BATCH_SIZE, decide (PAGINATION_BATCH_SIZE < rows.length))

structure AllUserEventDispatchData (Id P : Type) where
  searchId : Id
  payload : P

structure MultiUserEventDispatchData (Id P : Type) where
  userIds : List Id
  payload : P

/-- One page of a dispatch job: the users it reaches and the job it spawns for
    the rest. -/
structure DispatchPage (D Id : Type) where
  ids : List Id
  next : Option D

/-- The closure of `all_user_event_dispatch`; `none` where
    `ids.last().expect(..)` would panic. -/
def allUserEventDispatch [LinearOrder Id] (settings : Finset Id)
    (data : AllUserEventDispatchData Id P) : Option (DispatchPage (AllUserEventDispatchData Id P) Id) :=
  let (ids, more) := listIdsAfter settings data.searchId
  if more then ids.getLast?.map fun last => ⟨ids, some ⟨last, data.payload⟩⟩
  else some ⟨ids, none⟩

/-- The closure of `multi_user_event_dispatch`. -/
def multiUserEventDispatch (data : MultiUserEventDispatchData Id P) :
    DispatchPage (MultiUserEventDispatchData Id P) Id :=
  let batchLimit := 1000
  let (ids, nextUserIds) := data.userIds.splitAt (min data.userIds.length batchLimit)
  ⟨ids, if nextUserIds.isEmpty then none else some ⟨nextUserIds, data.payload⟩⟩

end Jobs

-- ============================================================================
-- The ids still to reach
-- ============================================================================

section Pages

variable {Id P : Type}

/-- The page `all_user_event_dispatch` reads, and the ids the job it spawns
    still has to reach, make up the ids above its own `search_id`. -/
theorem allUserEventDispatch_eq [LinearOrder Id] (settings : Finset Id)
    (data : AllUserEventDispatchData Id P) :
    ∃ page, allUserEventDispatch settings data = some page ∧
      page.ids ++ (page.next.map fun next => Keyset.above settings next.searchId).getD [] =
        Keyset.above settings data.searchId := by
  have hIds := @Keyset.take_keysAfter_succ Id _ settings data.searchId PAGINATION_BATCH_SIZE
  have hMore := @Keyset.lt_length_keysAfter_succ Id _ settings data.searchId PAGINATION_BATCH_SIZE
  simp only [allUserEventDispatch, listIdsAfter, hIds]
  by_cases hLong : PAGINATION_BATCH_SIZE < (Keyset.above settings data.searchId).length
  · -- more ids follow: the next job starts above the last one of the page
    obtain ⟨last, hLast, hAbove⟩ := Keyset.above_getLast_take (by decide) hLong.le
    rw [if_pos (decide_eq_true (hMore.mpr hLong)), hLast]
    refine ⟨_, rfl, ?_⟩
    simp only [Option.map_some, Option.getD_some, hAbove, List.take_append_drop]
  · -- the page holds every id left
    rw [if_neg (by simpa [hMore] using hLong)]
    refine ⟨_, rfl, ?_⟩
    simp only [Option.map_none, Option.getD_none, List.append_nil]
    exact List.take_of_length_le (Nat.le_of_not_lt hLong)

/-- The page `all_user_event_dispatch` reads increases and lies above its
    `search_id`, and the job it spawns starts at the page's largest id. -/
theorem allUserEventDispatch_increasing [LinearOrder Id] {settings : Finset Id}
    {data : AllUserEventDispatchData Id P} {page : DispatchPage (AllUserEventDispatchData Id P) Id}
    (hPage : allUserEventDispatch settings data = some page) :
    page.ids.Pairwise (· < ·) ∧ (∀ k ∈ page.ids, data.searchId < k) ∧
      ∀ next ∈ page.next, next.searchId ∈ page.ids ∧ ∀ k ∈ page.ids, k ≤ next.searchId := by
  have hIds := @Keyset.take_keysAfter_succ Id _ settings data.searchId PAGINATION_BATCH_SIZE
  simp only [allUserEventDispatch, listIdsAfter, hIds] at hPage
  -- both branches reach the first `PAGINATION_BATCH_SIZE` ids above the cursor
  have hPairwise :
      ((Keyset.above settings data.searchId).take PAGINATION_BATCH_SIZE).Pairwise (· < ·) :=
    Keyset.pairwise_above.sublist (List.take_sublist _ _)
  have hAbove : ∀ k ∈ (Keyset.above settings data.searchId).take PAGINATION_BATCH_SIZE,
      data.searchId < k :=
    fun k hk => (Keyset.mem_above.mp (List.mem_of_mem_take hk)).2
  split at hPage
  · obtain ⟨last, hLast, rfl⟩ := Option.map_eq_some_iff.mp hPage
    refine ⟨hPairwise, hAbove, ?_⟩
    rintro next ⟨⟩
    exact ⟨List.mem_of_getLast? hLast, fun k hk => Keyset.le_of_getLast?_eq_some hPairwise hLast hk⟩
  · cases hPage
    exact ⟨hPairwise, hAbove, fun _ hNext => by cases hNext⟩

/-- `all_user_event_dispatch` as a job chain over the ids of the settings. -/
def allUserPager [LinearOrder Id] (settings : Finset Id) :
    JobChain.Pager (AllUserEventDispatchData Id P) Id where
  page data :=
    match allUserEventDispatch settings data with
    | some page => (page.ids, page.next)
    | none => ([], none)
  rest data := Keyset.above settings data.searchId
  rest_eq data := by
    obtain ⟨page, hPage, hRest⟩ := allUserEventDispatch_eq settings data
    simp only [hPage]
    exact hRest.symm

theorem allUserPager_page [LinearOrder Id] {settings : Finset Id}
    {data : AllUserEventDispatchData Id P} {page : DispatchPage (AllUserEventDispatchData Id P) Id}
    (hPage : allUserEventDispatch settings data = some page) :
    (allUserPager settings).page data = (page.ids, page.next) := by
  simp only [allUserPager, hPage]

end Pages

-- ============================================================================
-- Every user once
-- ============================================================================

section Chains

variable {Id P : Type}

/-- From below every id, the ids an all-user dispatch still has to reach are
    all of them, in order. -/
theorem allUserPager_rest_of_lt [LinearOrder Id] {settings : Finset Id} {searchBegin : Id}
    (payload : P) (hBegin : ∀ id ∈ settings, searchBegin < id) :
    (allUserPager settings).rest ⟨searchBegin, payload⟩ = settings.sort (· ≤ ·) :=
  Keyset.above_of_lt hBegin

/-- A run of the all-user chain from below every id has committed the first
    users, each once. -/
theorem committed_sorted_prefix [LinearOrder Id] {settings : Finset Id} {searchBegin : Id}
    {payload : P} (hBegin : ∀ id ∈ settings, searchBegin < id) {s : JobChain.State _ Id}
    (h : Reachable (JobChain.next (allUserPager settings)) (JobChain.start ⟨searchBegin, payload⟩) s) :
    s.committed.Nodup ∧ s.committed <+: settings.sort (· ≤ ·) := by
  have hPrefix := JobChain.committed_prefix h
  rw [allUserPager_rest_of_lt payload hBegin] at hPrefix
  exact ⟨hPrefix.nodup (Finset.sort_nodup _ _), hPrefix⟩

/-- Over a fixed settings table, an all-user dispatch started at `search_begin`
    has reached, on every run, the first users in the order of their ids, each
    once; a run that gives up no job has reached every user once no job is
    left. -/
theorem allUserEventDispatch_reaches_each_user_once [LinearOrder Id] (settings : Finset Id)
    (payload : P) {searchBegin : Id} (hBegin : ∀ id ∈ settings, searchBegin < id) :
    (∀ s, Reachable (JobChain.next (allUserPager settings)) (JobChain.start ⟨searchBegin, payload⟩) s →
      s.committed.Nodup ∧ s.committed <+: settings.sort (· ≤ ·)) ∧
    (∀ s, Reachable (restrict (JobChain.next (allUserPager settings)) JobChain.noGiveUp)
        (JobChain.start ⟨searchBegin, payload⟩) s →
      s.live = [] → s.committed = settings.sort (· ≤ ·)) := by
  refine ⟨fun s h => committed_sorted_prefix hBegin h, fun s h hDone => ?_⟩
  rw [← allUserPager_rest_of_lt payload hBegin]
  exact JobChain.committed_eq_of_done h hDone

theorem twoUsers_reached_each_once :
    (∀ id ∈ ({3, 5} : Finset ℕ), 0 < id) ∧
    (∀ s, Reachable (restrict (JobChain.next (allUserPager ({3, 5} : Finset ℕ)))
        JobChain.noGiveUp) (JobChain.start ⟨0, ()⟩) s →
      s.live = [] → s.committed = [3, 5]) := by
  refine ⟨by decide, fun s h hDone => ?_⟩
  rw [(allUserEventDispatch_reaches_each_user_once {3, 5} () (by decide)).2 s h hDone]
  simp [Finset.sort_insert]

end Chains

-- ============================================================================
-- Under the job executor
-- ============================================================================

/-- The executor of the dispatch jobs: `initial_retry_delay` of ten seconds,
    and the builder's other defaults. -/
def eventDispatchJobExecutor : JobExecutor := { initialRetryDelay := 10 }

section Executed

variable {Id P : Type} [LinearOrder Id]

/-- Run by the job executor, with workers stopping at any statement and
    attempts failing and retried in any order, an all-user dispatch over a
    fixed settings table has reached the first users in the order of their
    ids, each once; a run in which no job is given up has reached every user
    once no job is left. -/
theorem allUserEventDispatch_executed_each_user_once (ex : JobExecutor) (settings : Finset Id)
    (payload : P) {searchBegin : Id} (hBegin : ∀ id ∈ settings, searchBegin < id) :
    (∀ s, Reachable (JobExecutor.next ex (allUserPager settings))
        (JobExecutor.start ⟨searchBegin, payload⟩) s →
      s.committed.Nodup ∧ s.committed <+: settings.sort (· ≤ ·)) ∧
    (∀ s, Reachable (restrict (JobExecutor.next ex (allUserPager settings)) JobExecutor.noGiveUp)
        (JobExecutor.start ⟨searchBegin, payload⟩) s →
      s.jobs = [] → s.committed = settings.sort (· ≤ ·)) := by
  refine ⟨fun s h => committed_sorted_prefix hBegin (JobExecutor.reachable_chain h),
    fun s h hDone => ?_⟩
  -- no job is left in the queue, so none is live in its chain
  have hLive : s.chain.live = [] := by
    rw [JobExecutor.Queue.chain, hDone, List.map_nil]
  rw [← allUserPager_rest_of_lt payload hBegin]
  exact JobChain.committed_eq_of_done (JobExecutor.reachable_chain_noGiveUp h) hLive

/-- The first attempt's closure fails after it was called, and the retry
    reaches both users. -/
theorem retriedDispatch_reaches_each_once :
    (∀ id ∈ ({3, 5} : Finset ℕ), 0 < id) ∧
    ∃ s, run (restrict (JobExecutor.next eventDispatchJobExecutor (allUserPager ({3, 5} : Finset ℕ)))
        JobExecutor.noGiveUp) (JobExecutor.start ⟨0, ()⟩)
        [.attempt 0 .checkpointAttempt, .attempt 0 .callClosure, .attempt 0 .retry,
          .attempt 0 .checkpointAttempt, .attempt 0 .callClosure, .commit 0] = some s ∧
      s.jobs = [] ∧ s.committed = [3, 5] := by
  have hAbove : Keyset.above ({3, 5} : Finset ℕ) 0 = [3, 5] := by
    simp [Keyset.above, Finset.filter_insert, Finset.filter_singleton, Finset.sort_insert]
  obtain ⟨s, hRun, hDone⟩ : ∃ s, run (restrict (JobExecutor.next eventDispatchJobExecutor
        (allUserPager ({3, 5} : Finset ℕ))) JobExecutor.noGiveUp) (JobExecutor.start ⟨0, ()⟩)
        [.attempt 0 .checkpointAttempt, .attempt 0 .callClosure, .attempt 0 .retry,
          .attempt 0 .checkpointAttempt, .attempt 0 .callClosure, .commit 0] = some s ∧
      s.jobs = [] := by
    refine ⟨_, rfl, ?_⟩
    simp [JobExecutor.start, JobExecutor.Job.spawn, allUserPager, allUserEventDispatch,
      listIdsAfter, Keyset.keysAfter, hAbove, PAGINATION_BATCH_SIZE]
  refine ⟨by decide, s, hRun, hDone, ?_⟩
  rw [(allUserEventDispatch_executed_each_user_once eventDispatchJobExecutor {3, 5} ()
    (by decide)).2 s (reachable_of_run hRun) hDone]
  simp [Finset.sort_insert]

end Executed

-- ============================================================================
-- Never twice, while the settings change
-- ============================================================================

/-- The all-user chain with the settings table it reads, which users write to
    while the chain runs. -/
structure AllUserDispatch (Id P : Type) where
  settings : Finset Id
  chain : JobChain.State (AllUserEventDispatchData Id P) Id

inductive AllUserDispatchAction (Id : Type) where
  /-- a step of the chain, reading the table as it is now -/
  | job (a : JobChain.Action)
  /-- rows of `user_notification_settings` written or removed between two jobs -/
  | settingsChanged (settings : Finset Id)

namespace AllUserDispatch

variable {Id P : Type} [LinearOrder Id]

def next (s : AllUserDispatch Id P) : AllUserDispatchAction Id → Option (AllUserDispatch Id P)
  | .job a => (JobChain.next (allUserPager s.settings) s.chain a).map fun chain => ⟨s.settings, chain⟩
  | .settingsChanged settings => some ⟨settings, s.chain⟩

/-- What is committed increases and lies at or below the cursor of the live
    job, of which there is at most one. -/
def Increasing (chain : JobChain.State (AllUserEventDispatchData Id P) Id) : Prop :=
  chain.committed.Pairwise (· < ·) ∧
    (chain.live = [] ∨ ∃ data, chain.live = [data] ∧ ∀ k ∈ chain.committed, k ≤ data.searchId)

/-- A job keeps the chain increasing, whatever the table it reads. -/
theorem Increasing.job {settings : Finset Id} {chain chain' : JobChain.State _ Id}
    {a : JobChain.Action} (h : Increasing (P := P) chain)
    (hStep : JobChain.next (allUserPager settings) chain a = some chain') : Increasing chain' := by
  obtain ⟨hPairwise, hLive | ⟨data, hLive, hBelow⟩⟩ := h
  · cases a <;> simp [JobChain.next, hLive] at hStep
  · obtain ⟨live, committed⟩ := chain
    obtain rfl : live = [data] := hLive
    cases a with
    | giveUp i =>
      rw [JobChain.giveUp_single hStep]
      exact ⟨hPairwise, .inl rfl⟩
    | run i =>
      obtain ⟨page, hPage, -⟩ := allUserEventDispatch_eq settings data
      obtain ⟨hIncreasing, hAbove, hNext⟩ := allUserEventDispatch_increasing hPage
      rw [JobChain.run_single hStep, allUserPager_page hPage]
      -- the page lies above the cursor, which bounds what was committed before
      refine ⟨List.pairwise_append.mpr ⟨hPairwise, hIncreasing,
        fun k hk b hb => (hBelow k hk).trans_lt (hAbove b hb)⟩, ?_⟩
      cases hSpawned : page.next with
      | none => exact .inl rfl
      | some next =>
        obtain ⟨hMem, hLe⟩ := hNext next (by rw [hSpawned]; rfl)
        refine .inr ⟨next, rfl, fun k hk => ?_⟩
        rcases List.mem_append.mp hk with hk | hk
        · exact (hBelow k hk).trans (hAbove _ hMem).le
        · exact hLe k hk

theorem increasing_start (data : AllUserEventDispatchData Id P) :
    Increasing (JobChain.start (α := Id) data) :=
  ⟨List.Pairwise.nil, .inr ⟨data, rfl, fun _ hk => by cases hk⟩⟩

theorem Increasing.next {s s' : AllUserDispatch Id P} {a : AllUserDispatchAction Id}
    (h : Increasing s.chain) (hStep : AllUserDispatch.next s a = some s') :
    Increasing s'.chain := by
  cases a with
  | job a =>
    obtain ⟨chain, hChain, rfl⟩ := Option.map_eq_some_iff.mp hStep
    exact h.job hChain
  | settingsChanged settings =>
    cases hStep
    exact h

/-- However users change their settings while an all-user dispatch runs, and
    whichever jobs fail or are given up, the users it reaches increase in id:
    no user is reached twice. -/
theorem reached_increasing_while_settings_change {settings : Finset Id}
    {data : AllUserEventDispatchData Id P} {s : AllUserDispatch Id P}
    (h : Reachable AllUserDispatch.next ⟨settings, JobChain.start data⟩ s) :
    s.chain.committed.Pairwise (· < ·) := by
  have hInv : Invariant AllUserDispatch.next ⟨settings, JobChain.start data⟩
      fun s => Increasing s.chain :=
    ⟨increasing_start data, fun _ _ _ hs hStep => hs.next hStep⟩
  exact (hInv.holds h).1

/-- A user signs up before the first job: both users are reached, in order. -/
theorem signUp_reached_increasing :
    ∃ s, run AllUserDispatch.next (⟨{5}, JobChain.start ⟨0, ()⟩⟩ : AllUserDispatch ℕ Unit)
      [.settingsChanged {3, 5}, .job (.run 0)] = some s ∧ s.chain.committed = [3, 5] ∧
      s.chain.committed.Pairwise (· < ·) := by
  have hAbove : Keyset.above ({3, 5} : Finset ℕ) 0 = [3, 5] := by
    simp [Keyset.above, Finset.filter_insert, Finset.filter_singleton, Finset.sort_insert]
  refine ⟨_, rfl, ?_, reached_increasing_while_settings_change
    (@reachable_of_run _ _ AllUserDispatch.next _ _ [.settingsChanged {3, 5}, .job (.run 0)] rfl)⟩
  simp [JobChain.start, allUserPager, allUserEventDispatch, listIdsAfter, Keyset.keysAfter, hAbove,
    PAGINATION_BATCH_SIZE]

end AllUserDispatch

end Galoy
