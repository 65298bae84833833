/-
  Galoy.Notifications.EmailReminder

  The reminder to link an email (`core/notifications/src/job/mod.rs`,
  `email_reminder_projection/mod.rs`, `app/mod.rs`).

  The table `email_reminder_projection` has a row for each user who
  transacted without an email: when the user was first seen, last transacted
  and was last reminded.  A transaction of such a user upserts the row, and
  adding an email deletes it.  Every six hours `kickoff_link_email_reminder`
  spawns a `link_email_reminder` job at `search_begin`.  In one transaction the
  job selects up to 1001 users above its cursor who are due (active lately,
  first seen long enough ago, not reminded within the cool-off), sets their
  `last_notified_at` to now and returns the first 1000.  If there were more it
  spawns the next job above the last one returned.  The returned users get the
  reminder in their history and a push.

  The job's statement reads `selected_rows` in its snapshot and then updates
  those rows; under `READ COMMITTED` the update finds each row as it is then and
  does not check again that it is due.  The jobs run in a channel with no order,
  up to the runner's concurrency, so two jobs' statements may overlap.  Two that
  do both read a due user and both remind them, at the same `NOW()`
  (`overlapping_statements_remind_twice`).  Over every run whose statements do
  not overlap (`serial`), with any number of rounds, transactions, emails added,
  attempts rolled back, jobs given up and the clock moving on, two reminders to
  one user are more than the cool-off apart.  The exception is a user whose row
  was deleted and made again in between; such reminders are more than the
  account-age threshold apart (`reminded_spaced`).  A full page marks one user
  more than it reminds: with more than 1000 users due above the cursor, the
  1001st is marked with the page and not reminded, and is not due again until
  the cool-off has passed (`linkEmailReminder_marks_unreminded`).

  Times are `TIMESTAMPTZ` values in microseconds, and `NOW()` is the clock when
  the job's transaction reads its rows.  The rows `UPDATE ... RETURNING` gives
  back are taken in the order they were selected in.  A row deleted and made
  again while a statement runs is updated by it here, where the database would
  skip it.  `handle_transaction_occurred` calls the upsert only for a user
  without an email; the model lets it run for any user.
-/

import Galoy.Lib.Keyset
import Galoy.Lib.Transition
import Mathlib.Order.Interval.Finset.Nat

namespace Galoy

open Transition

-- ============================================================================
-- The projection
-- ============================================================================

/-- `EmailReminderProjectionConfig`, in minutes. -/
structure EmailReminderProjectionConfig where
  accountLivenessThresholdMinutes : ℤ
  accountAgeThresholdMinutes : ℤ
  notificationCoolOffThresholdMinutes : ℤ
  deriving DecidableEq, Repr

/-- `EmailReminderProjectionConfig::default`: 21, 21 and 90 days. -/
def EmailReminderProjectionConfig.default : EmailReminderProjectionConfig where
  accountLivenessThresholdMinutes := 21 * 24 * 60
  accountAgeThresholdMinutes := 21 * 24 * 60
  notificationCoolOffThresholdMinutes := 90 * 24 * 60

/-- `make_interval(mins => m)`, in microseconds. -/
def minutes (m : ℤ) : ℤ := 60000000 * m

/-- A row of `email_reminder_projection`. -/
structure EmailReminderRow where
  userFirstSeenAt : ℤ
  lastTransactionAt : Option ℤ
  lastNotifiedAt : Option ℤ
  deriving DecidableEq, Repr

/-- The table, by its unique `galoy_user_id`: the ids that have a row, and
    their rows. -/
structure EmailReminderProjection (Id : Type) where
  ids : Finset Id
  row : Id → EmailReminderRow

namespace EmailReminderProjection

variable {Id : Type} [LinearOrder Id]

/-- `PAGINATION_BATCH_SIZE` of `email_reminder_projection/mod.rs`. -/
def PAGINATION_BATCH_SIZE : ℕ := 1000

/-- `transaction_occurred_for_user_without_email`: a new row first seen now,
    or on conflict `last_transaction_at = now()`. -/
def transactionOccurredForUserWithoutEmail (projection : EmailReminderProjection Id)
    (galoyUserId : Id) (now : ℤ) : EmailReminderProjection Id :=
  if galoyUserId ∈ projection.ids then
    { projection with
      row := Function.update projection.row galoyUserId
        { projection.row galoyUserId with lastTransactionAt := some now } }
  else
    ⟨insert galoyUserId projection.ids,
      Function.update projection.row galoyUserId ⟨now, some now, none⟩⟩

/-- `user_added_email`: the user's row is deleted. -/
def userAddedEmail (projection : EmailReminderProjection Id) (galoyUserId : Id) :
    EmailReminderProjection Id :=
  { projection with ids := projection.ids.erase galoyUserId }

/-- The conditions of `selected_rows` but the cursor's. -/
def toNotify (config : EmailReminderProjectionConfig) (now : ℤ) (row : EmailReminderRow) : Bool :=
  (match row.lastTransactionAt with
    | some lastTransactionAt =>
      decide (now - minutes config.accountLivenessThresholdMinutes < lastTransactionAt)
    | none => false) &&
  decide (row.userFirstSeenAt < now - minutes config.accountAgeThresholdMinutes) &&
  (match row.lastNotifiedAt with
    | some lastNotifiedAt =>
      decide (lastNotifiedAt < now - minutes config.notificationCoolOffThresholdMinutes)
    | none => true)

/-- The users due a reminder at `now`. -/
def dueIds (projection : EmailReminderProjection Id) (config : EmailReminderProjectionConfig)
    (now : ℤ) : Finset Id :=
  projection.ids.filter fun id => toNotify config now (projection.row id)

/-- The `updated` step: `last_notified_at = NOW()` for the selected users. -/
def markNotified (projection : EmailReminderProjection Id) (selected : List Id) (now : ℤ) :
    EmailReminderProjection Id :=
  { projection with
    row := fun id =>
      if id ∈ selected then { projection.row id with lastNotifiedAt := some now }
      else projection.row id }

/-- The `selected_rows` of `list_ids_to_notify_after`: up to one more than a
    batch of the users due above `searchId`, in order. -/
def selectedRows (projection : EmailReminderProjection Id) (config : EmailReminderProjectionConfig)
    (searchId : Id) (now : ℤ) : List Id :=
  Keyset.keysAfter (projection.dueIds config now) searchId (PAGINATION_BATCH_SIZE + 1)

/-- The `updated` part of `list_ids_to_notify_after`, against the table as the
    update finds it, and what the function hands back: the selected users whose
    row is still there get `last_notified_at = NOW()` and are returned, and a
    batch of them is handed back with whether there were more. -/
def updateSelected (projection : EmailReminderProjection Id) (selected : List Id) (now : ℤ) :
    (List Id × Bool) × EmailReminderProjection Id :=
  let rows := selected.filter (· ∈ projection.ids)
  ((rows.take PAGINATION_BATCH_SIZE, decide (PAGINATION_BATCH_SIZE < rows.length)),
    projection.markNotified rows now)

/-- `list_ids_to_notify_after`, its statement reading and writing the table at
    once. -/
def listIdsToNotifyAfter (projection : EmailReminderProjection Id)
    (config : EmailReminderProjectionConfig) (searchId : Id) (now : ℤ) :
    (List Id × Bool) × EmailReminderProjection Id :=
  projection.updateSelected (projection.selectedRows config searchId now) now

/-- The rest of the closure of `link_email_reminder`, from what
    `list_ids_to_notify_after` handed back: the users reminded (history and
    push, as `LinkEmailReminder` asks for both), the cursor of the job it
    spawns and the table after; `none` where `ids.last().expect(..)` would
    panic. -/
def remindListed : (List Id × Bool) × EmailReminderProjection Id →
    Option (List Id × Option Id × EmailReminderProjection Id)
  | ((ids, more), projection) =>
    if more then ids.getLast?.map fun last => (ids, some last, projection)
    else some (ids, none, projection)

/-- The closure of `link_email_reminder`. -/
def linkEmailReminder (projection : EmailReminderProjection Id)
    (config : EmailReminderProjectionConfig) (searchId : Id) (now : ℤ) :
    Option (List Id × Option Id × EmailReminderProjection Id) :=
  remindListed (projection.listIdsToNotifyAfter config searchId now)

-- ============================================================================
-- What the table remembers of a reminder
-- ============================================================================

/-- The table still tells of a reminder at `time`: the user has no row, or the
    row was last marked no earlier, or was made no earlier. -/
def Remembers (projection : EmailReminderProjection Id) (id : Id) (time : ℤ) : Prop :=
  id ∈ projection.ids →
    (∃ t, (projection.row id).lastNotifiedAt = some t ∧ time ≤ t) ∨
      time ≤ (projection.row id).userFirstSeenAt

variable {projection : EmailReminderProjection Id} {id : Id} {time now : ℤ}

theorem Remembers.transactionOccurred (h : Remembers projection id time) (hTime : time ≤ now)
    (galoyUserId : Id) :
    Remembers (projection.transactionOccurredForUserWithoutEmail galoyUserId now) id time := by
  intro hId
  unfold transactionOccurredForUserWithoutEmail at hId ⊢
  by_cases hOld : galoyUserId ∈ projection.ids
  · -- the upsert only moves `last_transaction_at`
    rw [if_pos hOld] at hId ⊢
    have hRow := h hId
    by_cases hUser : id = galoyUserId
    · subst hUser
      simpa only [Function.update_self] using hRow
    · simpa only [Function.update_of_ne hUser] using hRow
  · rw [if_neg hOld] at hId ⊢
    by_cases hUser : id = galoyUserId
    · -- a new row, first seen now
      subst hUser
      right
      simpa only [Function.update_self] using hTime
    · have hRow := h ((Finset.mem_insert.mp hId).resolve_left hUser)
      simpa only [Function.update_of_ne hUser] using hRow

theorem Remembers.userAddedEmail (h : Remembers projection id time) (galoyUserId : Id) :
    Remembers (projection.userAddedEmail galoyUserId) id time :=
  fun hId => h (Finset.mem_of_mem_erase hId)

theorem row_markNotified_of_mem {selected : List Id} (hSelected : id ∈ selected) :
    (projection.markNotified selected now).row id =
      { projection.row id with lastNotifiedAt := some now } := by
  simp only [markNotified, if_pos hSelected]

theorem row_markNotified_of_not_mem {selected : List Id} (hSelected : id ∉ selected) :
    (projection.markNotified selected now).row id = projection.row id := by
  simp only [markNotified, if_neg hSelected]

theorem Remembers.markNotified (h : Remembers projection id time) (hTime : time ≤ now)
    (selected : List Id) : Remembers (projection.markNotified selected now) id time := by
  intro hId
  by_cases hSelected : id ∈ selected
  · rw [row_markNotified_of_mem hSelected]
    exact .inl ⟨now, rfl, hTime⟩
  · rw [row_markNotified_of_not_mem hSelected]
    exact h hId

theorem remembers_markNotified_of_mem {selected : List Id} (hSelected : id ∈ selected) :
    Remembers (projection.markNotified selected now) id now := by
  intro _
  rw [row_markNotified_of_mem hSelected]
  exact .inl ⟨now, rfl, le_rfl⟩

omit [LinearOrder Id] in
/-- A user the table remembers a reminder at `time` for, and who is due at
    `now`, was reminded more than the cool-off, or the account age, before. -/
theorem Remembers.gap {config : EmailReminderProjectionConfig} (h : Remembers projection id time)
    (hId : id ∈ projection.ids) (hDue : toNotify config now (projection.row id) = true) :
    time + minutes config.notificationCoolOffThresholdMinutes < now ∨
      time + minutes config.accountAgeThresholdMinutes < now := by
  have hAge : (projection.row id).userFirstSeenAt <
      now - minutes config.accountAgeThresholdMinutes := by
    simp only [toNotify, Bool.and_eq_true, decide_eq_true_eq] at hDue
    exact hDue.1.2
  rcases h hId with ⟨t, hLast, hLe⟩ | hFirst
  · -- marked at `t`, and not due again until the cool-off has passed
    have hCool : t < now - minutes config.notificationCoolOffThresholdMinutes := by
      simp only [toNotify, hLast, Bool.and_eq_true, decide_eq_true_eq] at hDue
      exact hDue.2
    left
    omega
  · right
    omega

-- ============================================================================
-- One job
-- ============================================================================

/-- Every selected user is due, so has a row: a statement that reads and
    writes at once updates every row it selected. -/
theorem filter_selectedRows {config : EmailReminderProjectionConfig} {searchId : Id} :
    (projection.selectedRows config searchId now).filter (· ∈ projection.ids) =
      projection.selectedRows config searchId now := by
  refine List.filter_eq_self.mpr fun id hId => ?_
  have hDue := (Keyset.mem_above.mp (List.mem_of_mem_take hId)).1
  exact decide_eq_true (Finset.mem_filter.mp hDue).1

theorem listIdsToNotifyAfter_eq {config : EmailReminderProjectionConfig} {searchId : Id} :
    projection.listIdsToNotifyAfter config searchId now =
      (((projection.selectedRows config searchId now).take PAGINATION_BATCH_SIZE,
          decide (PAGINATION_BATCH_SIZE < (projection.selectedRows config searchId now).length)),
        projection.markNotified (projection.selectedRows config searchId now) now) := by
  simp only [listIdsToNotifyAfter, updateSelected, filter_selectedRows]

omit [LinearOrder Id] in
/-- Either branch of the closure reminds the users handed back and keeps the
    table. -/
theorem remindListed_eq_some {page : (List Id × Bool) × EmailReminderProjection Id}
    {ids : List Id} {spawned : Option Id} {projection' : EmailReminderProjection Id}
    (h : remindListed page = some (ids, spawned, projection')) :
    ids = page.1.1 ∧ projection' = page.2 := by
  obtain ⟨⟨ids', more⟩, marked⟩ := page
  simp only [remindListed] at h
  split at h
  · obtain ⟨last, -, hEq⟩ := Option.map_eq_some_iff.mp h
    cases hEq
    exact ⟨rfl, rfl⟩
  · cases h
    exact ⟨rfl, rfl⟩

/-- An update marks the rows it read that are still in the table, and reminds
    some of them, in the order read. -/
theorem remindListed_updateSelected {selected ids : List Id} {spawned : Option Id}
    {projection' : EmailReminderProjection Id}
    (h : remindListed (projection.updateSelected selected now) = some (ids, spawned, projection')) :
    ∃ rows, projection' = projection.markNotified rows now ∧ ids.Sublist rows ∧
      rows.Sublist selected ∧ ∀ id ∈ rows, id ∈ projection.ids := by
  obtain ⟨rfl, rfl⟩ := remindListed_eq_some h
  exact ⟨_, rfl, List.take_sublist _ _, List.filter_sublist,
    fun id hId => of_decide_eq_true (List.mem_filter.mp hId).2⟩

omit [LinearOrder Id] in
/-- A user marked at `t` is not due again until the cool-off has passed. -/
theorem toNotify_eq_false_of_notified {config : EmailReminderProjectionConfig}
    {row : EmailReminderRow} {t later : ℤ} (hNotified : row.lastNotifiedAt = some t)
    (hLater : later ≤ t + minutes config.notificationCoolOffThresholdMinutes) :
    toNotify config later row = false := by
  simp only [toNotify, hNotified, Bool.and_eq_false_iff, decide_eq_false_iff_not]
  right
  omega

/-- With more than a page of users due above the cursor, the job marks the
    first user after the page as notified and does not remind them, and that
    user is not due again until the cool-off has passed. -/
theorem linkEmailReminder_marks_unreminded {config : EmailReminderProjectionConfig}
    {searchId : Id}
    (hFull : PAGINATION_BATCH_SIZE < ((projection.dueIds config now).filter (searchId < ·)).card) :
    ∃ ids spawned projection',
      projection.linkEmailReminder config searchId now = some (ids, spawned, projection') ∧
      ∃ id ∈ projection.dueIds config now, searchId < id ∧ id ∉ ids ∧
        ∀ later ≤ now + minutes config.notificationCoolOffThresholdMinutes,
          toNotify config later (projection'.row id) = false := by
  -- the users due above the cursor: the job reads a page of them and one more
  have hLen :
      PAGINATION_BATCH_SIZE < (Keyset.above (projection.dueIds config now) searchId).length := by
    rw [Keyset.above, Finset.length_sort]
    exact hFull
  have hIds := @Keyset.take_keysAfter_succ Id _ (projection.dueIds config now) searchId
    PAGINATION_BATCH_SIZE
  have hMore := (@Keyset.lt_length_keysAfter_succ Id _ (projection.dueIds config now) searchId
    PAGINATION_BATCH_SIZE).mpr hLen
  obtain ⟨last, hLast, -⟩ := Keyset.above_getLast_take (by decide) hLen.le
  have hReturn : projection.linkEmailReminder config searchId now =
      some ((Keyset.above (projection.dueIds config now) searchId).take PAGINATION_BATCH_SIZE,
        some last, projection.markNotified
          (Keyset.keysAfter (projection.dueIds config now) searchId (PAGINATION_BATCH_SIZE + 1))
          now) := by
    simp only [linkEmailReminder, listIdsToNotifyAfter_eq, selectedRows, remindListed, hIds,
      hMore, decide_true, if_true, hLast, Option.map_some]
  -- the user after the page is read and marked, and is not in the page
  have hMem := Keyset.mem_above.mp (List.getElem_mem hLen)
  have hMarked : (Keyset.above (projection.dueIds config now) searchId)[PAGINATION_BATCH_SIZE] ∈
      Keyset.keysAfter (projection.dueIds config now) searchId (PAGINATION_BATCH_SIZE + 1) :=
    List.mem_iff_getElem.mpr ⟨PAGINATION_BATCH_SIZE, by simp [Keyset.keysAfter]; omega,
      by simp [Keyset.keysAfter]⟩
  have hAfter : (Keyset.above (projection.dueIds config now) searchId)[PAGINATION_BATCH_SIZE] ∈
      (Keyset.above (projection.dueIds config now) searchId).drop PAGINATION_BATCH_SIZE :=
    List.mem_iff_getElem.mpr ⟨0, by simp; omega, by simp⟩
  refine ⟨_, _, _, hReturn, _, hMem.1, hMem.2, fun hIn => ?_, fun later hLater => ?_⟩
  · exact List.disjoint_take_drop Keyset.nodup_above le_rfl hIn hAfter
  · rw [row_markNotified_of_mem hMarked]
    exact toNotify_eq_false_of_notified rfl hLater

/-- A full page of 1001 users due: the 1001st is marked and not reminded. -/
theorem fullPage_marks_unreminded :
    PAGINATION_BATCH_SIZE < (((⟨Finset.Ioc 0 1001, fun _ => ⟨0, some (minutes (30 * 24 * 60)),
        none⟩⟩ : EmailReminderProjection ℕ).dueIds .default (minutes (30 * 24 * 60))).filter
        (0 < ·)).card ∧
    ∃ ids spawned projection',
      (⟨Finset.Ioc 0 1001, fun _ => ⟨0, some (minutes (30 * 24 * 60)), none⟩⟩ :
        EmailReminderProjection ℕ).linkEmailReminder .default 0 (minutes (30 * 24 * 60)) =
          some (ids, spawned, projection') ∧
      ∃ id ∈ (⟨Finset.Ioc 0 1001, fun _ => ⟨0, some (minutes (30 * 24 * 60)), none⟩⟩ :
          EmailReminderProjection ℕ).dueIds .default (minutes (30 * 24 * 60)),
        0 < id ∧ id ∉ ids ∧
        ∀ later ≤ minutes (30 * 24 * 60) +
            minutes EmailReminderProjectionConfig.default.notificationCoolOffThresholdMinutes,
          toNotify .default later (projection'.row id) = false := by
  have hFull : PAGINATION_BATCH_SIZE < (((⟨Finset.Ioc 0 1001, fun _ => ⟨0,
      some (minutes (30 * 24 * 60)), none⟩⟩ : EmailReminderProjection ℕ).dueIds .default
        (minutes (30 * 24 * 60))).filter (0 < ·)).card := by
    -- every user is due, and every id is above the cursor
    have hDue : (⟨Finset.Ioc 0 1001, fun _ => ⟨0, some (minutes (30 * 24 * 60)), none⟩⟩ :
        EmailReminderProjection ℕ).dueIds .default (minutes (30 * 24 * 60)) = Finset.Ioc 0 1001 :=
      Finset.filter_true_of_mem fun _ _ => rfl
    rw [hDue, Finset.filter_true_of_mem fun _ h => (Finset.mem_Ioc.mp h).1, Nat.card_Ioc]
    decide
  exact ⟨hFull, linkEmailReminder_marks_unreminded hFull⟩

end EmailReminderProjection

-- ============================================================================
-- Every round of reminders
-- ============================================================================

/-- A `link_email_reminder` job: its cursor and, once its statement has read
    `selected_rows` in its snapshot, the rows it read and its transaction's
    `NOW()`. -/
structure LinkEmailReminderJob (Id : Type) where
  searchId : Id
  selected : Option (List Id × ℤ)

/-- The table, the `link_email_reminder` jobs by number and the numbers spawned
    so far, the reminders sent with their user and `NOW()`, and the clock.  A
    job that spawns the job of the next page hands it its own number. -/
structure LinkEmailReminders (Id : Type) where
  projection : EmailReminderProjection Id
  jobs : ℕ → Option (LinkEmailReminderJob Id)
  spawned : List ℕ
  reminded : List (Id × ℤ)
  now : ℤ

inductive LinkEmailRemindersAction (Id : Type) where
  | tick (elapsed : ℕ)
  /-- `kickoff_link_email_reminder` spawns job `i` -/
  | kickoffLinkEmailReminder (i : ℕ)
  /-- the statement of job `i` reads `selected_rows` in its snapshot -/
  | selectRows (i : ℕ)
  /-- the statement of job `i` updates the rows it read, and the job commits -/
  | linkEmailReminder (i : ℕ)
  /-- the attempt of job `i` fails before it commits, and is retried -/
  | rollback (i : ℕ)
  /-- the job `i` fails its last attempt -/
  | giveUp (i : ℕ)
  /-- `handle_transaction_occurred` for a user without an email -/
  | transactionOccurred (galoyUserId : Id)
  /-- `update_email_address` -/
  | userAddedEmail (galoyUserId : Id)

namespace LinkEmailReminders

open EmailReminderProjection

variable {Id : Type} [LinearOrder Id]

/-- The table `projection`, no job and no reminder, at `start`. -/
def initial (projection : EmailReminderProjection Id) (start : ℤ) : LinkEmailReminders Id :=
  ⟨projection, fun _ => none, [], [], start⟩

def setJob (s : LinkEmailReminders Id) (i : ℕ) (job : Option (LinkEmailReminderJob Id)) :
    LinkEmailReminders Id :=
  { s with jobs := Function.update s.jobs i job }

omit [LinearOrder Id] in
@[simp] theorem setJob_jobs (s : LinkEmailReminders Id) (i : ℕ)
    (job : Option (LinkEmailReminderJob Id)) :
    (s.setJob i job).jobs = Function.update s.jobs i job := rfl

/-- Under `READ COMMITTED` a statement's update finds each row as it is when it
    gets there, and does not read `selected_rows` again: a row that another job
    marked since the snapshot is marked again, and a row deleted since is
    skipped. -/
def next (config : EmailReminderProjectionConfig) (searchBegin : Id) (s : LinkEmailReminders Id) :
    LinkEmailRemindersAction Id → Option (LinkEmailReminders Id)
  | .tick elapsed => some { s with now := s.now + elapsed }
  | .kickoffLinkEmailReminder i =>
    match s.jobs i with
    | none => some { s.setJob i (some ⟨searchBegin, none⟩) with spawned := i :: s.spawned }
    | some _ => none
  | .selectRows i =>
    match s.jobs i with
    | some ⟨searchId, none⟩ =>
      some (s.setJob i
        (some ⟨searchId, some (s.projection.selectedRows config searchId s.now, s.now)⟩))
    | _ => none
  | .linkEmailReminder i =>
    match s.jobs i with
    | some ⟨_, some (selected, now)⟩ =>
      (remindListed (s.projection.updateSelected selected now)).map fun (ids, spawned, projection) =>
        { s.setJob i (spawned.map fun searchId => ⟨searchId, none⟩) with
          projection := projection
          reminded := s.reminded ++ ids.map (·, now) }
    | _ => none
  | .rollback i =>
    match s.jobs i with
    | some ⟨searchId, some _⟩ => some (s.setJob i (some ⟨searchId, none⟩))
    | _ => none
  | .giveUp i => (s.jobs i).map fun _ => s.setJob i none
  | .transactionOccurred galoyUserId =>
    some { s with
      projection := s.projection.transactionOccurredForUserWithoutEmail galoyUserId s.now }
  | .userAddedEmail galoyUserId =>
    some { s with projection := s.projection.userAddedEmail galoyUserId }

/-- No two statements overlap: a job reads `selected_rows` only while no other
    job holds rows it read. -/
def serial (s : LinkEmailReminders Id) : LinkEmailRemindersAction Id → Bool
  | .selectRows i =>
    s.spawned.all fun j => j == i || (s.jobs j).all fun job => job.selected.isNone
  | _ => true

-- ============================================================================
-- The invariant of statements that do not overlap
-- ============================================================================

/-- Every reminder is in the past, and the table remembers it. -/
def Recorded (projection : EmailReminderProjection Id) (reminded : List (Id × ℤ)) (now : ℤ) :
    Prop :=
  ∀ r ∈ reminded, r.2 ≤ now ∧ Remembers projection r.1 r.2

/-- Two reminders of one user are more than the cool-off, or the account age,
    apart. -/
def Spaced (config : EmailReminderProjectionConfig) (reminded : List (Id × ℤ)) : Prop :=
  reminded.Pairwise fun a b => a.1 = b.1 →
    a.2 + minutes config.notificationCoolOffThresholdMinutes < b.2 ∨
      a.2 + minutes config.accountAgeThresholdMinutes < b.2

/-- What the rows a statement read at `t` still guarantee: `t` has passed, the
    rows are in order, no reminder came later, and each user read is past the
    gap since every reminder they had. -/
def InFlight (config : EmailReminderProjectionConfig) (reminded : List (Id × ℤ)) (now : ℤ)
    (rows : List Id) (t : ℤ) : Prop :=
  t ≤ now ∧ rows.Pairwise (· < ·) ∧ (∀ r ∈ reminded, r.2 ≤ t) ∧
    ∀ id ∈ rows, ∀ r ∈ reminded, r.1 = id →
      r.2 + minutes config.notificationCoolOffThresholdMinutes < t ∨
        r.2 + minutes config.accountAgeThresholdMinutes < t

/-- A job holding rows it read is the only one. -/
def Alone (jobs : ℕ → Option (LinkEmailReminderJob Id)) (i : ℕ) (job : LinkEmailReminderJob Id) :
    Prop :=
  job.selected.isSome = true → ∀ j job', j ≠ i → jobs j = some job' → job'.selected = none

/-- The invariant of the runs whose statements do not overlap. -/
structure Serial (config : EmailReminderProjectionConfig) (s : LinkEmailReminders Id) : Prop where
  recorded : Recorded s.projection s.reminded s.now
  spaced : Spaced config s.reminded
  started : ForallProcs s.jobs fun i _ => i ∈ s.spawned
  inFlight : ForallProcs s.jobs fun _ job =>
    ∀ rows t, job.selected = some (rows, t) → InFlight config s.reminded s.now rows t
  alone : ForallProcs s.jobs (Alone s.jobs)

variable {config : EmailReminderProjectionConfig} {s : LinkEmailReminders Id} {i : ℕ}

theorem serial_initial (projection : EmailReminderProjection Id) (start : ℤ) :
    Serial config (initial projection start) where
  recorded _ hr := by cases hr
  spaced := List.Pairwise.nil
  started _ _ h := by cases h
  inFlight _ _ h := by cases h
  alone _ _ h := by cases h

/-- A step that only sets job `i`, to a job that holds no rows or to none,
    keeps the invariant: no other job relied on it. -/
theorem Serial.setJob_idle (h : Serial config s) {job? : Option (LinkEmailReminderJob Id)}
    (hIdle : ∀ job, job? = some job → job.selected = none ∧ i ∈ s.spawned) :
    Serial config (s.setJob i job?) := by
  refine ⟨h.recorded, h.spaced, h.started.set (fun job hJob => (hIdle job hJob).2)
    fun _ _ _ _ hj => hj, h.inFlight.set (fun job hJob => by simp [(hIdle job hJob).1])
    fun _ _ _ _ hj => hj, h.alone.set (fun job hJob => by simp [Alone, (hIdle job hJob).1]) ?_⟩
  -- another job that holds rows saw every other job idle, `i` among them
  intro j job' hji hj hAlone hSome k job'' hkj hk
  by_cases hki : k = i
  · subst hki
    rw [setJob_jobs, Function.update_self] at hk
    exact (hIdle job'' hk).1
  · rw [setJob_jobs, Function.update_of_ne hki] at hk
    exact hAlone hSome k job'' hkj hk

/-- A statement reads its rows while no other job holds any. -/
theorem Serial.selectRows (h : Serial config s) {searchId : Id}
    (hi : s.jobs i = some ⟨searchId, none⟩)
    (hOthers : ∀ j job, j ≠ i → s.jobs j = some job → job.selected = none) :
    Serial config (s.setJob i
      (some ⟨searchId, some (s.projection.selectedRows config searchId s.now, s.now)⟩)) := by
  refine ⟨h.recorded, h.spaced, h.started.update (h.started i _ hi) fun _ _ _ _ hj => hj,
    h.inFlight.update ?_ fun j job hji hj _ rows t hSel => ?_, h.alone.update ?_ ?_⟩
  · -- the rows read are due now, so past the gap since every reminder the table remembers
    intro rows t hSel
    obtain ⟨rfl, rfl⟩ := Prod.mk.inj (Option.some.inj hSel)
    refine ⟨le_rfl, Keyset.pairwise_above.sublist (List.take_sublist _ _),
      fun r hr => (h.recorded r hr).1, fun id hId r hr hUser => ?_⟩
    have hDue := Finset.mem_filter.mp (Keyset.mem_above.mp (List.mem_of_mem_take hId)).1
    subst hUser
    exact (h.recorded r hr).2.gap hDue.1 hDue.2
  · rw [hOthers j job hji hj] at hSel
    cases hSel
  · intro _ j job' hji hj
    rw [setJob_jobs, Function.update_of_ne hji] at hj
    exact hOthers j job' hji hj
  · intro j job hji hj _ hSome
    rw [hOthers j job hji hj] at hSome
    cases hSome

/-- The rows a statement read are marked and some of them reminded at its
    `NOW()`: the table remembers every reminder, and the new ones are past the
    gap since the old. -/
theorem Serial.linkEmailReminder (h : Serial config s) {searchId : Id} {selected : List Id}
    {t : ℤ} (hi : s.jobs i = some ⟨searchId, some (selected, t)⟩) {ids : List Id}
    {spawned : Option Id} {projection' : EmailReminderProjection Id}
    (hRemind : remindListed (s.projection.updateSelected selected t) =
      some (ids, spawned, projection')) :
    Serial config { s.setJob i (spawned.map fun searchId => ⟨searchId, none⟩) with
      projection := projection'
      reminded := s.reminded ++ ids.map (·, t) } := by
  obtain ⟨rows, rfl, hIds, hRows, hPresent⟩ := remindListed_updateSelected hRemind
  obtain ⟨hNow, hOrdered, hBefore, hGap⟩ := h.inFlight i _ hi selected t rfl
  have hOthers := h.alone i _ hi rfl
  refine ⟨?_, ?_, h.started.set (fun _ _ => h.started i _ hi) fun _ _ _ _ hj => hj,
    h.inFlight.set ?_ ?_, h.alone.set ?_ ?_⟩
  · intro r hr
    rcases List.mem_append.mp hr with hr | hr
    · obtain ⟨hTime, hRemembers⟩ := h.recorded r hr
      exact ⟨hTime, hRemembers.markNotified (hBefore r hr) rows⟩
    · -- a reminder of this job: its user was just marked
      obtain ⟨id, hId, rfl⟩ := List.mem_map.mp hr
      exact ⟨hNow, remembers_markNotified_of_mem (hIds.subset hId)⟩
  · refine List.pairwise_append.mpr ⟨h.spaced, ?_, ?_⟩
    · -- one statement reminds each user once
      refine List.pairwise_map.mpr ((hOrdered.sublist (hIds.trans hRows)).imp fun hLt hEq => ?_)
      exact absurd hEq (ne_of_lt hLt)
    · intro a ha b hb hEq
      obtain ⟨id, hId, rfl⟩ := List.mem_map.mp hb
      exact hGap id ((hIds.trans hRows).subset hId) a ha hEq
  · intro job hJob
    obtain ⟨_, -, rfl⟩ := Option.map_eq_some_iff.mp hJob
    intro rows t hSel
    cases hSel
  · intro j job hji hj _ rows' t' hSel
    rw [hOthers j job hji hj] at hSel
    cases hSel
  · intro job hJob
    obtain ⟨_, -, rfl⟩ := Option.map_eq_some_iff.mp hJob
    intro hSome
    cases hSome
  · intro j job hji hj _ hSome
    rw [hOthers j job hji hj] at hSome
    cases hSome

/-- Every step of a run whose statements do not overlap keeps the invariant. -/
theorem Serial.step (h : Serial config s) {searchBegin : Id} {a : LinkEmailRemindersAction Id}
    {s' : LinkEmailReminders Id} (hStep : restrict (next config searchBegin) serial s a = some s') :
    Serial config s' := by
  obtain ⟨hAllowed, hStep⟩ := restrict_eq_some hStep
  cases a with
  | tick elapsed =>
    cases hStep
    refine ⟨fun r hr => ?_, h.spaced, h.started, h.inFlight.mono fun _ _ _ hj rows t hSel => ?_,
      h.alone⟩
    · obtain ⟨hTime, hRemembers⟩ := h.recorded r hr
      exact ⟨by dsimp only; omega, hRemembers⟩
    · obtain ⟨hNow, hRest⟩ := hj rows t hSel
      exact ⟨by dsimp only; omega, hRest⟩
  | kickoffLinkEmailReminder i =>
    simp only [next] at hStep
    split at hStep
    · cases hStep
      -- the new number is spawned, then the new job holds no rows
      have hSpawned : Serial config { s with spawned := i :: s.spawned } :=
        ⟨h.recorded, h.spaced, h.started.mono fun _ _ _ hj => List.mem_cons_of_mem i hj,
          h.inFlight, h.alone⟩
      exact hSpawned.setJob_idle fun job hJob => by
        cases hJob
        exact ⟨rfl, List.mem_cons_self⟩
    · cases hStep
  | selectRows i =>
    simp only [next] at hStep
    split at hStep
    · rename_i searchId hi
      cases hStep
      refine h.selectRows hi fun j job hji hj => ?_
      -- the guard saw every other spawned job idle
      have hIdle := List.all_eq_true.mp hAllowed j (h.started j job hj)
      simpa [hji, hj] using hIdle
    · cases hStep
  | linkEmailReminder i =>
    simp only [next] at hStep
    split at hStep
    · rename_i searchId selected t hi
      obtain ⟨⟨ids, spawned, projection'⟩, hRemind, rfl⟩ := Option.map_eq_some_iff.mp hStep
      exact h.linkEmailReminder hi hRemind
    · cases hStep
  | rollback i =>
    simp only [next] at hStep
    split at hStep
    · rename_i searchId _ hi
      cases hStep
      exact h.setJob_idle fun job hJob => by
        cases hJob
        exact ⟨rfl, h.started i _ hi⟩
    · cases hStep
  | giveUp i =>
    obtain ⟨_, -, rfl⟩ := Option.map_eq_some_iff.mp hStep
    exact h.setJob_idle fun job hJob => by cases hJob
  | transactionOccurred galoyUserId =>
    cases hStep
    refine ⟨fun r hr => ?_, h.spaced, h.started, h.inFlight, h.alone⟩
    obtain ⟨hTime, hRemembers⟩ := h.recorded r hr
    exact ⟨hTime, hRemembers.transactionOccurred hTime galoyUserId⟩
  | userAddedEmail galoyUserId =>
    cases hStep
    refine ⟨fun r hr => ?_, h.spaced, h.started, h.inFlight, h.alone⟩
    obtain ⟨hTime, hRemembers⟩ := h.recorded r hr
    exact ⟨hTime, hRemembers.userAddedEmail galoyUserId⟩

/-- However the rounds of reminders, the users' transactions and emails and the
    failures of jobs interleave, as long as no two statements of
    `list_ids_to_notify_after` overlap, two link-email reminders to one user
    are more than the cool-off apart, or more than the account-age threshold
    apart. -/
theorem reminded_spaced {config : EmailReminderProjectionConfig} {searchBegin : Id}
    {projection : EmailReminderProjection Id} {start : ℤ} {s : LinkEmailReminders Id}
    (h : Reachable (restrict (next config searchBegin) serial) (initial projection start) s) :
    s.reminded.Pairwise fun a b => a.1 = b.1 →
      a.2 + minutes config.notificationCoolOffThresholdMinutes < b.2 ∨
        a.2 + minutes config.accountAgeThresholdMinutes < b.2 := by
  have hInv : Invariant (restrict (next config searchBegin) serial) (initial projection start)
      (Serial config) :=
    ⟨serial_initial projection start, fun _ _ _ hs hStep => hs.step hStep⟩
  exact (hInv.holds h).spaced

/-- A user reminded after thirty days, who transacts again ninety-one days
    later, is reminded again then. -/
theorem remindedTwice_spaced :
    ∃ s, run (restrict (next .default 0) serial)
      (initial ⟨{7}, fun _ => ⟨0, some (minutes (30 * 24 * 60)), none⟩⟩ (minutes (30 * 24 * 60)))
      [.kickoffLinkEmailReminder 0, .selectRows 0, .linkEmailReminder 0, .tick 7862400000000,
        .transactionOccurred 7, .kickoffLinkEmailReminder 0, .selectRows 0,
        .linkEmailReminder 0] = some s ∧
      s.reminded = [(7, minutes (30 * 24 * 60)), (7, minutes (121 * 24 * 60))] ∧
      s.reminded.Pairwise fun a b => a.1 = b.1 →
        a.2 + minutes EmailReminderProjectionConfig.default.notificationCoolOffThresholdMinutes <
            b.2 ∨
          a.2 + minutes EmailReminderProjectionConfig.default.accountAgeThresholdMinutes < b.2 := by
  have hAbove : Keyset.above ({7} : Finset ℕ) 0 = [7] := by
    simp [Keyset.above, Finset.filter_singleton]
  obtain ⟨s, hRun, hReminded⟩ : ∃ s, run (restrict (next .default 0) serial)
      (initial ⟨{7}, fun _ => ⟨0, some (minutes (30 * 24 * 60)), none⟩⟩ (minutes (30 * 24 * 60)))
      [.kickoffLinkEmailReminder 0, .selectRows 0, .linkEmailReminder 0, .tick 7862400000000,
        .transactionOccurred 7, .kickoffLinkEmailReminder 0, .selectRows 0,
        .linkEmailReminder 0] = some s ∧
      s.reminded = [(7, minutes (30 * 24 * 60)), (7, minutes (121 * 24 * 60))] := by
    simp [run, restrict, serial, next, initial, setJob, remindListed, updateSelected, selectedRows,
      dueIds, Finset.filter_singleton, Keyset.keysAfter, hAbove, PAGINATION_BATCH_SIZE,
      markNotified, transactionOccurredForUserWithoutEmail, toNotify, minutes,
      EmailReminderProjectionConfig.default]
  exact ⟨s, hRun, hReminded, reminded_spaced (reachable_of_run hRun)⟩

-- ============================================================================
-- Statements that overlap
-- ============================================================================

/-- A page that holds every user due above the cursor: its update, against a
    table with the same rows, marks and returns them all, with no more to
    come. -/
theorem updateSelected_of_le {config : EmailReminderProjectionConfig} {searchBegin : Id}
    {projection projection' : EmailReminderProjection Id} {now t : ℤ}
    (hPage : ((projection.dueIds config now).filter (searchBegin < ·)).card ≤ PAGINATION_BATCH_SIZE)
    (hIds : projection'.ids = projection.ids) :
    projection'.updateSelected (projection.selectedRows config searchBegin now) t =
      ((projection.selectedRows config searchBegin now, false),
        projection'.markNotified (projection.selectedRows config searchBegin now) t) := by
  have hLen : (projection.selectedRows config searchBegin now).length ≤ PAGINATION_BATCH_SIZE := by
    calc (projection.selectedRows config searchBegin now).length
        ≤ (Keyset.above (projection.dueIds config now) searchBegin).length := List.length_take_le' _ _
      _ = ((projection.dueIds config now).filter (searchBegin < ·)).card := by
        rw [Keyset.above, Finset.length_sort]
      _ ≤ PAGINATION_BATCH_SIZE := hPage
  have hFilter : (projection.selectedRows config searchBegin now).filter (· ∈ projection'.ids) =
      projection.selectedRows config searchBegin now := by
    rw [hIds]
    exact filter_selectedRows
  simp only [updateSelected, hFilter, List.take_of_length_le hLen, decide_eq_false (not_lt.mpr hLen)]

/-- Two jobs whose statements overlap both read a user who is due, and both
    remind them at the same `NOW()`: the update of the second finds the row the
    first marked and marks it again, without reading `selected_rows` again. -/
theorem overlapping_statements_remind_twice {config : EmailReminderProjectionConfig}
    {searchBegin : Id} {projection : EmailReminderProjection Id} {now : ℤ} {id : Id}
    (hDue : id ∈ projection.dueIds config now) (hAbove : searchBegin < id)
    (hPage : ((projection.dueIds config now).filter (searchBegin < ·)).card ≤
      PAGINATION_BATCH_SIZE) :
    ∃ s, Reachable (next config searchBegin) (initial projection now) s ∧
      List.Sublist [(id, now), (id, now)] s.reminded := by
  -- both statements read the same rows, the user among them
  have hRead : id ∈ projection.selectedRows config searchBegin now := by
    rw [selectedRows, Keyset.keysAfter, List.take_of_length_le]
    · exact Keyset.mem_above.mpr ⟨hDue, hAbove⟩
    · rw [Keyset.above, Finset.length_sort]
      exact hPage.trans (Nat.le_succ _)
  obtain ⟨s, hRun, hReminded⟩ : ∃ s, run (next config searchBegin) (initial projection now)
      [.kickoffLinkEmailReminder 0, .kickoffLinkEmailReminder 1, .selectRows 0, .selectRows 1,
        .linkEmailReminder 0, .linkEmailReminder 1] = some s ∧
      s.reminded = (projection.selectedRows config searchBegin now).map (·, now) ++
        (projection.selectedRows config searchBegin now).map (·, now) := by
    -- the second update finds the rows the first marked, and marks them again
    have hSecond := @updateSelected_of_le Id _ config searchBegin projection
      (projection.markNotified (projection.selectedRows config searchBegin now) now) now now hPage
      rfl
    simp [next, initial, setJob, remindListed, updateSelected_of_le hPage rfl, hSecond]
  have hOnce : List.Sublist [(id, now)]
      ((projection.selectedRows config searchBegin now).map (·, now)) :=
    List.singleton_sublist.mpr (List.mem_map_of_mem hRead)
  exact ⟨s, reachable_of_run hRun, hReminded ▸ hOnce.append hOnce⟩

/-- Two jobs of one table of one due user, their statements overlapping. -/
theorem overlappingJobs_remind_twice :
    (7 : ℕ) ∈ (⟨{7}, fun _ => ⟨0, some (minutes (30 * 24 * 60)), none⟩⟩ :
        EmailReminderProjection ℕ).dueIds .default (minutes (30 * 24 * 60)) ∧
    ((⟨{7}, fun _ => ⟨0, some (minutes (30 * 24 * 60)), none⟩⟩ :
        EmailReminderProjection ℕ).dueIds .default (minutes (30 * 24 * 60))).filter (0 < ·) =
      {7} ∧
    ∃ s, Reachable (next .default 0) (initial ⟨{7}, fun _ => ⟨0, some (minutes (30 * 24 * 60)),
        none⟩⟩ (minutes (30 * 24 * 60))) s ∧
      List.Sublist [(7, minutes (30 * 24 * 60)), (7, minutes (30 * 24 * 60))] s.reminded := by
  have hDue : (⟨{7}, fun _ => ⟨0, some (minutes (30 * 24 * 60)), none⟩⟩ :
      EmailReminderProjection ℕ).dueIds .default (minutes (30 * 24 * 60)) = {7} :=
    Finset.filter_true_of_mem fun _ _ => rfl
  have hAbove : ({7} : Finset ℕ).filter (0 < ·) = {7} := by decide
  refine ⟨by rw [hDue]; decide, by rw [hDue, hAbove], ?_⟩
  exact overlapping_statements_remind_twice (by rw [hDue]; decide) (by decide)
    (by rw [hDue, hAbove]; decide)

end LinkEmailReminders

end Galoy
