/-
  Galoy.Notifications.SettingsRepo

  Concurrent writers of one user's notification settings
  (`notifications/src/user_notification_settings/repo.rs`, `app/mod.rs`,
  `push_executor/mod.rs` and the tables of
  `migrations/20240111102028_notifications_setup.sql`).

  Every App command reads the settings from the primary, runs one command of
  the entity, and persists in one transaction: the settings row
  (`ON CONFLICT DO NOTHING`), then the new events numbered on from the events
  it read.  The push executor reads from a replica, which serves any state the
  primary committed, removes the tokens the messaging service reports stale,
  and persists the same way.  There is no lock and no version column.

  Safety rests on the constraints.  A writer that read a log which has grown
  since numbers its first event with a sequence already taken, and
  `UNIQUE(id, sequence)` aborts it; a first writer whose settings row lost the
  race on `galoy_user_id` inserts events under an id with no row, and the
  foreign key aborts it.  So every committed write extends exactly the log its
  writer read (`SettingsWorld.safe_of_reachable`).
-/

import Galoy.Notifications.UserSettings
import Galoy.Lib.Transition
import Mathlib.Data.List.Sort

namespace Galoy

/-- A row of `user_notification_settings`. -/
structure SettingsRow where
  id : UserNotificationSettingsId
  galoyUserId : GaloyUserId
  deriving DecidableEq, Repr

/-- The two tables; `created_at` and `recorded_at` are not modelled. -/
structure SettingsTables where
  settings : List SettingsRow
  events : List (EventRow UserNotificationSettingsId UserNotificationSettingsEvent)
  deriving DecidableEq, Repr

namespace SettingsTables

/-- The events of settings `id`, in the order they were written. -/
def logOf (db : SettingsTables) (id : UserNotificationSettingsId) :
    List (EventRow UserNotificationSettingsId UserNotificationSettingsEvent) :=
  db.events.filter (·.id = id)

/-- An event row joined with its settings row. -/
def joined (id : UserNotificationSettingsId)
    (r : EventRow UserNotificationSettingsId UserNotificationSettingsEvent) :
    GenericEvent UserNotificationSettingsId UserNotificationSettingsEvent :=
  ⟨id, r.sequence, r.event, 0, 0⟩

@[simp] theorem joined_id (id : UserNotificationSettingsId)
    (r : EventRow UserNotificationSettingsId UserNotificationSettingsEvent) : (joined id r).id = id :=
  rfl

@[simp] theorem joined_sequence (id : UserNotificationSettingsId)
    (r : EventRow UserNotificationSettingsId UserNotificationSettingsEvent) :
    (joined id r).sequence = r.sequence :=
  rfl

@[simp] theorem joined_event (id : UserNotificationSettingsId)
    (r : EventRow UserNotificationSettingsId UserNotificationSettingsEvent) :
    (joined id r).event = r.event :=
  rfl

/-- The query of `find_for_user_id_inner`: the user's settings joined with
    their events, `ORDER BY e.sequence`. -/
def userRows (db : SettingsTables) (userId : GaloyUserId) :
    List (GenericEvent UserNotificationSettingsId UserNotificationSettingsEvent) :=
  ((db.settings.filter (·.galoyUserId = userId)).flatMap fun row =>
      (db.logOf row.id).map (joined row.id)).insertionSort
    fun a b => a.sequence ≤ b.sequence

/-- `find_for_user_id_inner`: the stored settings, or new ones (under the id
    that `new` draws) when the user has no event. -/
def findForUserIdInner (db : SettingsTables) (userId : GaloyUserId)
    (freshId : UserNotificationSettingsId) : Except EntityError UserNotificationSettings :=
  match EntityEvents.loadFirst UserNotificationSettings.tryFrom (db.userRows userId) with
  | .error .NoEntityEventsPresent => UserNotificationSettings.new userId freshId
  | res => res

/-- `find_for_user_id_for_mut`: read from the primary. -/
def findForUserIdForMut (primary : SettingsTables) (userId : GaloyUserId)
    (freshId : UserNotificationSettingsId) : Except EntityError UserNotificationSettings :=
  primary.findForUserIdInner userId freshId

/-- `find_for_user_id`: read from the read pool. -/
def findForUserId (readPool : SettingsTables) (userId : GaloyUserId)
    (freshId : UserNotificationSettingsId) : Except EntityError UserNotificationSettings :=
  readPool.findForUserIdInner userId freshId

/-- `INSERT INTO user_notification_settings ... ON CONFLICT DO NOTHING`: a row
    that clashes with another on `id` or on `galoy_user_id` is not inserted. -/
def insertSettingsRow (db : SettingsTables) (row : SettingsRow) : SettingsTables :=
  if ∃ r ∈ db.settings, r.id = row.id ∨ r.galoyUserId = row.galoyUserId then db
  else { db with settings := db.settings ++ [row] }

/-- One event row: the foreign key and `UNIQUE(id, sequence)` are checked, and
    a failed check aborts the transaction. -/
def insertEventRow (db : SettingsTables)
    (r : EventRow UserNotificationSettingsId UserNotificationSettingsEvent) : Option SettingsTables :=
  if r.id ∈ db.settings.map (·.id) ∧ ∀ r' ∈ db.events, ¬ (r'.id = r.id ∧ r'.sequence = r.sequence)
  then some { db with events := db.events ++ [r] } else none

/-- `persist_in_tx`: the settings row, then `EntityEvents::persist`; `none` when
    the transaction aborts. -/
def persistInTx (db : SettingsTables) (settings : UserNotificationSettings) : Option SettingsTables :=
  settings.events.persistRows.foldlM insertEventRow
    (db.insertSettingsRow ⟨settings.id, settings.galoyUserId⟩)

/-- `persist`: `persist_in_tx` in a transaction of its own. -/
def persist (db : SettingsTables) (settings : UserNotificationSettings) : Option SettingsTables :=
  db.persistInTx settings

end SettingsTables

-- ============================================================================
-- Runs of the App and of the push executor
-- ============================================================================

/-- The push executor's change to the settings it read: each token the
    messaging service reports stale is removed. -/
def removeStaleTokens (settings : UserNotificationSettings) (stale : List PushDeviceToken) :
    UserNotificationSettings :=
  stale.foldl UserNotificationSettings.removePushDeviceToken settings

/-- Where a run is: it read and changed the settings and may persist them, or
    it is over. -/
inductive SettingsRun where
  | pending (settings : UserNotificationSettings) (shouldPersist : Bool)
  | finished
  deriving DecidableEq, Repr

/-- The primary, every state it committed (a replica serves any of them), and
    the runs. -/
structure SettingsWorld where
  db : SettingsTables
  committed : List SettingsTables
  runs : ℕ → Option SettingsRun

inductive SettingsAction where
  /-- An App command: read from the primary and run the command. -/
  | command (run : ℕ) (c : SettingsCommand) (freshId : UserNotificationSettingsId)
  /-- `notify`: read from a replica that serves committed state `replica`; if
      the notification is sent, remove the tokens reported `stale`. -/
  | notify (run : ℕ) (replica : ℕ) (freshId : UserNotificationSettingsId)
      (category : UserNotificationCategory) (stale : List PushDeviceToken)
  /-- The transaction of the run. -/
  | persist (run : ℕ)

namespace SettingsWorld

def initial (db : SettingsTables) : SettingsWorld := ⟨db, [db], fun _ => none⟩

/-- One step of one run of the user's settings. -/
def next (userId : GaloyUserId) (w : SettingsWorld) : SettingsAction → Option SettingsWorld
  | .command i c freshId =>
    if w.runs i = none then
      let run := match w.db.findForUserIdForMut userId freshId with
        | .ok settings => SettingsRun.pending (c.apply settings) true
        | .error _ => SettingsRun.finished
      some { w with runs := Function.update w.runs i (some run) }
    else none
  | .notify i k freshId category stale =>
    match w.runs i, w.committed[k]? with
    | none, some replica =>
      match replica.findForUserId userId freshId with
      | .ok settings =>
        if settings.shouldSendNotification .Push category then
          -- only the tokens it sent to can be reported stale
          if ∀ token ∈ stale, token ∈ settings.pushDeviceTokens then
            let run := SettingsRun.pending (removeStaleTokens settings stale) !stale.isEmpty
            some { w with runs := Function.update w.runs i (some run) }
          else none
        else some { w with runs := Function.update w.runs i (some .finished) }
      | .error _ => some { w with runs := Function.update w.runs i (some .finished) }
    | _, _ => none
  | .persist i =>
    match w.runs i with
    | some (.pending settings true) =>
      match w.db.persist settings with
      | some db' => some ⟨db', w.committed ++ [db'], Function.update w.runs i (some .finished)⟩
      | none => some { w with runs := Function.update w.runs i (some .finished) }
    | some (.pending _ false) => some { w with runs := Function.update w.runs i (some .finished) }
    | _ => none

end SettingsWorld

-- ============================================================================
-- What the constraints keep
-- ============================================================================

namespace SettingsTables

/-- The tables as the writers leave them: the primary key, `UNIQUE` on
    `galoy_user_id`, the foreign key, and every log numbered `1, 2, …` in the
    order of its rows (which gives `UNIQUE(id, sequence)`). -/
structure Consistent (db : SettingsTables) : Prop where
  ids_nodup : (db.settings.map (·.id)).Nodup
  users_nodup : (db.settings.map (·.galoyUserId)).Nodup
  events_ref : ∀ r ∈ db.events, r.id ∈ db.settings.map (·.id)
  numbered : ∀ id, (db.logOf id).map (·.sequence) = List.range' 1 (db.logOf id).length

/-- `db'` holds every row of `db`, and its own rows after them. -/
structure Extends (db db' : SettingsTables) : Prop where
  settings : db.settings <+: db'.settings
  events : db.events <+: db'.events

/-- The settings a run holds were read from a prefix of the current log of
    their entity. -/
def Holds (db : SettingsTables) (settings : UserNotificationSettings) : Prop :=
  settings.events.persistedEvents <+: (db.logOf settings.events.entityId).map (·.event)

variable {db db' db'' : SettingsTables}

theorem Extends.refl (db : SettingsTables) : db.Extends db :=
  ⟨List.prefix_refl _, List.prefix_refl _⟩

theorem Extends.trans (h : db.Extends db') (h' : db'.Extends db'') : db.Extends db'' :=
  ⟨h.settings.trans h'.settings, h.events.trans h'.events⟩

theorem Extends.logOf (h : db.Extends db') (id : UserNotificationSettingsId) :
    db.logOf id <+: db'.logOf id :=
  h.events.filter _

/-- A log only grows, so what a run read stays a prefix of it. -/
theorem Holds.mono {s : UserNotificationSettings} (h : db.Holds s) (hExt : db.Extends db') :
    db'.Holds s :=
  h.trans ((hExt.logOf _).map _)

theorem logOf_of_events_eq
    {rows : List (EventRow UserNotificationSettingsId UserNotificationSettingsEvent)}
    (h : db'.events = db.events ++ rows) (id : UserNotificationSettingsId) :
    db'.logOf id = db.logOf id ++ rows.filter (·.id = id) := by
  simp [logOf, h]

@[simp] theorem insertSettingsRow_events (row : SettingsRow) :
    (db.insertSettingsRow row).events = db.events := by
  unfold insertSettingsRow
  split <;> rfl

theorem insertSettingsRow_extends (row : SettingsRow) : db.Extends (db.insertSettingsRow row) := by
  unfold insertSettingsRow
  split
  · exact Extends.refl db
  · exact ⟨List.prefix_append _ _, List.prefix_refl _⟩

/-- `ON CONFLICT DO NOTHING` keeps both keys unique. -/
theorem insertSettingsRow_consistent (hc : db.Consistent) (row : SettingsRow) :
    (db.insertSettingsRow row).Consistent := by
  unfold insertSettingsRow
  split
  · exact hc
  · rename_i hClash
    push Not at hClash
    refine ⟨?_, ?_, ?_, ?_⟩
    · simpa [List.nodup_append] using
        ⟨hc.ids_nodup, fun r hr hEq => (hClash r hr).1 hEq⟩
    · simpa [List.nodup_append] using
        ⟨hc.users_nodup, fun r hr hEq => (hClash r hr).2 hEq⟩
    · intro r hr
      obtain ⟨r', hr', hId⟩ := List.mem_map.mp (hc.events_ref r hr)
      exact List.mem_map.mpr ⟨r', List.mem_append_left _ hr', hId⟩
    · exact hc.numbered

/-- A row the transaction inserts passed the foreign key and the unique check. -/
theorem insertEventRow_eq_some {r : EventRow UserNotificationSettingsId UserNotificationSettingsEvent}
    (h : db.insertEventRow r = some db') :
    r.id ∈ db.settings.map (·.id) ∧ (∀ r' ∈ db.events, ¬ (r'.id = r.id ∧ r'.sequence = r.sequence)) ∧
      db' = { db with events := db.events ++ [r] } := by
  unfold insertEventRow at h
  split at h
  · rename_i hCheck
    cases h
    exact ⟨hCheck.1, hCheck.2, rfl⟩
  · cases h

/-- The inserts of one transaction, when none aborts: every row is appended,
    and each passed its checks against the rows that were there before. -/
theorem foldlM_insertEventRow_eq_some
    {rows : List (EventRow UserNotificationSettingsId UserNotificationSettingsEvent)}
    (h : rows.foldlM insertEventRow db = some db') :
    db' = { db with events := db.events ++ rows } ∧ (∀ r ∈ rows, r.id ∈ db.settings.map (·.id)) ∧
      ∀ r ∈ rows, ∀ r' ∈ db.events, ¬ (r'.id = r.id ∧ r'.sequence = r.sequence) := by
  induction rows generalizing db with
  | nil =>
    cases h
    simp
  | cons r rows ih =>
    rw [List.foldlM_cons] at h
    cases hFirst : db.insertEventRow r with
    | none => simp [hFirst] at h
    | some mid =>
      rw [hFirst, Option.bind_eq_bind, Option.bind_some] at h
      obtain ⟨hRef, hFresh, rfl⟩ := insertEventRow_eq_some hFirst
      obtain ⟨rfl, hRefs, hFreshs⟩ := ih h
      refine ⟨by simp, ?_, ?_⟩
      · intro r' hr'
        rcases List.mem_cons.mp hr' with rfl | hr'
        · exact hRef
        · exact hRefs r' hr'
      · intro r' hr' r'' hr''
        rcases List.mem_cons.mp hr' with rfl | hr'
        · exact hFresh r'' hr''
        · exact hFreshs r' hr' r'' (List.mem_append_left _ hr'')

/-- A committed `persist`: the settings row unless it clashed, then the rows of
    the new events, each of which passed its checks. -/
theorem persist_eq_some {s : UserNotificationSettings} (h : db.persist s = some db') :
    db'.settings = (db.insertSettingsRow ⟨s.id, s.galoyUserId⟩).settings ∧
      db'.events = db.events ++ s.events.persistRows ∧
      (∀ r ∈ s.events.persistRows, r.id ∈ db'.settings.map (·.id)) ∧
      ∀ r ∈ s.events.persistRows, ∀ r' ∈ db.events, ¬ (r'.id = r.id ∧ r'.sequence = r.sequence) := by
  unfold persist persistInTx at h
  obtain ⟨rfl, hRefs, hFresh⟩ := foldlM_insertEventRow_eq_some h
  exact ⟨rfl, by simp, hRefs, by simpa using hFresh⟩

theorem persist_extends {s : UserNotificationSettings} (h : db.persist s = some db') :
    db.Extends db' := by
  obtain ⟨hSettings, hEvents, -, -⟩ := persist_eq_some h
  refine ⟨?_, ?_⟩
  · rw [hSettings]
    exact (insertSettingsRow_extends _).settings
  · rw [hEvents]
    exact List.prefix_append _ _

/-- After a `persist`, the entity's log has the new rows after its old ones;
    every other log is as it was. -/
theorem logOf_persist {s : UserNotificationSettings} (h : db.persist s = some db')
    (id : UserNotificationSettingsId) :
    db'.logOf id = if s.events.entityId = id then db.logOf id ++ s.events.persistRows else db.logOf id := by
  rw [logOf_of_events_eq (persist_eq_some h).2.1, EntityEvents.filter_persistRows]
  split <;> simp

/-- A row numbered `p + 1` is fresh in a numbered log only if the log has at
    most `p` rows. -/
theorem length_logOf_le_of_fresh (hc : db.Consistent) {id : UserNotificationSettingsId} {p : ℕ}
    (hFresh : ∀ r' ∈ db.events, ¬ (r'.id = id ∧ r'.sequence = p + 1)) :
    (db.logOf id).length ≤ p := by
  by_contra hLong
  have hMem : p + 1 ∈ (db.logOf id).map (·.sequence) := by
    rw [hc.numbered id, List.mem_range'_1]
    omega
  obtain ⟨r', hr', hSeq⟩ := List.mem_map.mp hMem
  obtain ⟨hr'Events, hr'Id⟩ := List.mem_filter.mp hr'
  exact hFresh r' hr'Events ⟨of_decide_eq_true hr'Id, hSeq⟩

/-- The heart of the argument: a `persist` with new events commits only if the
    log of its entity has as many rows as the run read.  Its first row is
    numbered one past what the run read, and `UNIQUE(id, sequence)` rejects it
    when the log has grown since. -/
theorem persist_length_logOf (hc : db.Consistent) {s : UserNotificationSettings} (hHolds : db.Holds s)
    (h : db.persist s = some db') (hNew : s.events.newEvents ≠ []) :
    (db.logOf s.events.entityId).length = s.events.persistedEvents.length := by
  obtain ⟨-, -, -, hFresh⟩ := persist_eq_some h
  have hSeqMem : s.events.persistedEvents.length + 1 ∈ s.events.persistRows.map (·.sequence) := by
    rw [EntityEvents.persistRows_sequence, List.mem_range'_1]
    have := List.length_pos_iff.mpr hNew
    omega
  obtain ⟨first, hFirst, hFirstSeq⟩ := List.mem_map.mp hSeqMem
  have hFirstId := EntityEvents.persistRows_id s.events first hFirst
  have hLe : (db.logOf s.events.entityId).length ≤ s.events.persistedEvents.length :=
    length_logOf_le_of_fresh hc fun r' hr' hClash =>
      hFresh first hFirst r' hr' ⟨hClash.1.trans hFirstId.symm, hClash.2.trans hFirstSeq.symm⟩
  have hGe := hHolds.length_le
  rw [List.length_map] at hGe
  omega

/-- No lost update: a `persist` with new events commits only if the run read
    the whole current log of its entity. -/
theorem persist_read_whole_log (hc : db.Consistent) {s : UserNotificationSettings}
    (hHolds : db.Holds s) (h : db.persist s = some db') (hNew : s.events.newEvents ≠ []) :
    (db.logOf s.events.entityId).map (·.event) = s.events.persistedEvents := by
  have hLength := persist_length_logOf hc hHolds h hNew
  exact (hHolds.eq_of_length (by rw [List.length_map, hLength])).symm

/-- A committed `persist` keeps the tables consistent: the new rows continue
    the numbering of their log. -/
theorem persist_consistent (hc : db.Consistent) {s : UserNotificationSettings} (hHolds : db.Holds s)
    (h : db.persist s = some db') : db'.Consistent := by
  obtain ⟨hSettings, hEvents, hRefs, -⟩ := persist_eq_some h
  have hRow := insertSettingsRow_consistent hc ⟨s.id, s.galoyUserId⟩
  refine ⟨hSettings ▸ hRow.ids_nodup, hSettings ▸ hRow.users_nodup, ?_, ?_⟩
  · intro r hr
    rw [hEvents] at hr
    rcases List.mem_append.mp hr with hr | hr
    · rw [hSettings]
      exact hRow.events_ref r (by simpa using hr)
    · exact hRefs r hr
  · intro id
    rw [logOf_persist h]
    split
    · rename_i hId
      subst hId
      by_cases hNew : s.events.newEvents = []
      · simp [EntityEvents.persistRows, hNew, hc.numbered]
      · -- the new rows are numbered on from the last row of the log
        have hLength := persist_length_logOf hc hHolds h hNew
        rw [List.map_append, hc.numbered, EntityEvents.persistRows_sequence, ← hLength,
          List.length_append, EntityEvents.length_persistRows]
        have hShift := @List.range'_append 1 (db.logOf s.events.entityId).length
          s.events.newEvents.length 1
        rw [Nat.one_mul, Nat.add_comm 1] at hShift
        exact hShift
    · exact hc.numbered id

-- ============================================================================
-- Reading the settings of the user
-- ============================================================================

/-- `UNIQUE(galoy_user_id)`: a user has at most one settings row. -/
theorem filter_user_eq (hc : db.Consistent) (userId : GaloyUserId) :
    db.settings.filter (·.galoyUserId = userId) = [] ∨
      ∃ row, db.settings.filter (·.galoyUserId = userId) = [row] := by
  have hNodup : ((db.settings.filter (·.galoyUserId = userId)).map (·.galoyUserId)).Nodup :=
    hc.users_nodup.sublist ((List.filter_sublist).map _)
  have hReplicate : (db.settings.filter (·.galoyUserId = userId)).map (·.galoyUserId) =
      List.replicate (db.settings.filter (·.galoyUserId = userId)).length userId := by
    rw [List.eq_replicate_iff]
    refine ⟨List.length_map _, fun u hu => ?_⟩
    obtain ⟨row, hRow, rfl⟩ := List.mem_map.mp hu
    exact of_decide_eq_true (List.mem_filter.mp hRow).2
  rw [hReplicate, List.nodup_replicate] at hNodup
  generalize db.settings.filter (·.galoyUserId = userId) = rows at hNodup ⊢
  match rows, hNodup with
  | [], _ => exact .inl rfl
  | [row], _ => exact .inr ⟨row, rfl⟩
  | _ :: _ :: _, hLength => simp at hLength

/-- A numbered log is in `sequence` order, so `ORDER BY e.sequence` keeps it. -/
theorem logOf_sorted (hc : db.Consistent) (id : UserNotificationSettingsId) :
    ((db.logOf id).map (joined id)).Pairwise fun a b => a.sequence ≤ b.sequence := by
  have hLt : ((db.logOf id).map (·.sequence)).Pairwise (· < ·) := by
    rw [hc.numbered id]
    exact List.pairwise_lt_range' 1
  rw [List.pairwise_map] at hLt ⊢
  simp only [joined_sequence]
  exact hLt.imp fun hLess => by omega

/-- The rows the query returns: the log of the user's one settings row, if
    there is one. -/
theorem userRows_eq (hc : db.Consistent) (userId : GaloyUserId) :
    db.userRows userId = [] ∨ ∃ id, db.userRows userId = (db.logOf id).map (joined id) := by
  rcases filter_user_eq hc userId with hNone | ⟨row, hRow⟩
  · left
    simp [userRows, hNone]
  · right
    refine ⟨row.id, ?_⟩
    rw [userRows, hRow, List.flatMap_singleton]
    exact (logOf_sorted hc row.id).insertionSort_eq

/-- `load_first` over a joined log hydrates settings of that entity whose
    persisted events are the whole log. -/
theorem loadFirst_joined {id : UserNotificationSettingsId}
    {log : List (EventRow UserNotificationSettingsId UserNotificationSettingsEvent)}
    {s : UserNotificationSettings}
    (h : EntityEvents.loadFirst UserNotificationSettings.tryFrom (log.map (joined id)) = .ok s) :
    s.events.entityId = id ∧ s.events.persistedEvents = log.map (·.event) := by
  cases log with
  | nil => cases h
  | cons x xs =>
    -- the joined rows are the rows of one entity
    let b : EntityRows UserNotificationSettingsId UserNotificationSettingsEvent :=
      ⟨joined id x, xs.map (joined id), by simp⟩
    have hRows : (x :: xs).map (joined id) = b.toList := rfl
    rw [hRows, EntityEvents.loadFirst_toList] at h
    have hEvents := UserNotificationSettings.tryFrom_events h
    have hNew : b.entityEvents.newEvents = [] := (EntityRows.foldl_addRow b.rest _).2.2
    have hIter := EntityRows.entityEvents_iter b
    rw [EntityEvents.iter, hNew, List.append_nil] at hIter
    refine ⟨by rw [hEvents, EntityRows.entityEvents_entityId, joined_id], ?_⟩
    rw [hEvents, hIter]
    simp [b, EntityRows.toList]

/-- What a read returns was read from a prefix of the log of its entity: the
    whole log of the user's settings row, or no event at all. -/
theorem findForUserIdInner_holds (hc : db.Consistent) {userId : GaloyUserId}
    {freshId : UserNotificationSettingsId} {s : UserNotificationSettings}
    (h : db.findForUserIdInner userId freshId = .ok s) : db.Holds s := by
  unfold findForUserIdInner at h
  split at h
  · -- no event: new settings, with nothing persisted
    rw [UserNotificationSettings.new_eq_ok] at h
    cases h
    exact List.nil_prefix
  · rcases userRows_eq hc userId with hNil | ⟨id, hRows⟩
    · rw [hNil] at h
      cases h
    · rw [hRows] at h
      obtain ⟨hId, hPersisted⟩ := loadFirst_joined h
      unfold Holds
      rw [hId, hPersisted]

end SettingsTables

-- ============================================================================
-- Every interleaving of the runs
-- ============================================================================

namespace SettingsTables

variable {db : SettingsTables} {s : UserNotificationSettings}

/-- A command only appends new events to the settings it is run on. -/
theorem Holds.apply (h : db.Holds s) (c : SettingsCommand) : db.Holds (c.apply s) := by
  obtain ⟨appended, hApply, -⟩ := c.apply_spec s
  rw [hApply]
  exact h

/-- Each stale token is removed by the command that removes a token. -/
theorem Holds.removeStaleTokens (h : db.Holds s) (stale : List PushDeviceToken) :
    db.Holds (removeStaleTokens s stale) := by
  induction stale generalizing s with
  | nil => exact h
  | cons token stale ih => exact ih (h.apply (.removePushDeviceToken token))

end SettingsTables

/-- A run that may still persist holds settings read from a prefix of the
    current logs. -/
def SettingsRun.ReadFrom (db : SettingsTables) : SettingsRun → Prop
  | .pending settings _ => db.Holds settings
  | .finished => True

theorem SettingsRun.ReadFrom.mono {db db' : SettingsTables} {run : SettingsRun}
    (h : run.ReadFrom db) (hExt : db.Extends db') : run.ReadFrom db' := by
  cases run with
  | pending settings _ => exact SettingsTables.Holds.mono h hExt
  | finished => trivial

namespace SettingsWorld

open SettingsTables Transition

/-- What every reachable world keeps: the primary is consistent, so is every
    state it committed (which a replica may serve), the primary extends each of
    them, and every run read a prefix of the current logs. -/
structure Safe (w : SettingsWorld) : Prop where
  consistent : w.db.Consistent
  committed : ∀ db ∈ w.committed, db.Consistent ∧ db.Extends w.db
  runs : ForallProcs w.runs fun _ run => run.ReadFrom w.db

variable {w : SettingsWorld}

theorem Safe.initial {db : SettingsTables} (hc : db.Consistent) : (initial db).Safe := by
  refine ⟨hc, ?_, fun _ _ hRun => by cases hRun⟩
  intro db₀ hMem
  rw [List.mem_singleton.mp hMem]
  exact ⟨hc, Extends.refl db⟩

/-- Starting or ending a run writes no table. -/
theorem Safe.setRun (hw : w.Safe) (i : ℕ) {run : SettingsRun} (hRun : run.ReadFrom w.db) :
    ({ w with runs := Function.update w.runs i (some run) } : SettingsWorld).Safe :=
  ⟨hw.consistent, hw.committed, hw.runs.update hRun fun _ _ _ _ hRead => hRead⟩

/-- A read from the primary, or from a state it committed, is a read of a
    prefix of the current logs. -/
theorem Safe.holds_of_read (hw : w.Safe) {src : SettingsTables} (hSrc : src = w.db ∨ src ∈ w.committed)
    {userId : GaloyUserId} {freshId : UserNotificationSettingsId} {s : UserNotificationSettings}
    (h : src.findForUserIdInner userId freshId = .ok s) : w.db.Holds s := by
  rcases hSrc with rfl | hSrc
  · exact findForUserIdInner_holds hw.consistent h
  · obtain ⟨hc, hExt⟩ := hw.committed src hSrc
    exact (findForUserIdInner_holds hc h).mono hExt

/-- A commit: the primary grows, and every other run still read a prefix of
    its logs. -/
theorem Safe.commit (hw : w.Safe) {i : ℕ} {s : UserNotificationSettings} {db' : SettingsTables}
    (hRun : w.runs i = some (.pending s true)) (h : w.db.persist s = some db') :
    (⟨db', w.committed ++ [db'], Function.update w.runs i (some .finished)⟩ : SettingsWorld).Safe := by
  have hHolds : w.db.Holds s := hw.runs i _ hRun
  have hExt := persist_extends h
  have hc := persist_consistent hw.consistent hHolds h
  refine ⟨hc, ?_, hw.runs.update trivial fun _ _ _ _ hRead => hRead.mono hExt⟩
  intro db₀ hMem
  rcases List.mem_append.mp hMem with hOld | hNew
  · obtain ⟨hc₀, hExt₀⟩ := hw.committed db₀ hOld
    exact ⟨hc₀, hExt₀.trans hExt⟩
  · rw [List.mem_singleton.mp hNew]
    exact ⟨hc, Extends.refl db'⟩

/-- Every step of every run keeps the world safe. -/
theorem Safe.step (hw : w.Safe) {userId : GaloyUserId} {a : SettingsAction} {w' : SettingsWorld}
    (h : next userId w a = some w') : w'.Safe := by
  cases a with
  | command i c freshId =>
    simp only [next] at h
    split at h
    · cases h
      apply hw.setRun i
      split
      · rename_i s hRead
        exact (hw.holds_of_read (.inl rfl) hRead).apply c
      · trivial
    · cases h
  | notify i k freshId category stale =>
    simp only [next] at h
    split at h
    · rename_i replica _ hReplica
      split at h
      · rename_i s hRead
        have hHolds := hw.holds_of_read (.inr (List.mem_of_getElem? hReplica)) hRead
        split at h
        · split at h
          · cases h
            exact hw.setRun i (hHolds.removeStaleTokens stale)
          · cases h
        · cases h
          exact hw.setRun i trivial
      · cases h
        exact hw.setRun i trivial
    · cases h
  | persist i =>
    simp only [next] at h
    split at h
    · rename_i s hRun
      split at h
      · rename_i db' hPersist
        cases h
        exact hw.commit hRun hPersist
      · cases h
        exact hw.setRun i trivial
    · cases h
      exact hw.setRun i trivial
    · cases h

theorem safe_invariant {userId : GaloyUserId} {db : SettingsTables} (hc : db.Consistent) :
    Invariant (next userId) (initial db) Safe :=
  ⟨Safe.initial hc, fun _ _ _ hw h => hw.step h⟩

/-- In every interleaving of App commands and push-executor runs for one user,
    from consistent tables (empty ones included): the tables stay consistent
    (one settings row per user, the foreign key, each log numbered `1, 2, …`),
    the primary keeps every state it committed as a prefix, and a `persist`
    with new events commits only if its run read the whole current log of its
    entity, which it then extends by exactly its new events: no update is lost. -/
theorem safe_of_reachable {userId : GaloyUserId} {db : SettingsTables} {w : SettingsWorld}
    (hInit : db.Consistent) (hReach : Reachable (next userId) (initial db) w) :
    w.db.Consistent ∧ (∀ db₀ ∈ w.committed, db₀.Extends w.db) ∧
      ∀ i settings db', w.runs i = some (.pending settings true) →
        w.db.persist settings = some db' → settings.events.newEvents ≠ [] →
        (w.db.logOf settings.events.entityId).map (·.event) = settings.events.persistedEvents ∧
        (db'.logOf settings.events.entityId).map (·.event) = settings.events.iter := by
  have hw := (safe_invariant hInit).holds hReach
  refine ⟨hw.consistent, fun db₀ hMem => (hw.committed db₀ hMem).2, ?_⟩
  intro i settings db' hRun hPersist hNew
  have hRead := persist_read_whole_log hw.consistent (hw.runs i _ hRun) hPersist hNew
  refine ⟨hRead, ?_⟩
  rw [logOf_persist hPersist, if_pos rfl, List.map_append, hRead, EntityEvents.persistRows_event]
  rfl

/-- Two first commands for a user with no settings race: each draws its own id
    and reads no settings; the first commits, and the second, whose settings
    row loses to the first on `galoy_user_id`, aborts on the foreign key. -/
theorem safe_of_reachable_firstWriters :
    ∃ w, run (next ⟨"user"⟩) (initial ⟨[], []⟩)
        [.command 0 (.disableChannel .Push) ⟨1⟩, .command 1 (.disableCategory .Push .Payments) ⟨2⟩,
          .persist 0, .persist 1] = some w ∧
      w.db.Consistent ∧ (∀ db₀ ∈ w.committed, db₀.Extends w.db) ∧
      ∀ i settings db', w.runs i = some (.pending settings true) →
        w.db.persist settings = some db' → settings.events.newEvents ≠ [] →
        (w.db.logOf settings.events.entityId).map (·.event) = settings.events.persistedEvents ∧
        (db'.logOf settings.events.entityId).map (·.event) = settings.events.iter := by
  obtain ⟨w, hRun⟩ : ∃ w, run (next ⟨"user"⟩) (initial ⟨[], []⟩)
      [.command 0 (.disableChannel .Push) ⟨1⟩, .command 1 (.disableCategory .Push .Payments) ⟨2⟩,
        .persist 0, .persist 1] = some w := ⟨_, rfl⟩
  have hEmpty : SettingsTables.Consistent ⟨[], []⟩ :=
    ⟨List.nodup_nil, List.nodup_nil, (fun _ hr => nomatch hr), fun _ => rfl⟩
  exact ⟨w, hRun, safe_of_reachable hEmpty (reachable_of_run hRun)⟩

end SettingsWorld

end Galoy
