/-
  Galoy.EsEntity.Persist

  Writing an entity's events to the event table of its type
  (`EntityEvents::persist` and `EntityEvents::batch_persist` of
  `lib/es-entity-rs/src/events.rs`), and reading them back with `load_first`.

  The table is the list of its `(id, sequence, event)` rows in the order they
  were written, under the `UNIQUE(id, sequence)` that every event table of the
  repository declares.  `persist` numbers the new events on from the persisted
  ones.  So along any sequence of `push`, `persist` and reloads of one entity,
  from `init` or from a reload of its rows, the rows of its id are its persisted
  events numbered `1, 2, …` (`Numbered`).  No insert is then refused, a persist
  leaves `iter` as it was, and `load_first` reads the persisted events back
  (`numbered_of_reachable`, `persist_and_reload_from_init`).  A batch of
  entities with distinct ids goes in the same way (`batchPersist_ok`).

  The count `persist` returns is read from `new_events` after the swap has
  emptied it, so it is `0` after every insert (`persist_returns_zero`).
-/

import Galoy.EsEntity.Events
import Galoy.Lib.Transition
import Mathlib.Data.List.Sort

namespace Galoy

open Transition

/-- `sqlx::Error` of an insert into an event table. -/
inductive PersistError where
  /-- `UNIQUE(id, sequence)` refused a row. -/
  | UniqueViolation
  deriving DecidableEq, Repr

namespace EventRow

variable {Id T : Type}

/-- What `UNIQUE(id, sequence)` constrains. -/
def key (r : EventRow Id T) : Id × ℕ := (r.id, r.sequence)

/-- A row as `load_first` receives it; the two timestamps are not modelled. -/
def toGenericEvent (r : EventRow Id T) : GenericEvent Id T := ⟨r.id, r.sequence, r.event, 0, 0⟩

@[simp] theorem toGenericEvent_id (r : EventRow Id T) : r.toGenericEvent.id = r.id := rfl

@[simp] theorem toGenericEvent_event (r : EventRow Id T) : r.toGenericEvent.event = r.event := rfl

end EventRow

namespace EventTable

variable {Id T : Type} [DecidableEq Id]

/-- One `INSERT INTO … VALUES` of several rows: refused as a whole when the
    `(id, sequence)` of a row is taken, by the table or by another row of the
    statement. -/
def insertRows (table rows : List (EventRow Id T)) : Except PersistError (List (EventRow Id T)) :=
  if (rows.map EventRow.key).Nodup ∧ ∀ r ∈ rows, r.key ∉ table.map EventRow.key then
    .ok (table ++ rows)
  else .error .UniqueViolation

/-- The rows of entity `id` as the repositories read them for `load_first`:
    `WHERE id = $1 ORDER BY sequence`. -/
def rowsOf (table : List (EventRow Id T)) (id : Id) : List (GenericEvent Id T) :=
  ((table.filter (·.id = id)).insertionSort fun a b => a.sequence ≤ b.sequence).map
    EventRow.toGenericEvent

end EventTable

namespace EntityEvents

variable {Id T : Type} [DecidableEq Id]

/-- `persist`.  The new events are swapped out of the entity first, so they
    leave it whatever the insert does.  With none, `Ok(0)`.  Otherwise their
    rows, numbered on from the persisted events (`persistRows`), go in one
    statement; on success the entity takes the `recorded_at` of the rows and
    appends the events to its persisted ones. -/
def persist (e : EntityEvents Id T) (table : List (EventRow Id T)) (recordedAt : ℕ) :
    EntityEvents Id T × List (EventRow Id T) × Except PersistError ℕ :=
  let events := e.newEvents
  let swapped := { e with newEvents := [] }
  if events.isEmpty then (swapped, table, .ok 0)
  else
    -- `n_persisted` is read from `self.new_events`, which the swap emptied
    let nPersisted := swapped.newEvents.length
    match EventTable.insertRows table e.persistRows with
    | .error err => (swapped, table, .error err)
    | .ok table' =>
      ({ swapped with
          latestEventPersistedAt := some recordedAt
          entityFirstPersistedAt :=
            if swapped.entityFirstPersistedAt.isNone then some recordedAt
            else swapped.entityFirstPersistedAt
          persistedEvents := swapped.persistedEvents ++ events },
        table', .ok nPersisted)

/-- `batch_persist`: the new events of every entity, each numbered on from its
    own persisted events, in one statement.  The entities are consumed. -/
def batchPersist (table : List (EventRow Id T)) (entities : List (EntityEvents Id T)) :
    Except PersistError (List (EventRow Id T)) :=
  EventTable.insertRows table (entities.flatMap fun entity =>
    entity.newEvents.mapIdx fun offset event =>
      ⟨entity.entityId, entity.persistedEvents.length + 1 + offset, event⟩)

end EntityEvents

-- ============================================================================
-- What a persist writes, and what load_first reads
-- ============================================================================

namespace EntityEvents

variable {Id T : Type} {e : EntityEvents Id T} {table : List (EventRow Id T)}

/-- The rows of a persist are numbered above the persisted events. -/
theorem length_lt_sequence_of_mem_persistRows {r : EventRow Id T} (hr : r ∈ e.persistRows) :
    e.persistedEvents.length < r.sequence := by
  have hMem : r.sequence ∈ e.persistRows.map (·.sequence) := List.mem_map_of_mem hr
  rw [persistRows_sequence, List.mem_range'_1] at hMem
  omega

/-- No two rows of a persist share a sequence. -/
theorem persistRows_keys_nodup (e : EntityEvents Id T) :
    (e.persistRows.map EventRow.key).Nodup := by
  apply List.Nodup.of_map Prod.snd
  rw [List.map_map]
  show (e.persistRows.map (·.sequence)).Nodup
  rw [persistRows_sequence]
  exact List.nodup_range'

/-- A row of the table with the key of a row of a persist has the entity's id
    and a sequence above its persisted count. -/
theorem key_mem_of_persistRows {r r' : EventRow Id T} (hr : r ∈ e.persistRows)
    (hKey : r'.key = r.key) : r'.id = e.entityId ∧ e.persistedEvents.length < r'.sequence := by
  have hId : r'.id = e.entityId := (congrArg Prod.fst hKey).trans (persistRows_id e r hr)
  have hSequence : r'.sequence = r.sequence := congrArg Prod.snd hKey
  exact ⟨hId, hSequence ▸ length_lt_sequence_of_mem_persistRows hr⟩

/-- On a table with no row of the entity above its persisted count, the key of
    each row of a persist is free. -/
theorem key_fresh_of_persistRows
    (hBelow : ∀ r ∈ table, r.id = e.entityId → r.sequence ≤ e.persistedEvents.length)
    {r : EventRow Id T} (hr : r ∈ e.persistRows) : r.key ∉ table.map EventRow.key := by
  intro hTaken
  obtain ⟨r', hr', hKey⟩ := List.mem_map.mp hTaken
  obtain ⟨hId, hAbove⟩ := key_mem_of_persistRows hr hKey
  have hLe := hBelow r' hr' hId
  omega

variable [DecidableEq Id]

/-- A table with no row of the entity above its persisted count takes the rows
    of a persist. -/
theorem insertRows_persistRows
    (hBelow : ∀ r ∈ table, r.id = e.entityId → r.sequence ≤ e.persistedEvents.length) :
    EventTable.insertRows table e.persistRows = .ok (table ++ e.persistRows) := by
  unfold EventTable.insertRows
  exact if_pos ⟨persistRows_keys_nodup e, fun r hr => key_fresh_of_persistRows hBelow hr⟩

/-- `persist` on a table with no row of the entity above its persisted count:
    the rows of the new events go in, the entity keeps its events in order with
    none pending, and the count returned is `0`. -/
theorem persist_of_below
    (hBelow : ∀ r ∈ table, r.id = e.entityId → r.sequence ≤ e.persistedEvents.length)
    (recordedAt : ℕ) :
    (e.persist table recordedAt).2 = (table ++ e.persistRows, .ok 0) ∧
      (e.persist table recordedAt).1.entityId = e.entityId ∧
      (e.persist table recordedAt).1.persistedEvents = e.iter ∧
      (e.persist table recordedAt).1.newEvents = [] := by
  unfold persist
  dsimp only
  by_cases hNone : e.newEvents.isEmpty = true
  · -- nothing new: no row, and the events stay where they are
    have hNil : e.newEvents = [] := List.isEmpty_iff.mp hNone
    simp [persistRows, hNil, iter]
  · rw [if_neg hNone, insertRows_persistRows hBelow]
    exact ⟨rfl, rfl, rfl, rfl⟩

/-- `load_first` over the rows of one entity, in the order given: the entity
    holds their events, all persisted; with no row, `NoEntityEventsPresent`. -/
theorem loadFirst_sameId {id : Id} {log : List (EventRow Id T)} (hId : ∀ r ∈ log, r.id = id) :
    (log = [] ∧ loadFirst Except.ok (log.map EventRow.toGenericEvent) =
        (.error .NoEntityEventsPresent : Except EntityError (EntityEvents Id T))) ∨
      ∃ e', loadFirst Except.ok (log.map EventRow.toGenericEvent) = .ok e' ∧
        e'.entityId = id ∧ e'.persistedEvents = log.map (·.event) ∧ e'.newEvents = [] := by
  cases log with
  | nil => exact .inl ⟨rfl, rfl⟩
  | cons r rest =>
    -- the rows of one entity: its first row and the rest
    let b : EntityRows Id T := ⟨r.toGenericEvent, rest.map EventRow.toGenericEvent, by
      intro g hg
      obtain ⟨r', hr', rfl⟩ := List.mem_map.mp hg
      simp [hId r' (List.mem_cons_of_mem r hr'), hId r List.mem_cons_self]⟩
    have hRows : (r :: rest).map EventRow.toGenericEvent = b.toList := rfl
    have hNew : b.entityEvents.newEvents = [] := (EntityRows.foldl_addRow b.rest _).2.2
    have hIter := EntityRows.entityEvents_iter b
    rw [iter, hNew, List.append_nil] at hIter
    refine .inr ⟨b.entityEvents, by rw [hRows, loadFirst_toList], ?_, ?_, hNew⟩
    · rw [EntityRows.entityEvents_entityId]
      exact hId r List.mem_cons_self
    · rw [hIter]
      simp [b, EntityRows.toList]

/-- `batch_persist` numbers each entity's new events as `persist` does. -/
theorem batchPersist_eq (table : List (EventRow Id T)) (entities : List (EntityEvents Id T)) :
    batchPersist table entities = EventTable.insertRows table (entities.flatMap persistRows) :=
  rfl

/-- Among entities with distinct ids, the rows a batch writes for the id of one
    of them are that entity's. -/
theorem filter_flatMap_persistRows {entities : List (EntityEvents Id T)}
    (hDistinct : entities.Pairwise fun e e' => e.entityId ≠ e'.entityId) (he : e ∈ entities) :
    (entities.flatMap persistRows).filter (·.id = e.entityId) = e.persistRows := by
  induction entities with
  | nil => cases he
  | cons e' entities ih =>
    obtain ⟨hHead, hTail⟩ := List.pairwise_cons.mp hDistinct
    rw [List.flatMap_cons, List.filter_append, filter_persistRows]
    rcases List.mem_cons.mp he with rfl | he
    · -- `e` heads the batch, and no later entity has its id
      rw [if_pos rfl, List.filter_eq_nil_iff.mpr, List.append_nil]
      intro r hr
      obtain ⟨e'', he'', hr''⟩ := List.mem_flatMap.mp hr
      simpa [persistRows_id e'' r hr''] using (hHead e'' he'').symm
    · rw [if_neg (hHead e he), ih hTail he, List.nil_append]

/-- A batch of entities with distinct ids, none of which has a row above its
    persisted count, goes in; the id of each then has its old rows followed by
    the rows its own `persist` would write. -/
theorem batchPersist_ok {entities : List (EntityEvents Id T)} (hIds : (entities.map entityId).Nodup)
    (hBelow : ∀ e ∈ entities, ∀ r ∈ table, r.id = e.entityId →
      r.sequence ≤ e.persistedEvents.length) :
    batchPersist table entities = .ok (table ++ entities.flatMap persistRows) ∧
      ∀ e ∈ entities, (table ++ entities.flatMap persistRows).filter (·.id = e.entityId) =
        table.filter (·.id = e.entityId) ++ e.persistRows := by
  have hDistinct : entities.Pairwise fun e e' => e.entityId ≠ e'.entityId :=
    List.pairwise_map.mp hIds
  refine ⟨?_, fun e he => by rw [List.filter_append, filter_flatMap_persistRows hDistinct he]⟩
  rw [batchPersist_eq]
  unfold EventTable.insertRows
  refine if_pos ⟨?_, fun r hr => ?_⟩
  · -- rows of one entity differ in sequence, rows of two entities in id
    rw [List.map_flatMap]
    refine List.nodup_flatMap.mpr
      ⟨fun e _ => persistRows_keys_nodup e, hDistinct.imp fun hNe => ?_⟩
    intro k hk hk'
    obtain ⟨r, hr, rfl⟩ := List.mem_map.mp hk
    obtain ⟨r', hr', hKey⟩ := List.mem_map.mp hk'
    have hSame : r'.id = r.id := congrArg Prod.fst hKey
    exact hNe ((persistRows_id _ r hr).symm.trans (hSame.symm.trans (persistRows_id _ r' hr')))
  · obtain ⟨e, he, hr⟩ := List.mem_flatMap.mp hr
    exact key_fresh_of_persistRows (hBelow e he) hr

/-- Two new entities persisted in one batch on an empty table. -/
theorem twoEntities_batchPersist_ok :
    batchPersist [] [init (1 : ℕ) ["created"], init 2 ["created"]] =
      .ok ([] ++ [init (1 : ℕ) ["created"], init 2 ["created"]].flatMap persistRows) :=
  (batchPersist_ok (by decide) (by simp)).1

end EntityEvents

namespace EventTable

variable {Id T : Type} [DecidableEq Id]

theorem id_of_mem_filter (table : List (EventRow Id T)) (id : Id) :
    ∀ r ∈ table.filter (·.id = id), r.id = id := fun _ hr => by
  simpa using (List.mem_filter.mp hr).2

/-- A log numbered `1, 2, …` is in `sequence` order, so `ORDER BY sequence`
    keeps it. -/
theorem rowsOf_of_numbered {table : List (EventRow Id T)} {id : Id} {n : ℕ}
    (hLog : (table.filter (·.id = id)).map (·.sequence) = List.range' 1 n) :
    rowsOf table id = (table.filter (·.id = id)).map EventRow.toGenericEvent := by
  have hLt : ((table.filter (·.id = id)).map (·.sequence)).Pairwise (· < ·) := by
    rw [hLog]
    exact List.pairwise_lt_range' 1
  rw [List.pairwise_map] at hLt
  unfold rowsOf
  rw [(hLt.imp fun hLess => Nat.le_of_lt hLess).insertionSort_eq]

end EventTable

-- ============================================================================
-- One entity and its table
-- ============================================================================

/-- One entity in memory and the event table of its type. -/
structure EntityStore (Id T : Type) where
  entity : EntityEvents Id T
  table : List (EventRow Id T)

/-- What a caller does with the entity. -/
inductive EntityCall (T : Type) where
  | push (event : T)
  /-- `persist`, with the `recorded_at` the database stamps its rows with -/
  | persist (recordedAt : ℕ)
  /-- the entity is dropped and rebuilt by `load_first` from its rows -/
  | reload

/-- The events a list of calls pushes, in order. -/
def EntityCall.pushed {T : Type} (calls : List (EntityCall T)) : List T :=
  calls.filterMap fun
    | .push event => some event
    | _ => none

namespace EntityStore

variable {Id T : Type} [DecidableEq Id]

/-- One call on the entity; a reload of an entity with no row is refused
    (`NoEntityEventsPresent`). -/
def next (s : EntityStore Id T) : EntityCall T → Option (EntityStore Id T)
  | .push event => some { s with entity := s.entity.push event }
  | .persist recordedAt =>
    -- the count goes back to the caller; the entity and the table stay
    let result := s.entity.persist s.table recordedAt
    some ⟨result.1, result.2.1⟩
  | .reload =>
    match EntityEvents.loadFirst Except.ok (EventTable.rowsOf s.table s.entity.entityId) with
    | .ok entity => some { s with entity := entity }
    | .error _ => none

/-- The rows of the entity's id, in the order they were written, are its
    persisted events numbered `1, 2, …`. -/
structure Numbered (s : EntityStore Id T) : Prop where
  sequences : (s.table.filter (·.id = s.entity.entityId)).map (·.sequence) =
    List.range' 1 s.entity.persistedEvents.length
  events : (s.table.filter (·.id = s.entity.entityId)).map (·.event) = s.entity.persistedEvents

-- ============================================================================
-- Every run keeps the rows numbered
-- ============================================================================

variable {s s' s0 : EntityStore Id T}

/-- No row of the entity's id lies above its persisted count. -/
theorem Numbered.sequence_le (h : s.Numbered) {r : EventRow Id T} (hr : r ∈ s.table)
    (hId : r.id = s.entity.entityId) : r.sequence ≤ s.entity.persistedEvents.length := by
  have hMem : r.sequence ∈ (s.table.filter (·.id = s.entity.entityId)).map (·.sequence) :=
    List.mem_map_of_mem (List.mem_filter.mpr ⟨hr, by simpa using hId⟩)
  rw [h.sequences, List.mem_range'_1] at hMem
  omega

/-- `persist` in a numbered state: the rows of the new events go in, `Ok(0)`
    comes back, and the entity keeps its events in order with none pending. -/
theorem Numbered.persist_spec (h : s.Numbered) (recordedAt : ℕ) :
    (s.entity.persist s.table recordedAt).2 = (s.table ++ s.entity.persistRows, .ok 0) ∧
      (s.entity.persist s.table recordedAt).1.entityId = s.entity.entityId ∧
      (s.entity.persist s.table recordedAt).1.persistedEvents = s.entity.iter ∧
      (s.entity.persist s.table recordedAt).1.newEvents = [] :=
  EntityEvents.persist_of_below (fun _ hr hId => h.sequence_le hr hId) recordedAt

/-- A new entity whose id has no row yet. -/
theorem numbered_init (id : Id) (initialEvents : List T) {table : List (EventRow Id T)}
    (hFresh : ∀ r ∈ table, r.id ≠ id) :
    (⟨EntityEvents.init id initialEvents, table⟩ : EntityStore Id T).Numbered := by
  have hNone : table.filter (·.id = id) = [] :=
    List.filter_eq_nil_iff.mpr fun r hr => by simpa using hFresh r hr
  refine ⟨?_, ?_⟩
  · show (table.filter (·.id = id)).map (·.sequence) = List.range' 1 0
    rw [hNone]
    rfl
  · show (table.filter (·.id = id)).map (·.event) = []
    rw [hNone]
    rfl

/-- An entity rebuilt by `load_first` from the rows of its id, numbered
    `1, 2, …`. -/
theorem numbered_loadFirst {table : List (EventRow Id T)} {id : Id} {n : ℕ}
    (hLog : (table.filter (·.id = id)).map (·.sequence) = List.range' 1 n) {e : EntityEvents Id T}
    (hLoad : EntityEvents.loadFirst Except.ok (EventTable.rowsOf table id) = .ok e) :
    (⟨e, table⟩ : EntityStore Id T).Numbered := by
  rw [EventTable.rowsOf_of_numbered hLog] at hLoad
  rcases EntityEvents.loadFirst_sameId (EventTable.id_of_mem_filter table id) with
    ⟨-, hErr⟩ | ⟨e', hOk, hId', hPersisted, -⟩
  · rw [hErr] at hLoad
    cases hLoad
  · rw [hOk] at hLoad
    have hEq : e' = e := Except.ok.inj hLoad
    rw [hEq] at hId' hPersisted
    -- as many persisted events as rows, and the rows are numbered up to that
    have hLength : n = e.persistedEvents.length := by
      rw [hPersisted, List.length_map, ← List.length_range' (s := 1) (n := n), ← hLog,
        List.length_map]
    refine ⟨?_, ?_⟩
    · show (table.filter (·.id = e.entityId)).map (·.sequence) = _
      rw [hId', hLog, hLength]
    · show (table.filter (·.id = e.entityId)).map (·.event) = _
      rw [hId', hPersisted]

theorem Numbered.push (h : s.Numbered) (event : T) :
    ({ s with entity := s.entity.push event } : EntityStore Id T).Numbered :=
  ⟨h.sequences, h.events⟩

/-- A persist appends the rows of the new events, numbered on. -/
theorem Numbered.persist (h : s.Numbered) (recordedAt : ℕ) :
    (⟨(s.entity.persist s.table recordedAt).1, (s.entity.persist s.table recordedAt).2.1⟩ :
      EntityStore Id T).Numbered := by
  obtain ⟨hResult, hId, hPersisted, -⟩ := h.persist_spec recordedAt
  have hTable : (s.entity.persist s.table recordedAt).2.1 = s.table ++ s.entity.persistRows :=
    congrArg Prod.fst hResult
  -- the rows of the id: the old ones, then those of the new events
  have hRows : (s.entity.persist s.table recordedAt).2.1.filter
      (·.id = (s.entity.persist s.table recordedAt).1.entityId) =
      s.table.filter (·.id = s.entity.entityId) ++ s.entity.persistRows := by
    rw [hTable, hId, List.filter_append, EntityEvents.filter_persistRows, if_pos rfl]
  refine ⟨?_, ?_⟩
  · show List.map _ ((s.entity.persist s.table recordedAt).2.1.filter _) = _
    have hStart : s.entity.persistedEvents.length + 1 = 1 + s.entity.persistedEvents.length :=
      Nat.add_comm _ _
    rw [hRows, List.map_append, h.sequences, EntityEvents.persistRows_sequence, hStart,
      List.range'_append_1, hPersisted, EntityEvents.iter, List.length_append]
  · show List.map _ ((s.entity.persist s.table recordedAt).2.1.filter _) = _
    rw [hRows, List.map_append, h.events, EntityEvents.persistRows_event, hPersisted,
      EntityEvents.iter]

/-- Every call keeps the rows numbered. -/
theorem Numbered.step (h : s.Numbered) {call : EntityCall T} (hStep : s.next call = some s') :
    s'.Numbered := by
  cases call with
  | push event =>
    cases hStep
    exact h.push event
  | persist recordedAt =>
    cases hStep
    exact h.persist recordedAt
  | reload =>
    -- a reload that succeeded rebuilt the entity from the rows of its id
    simp only [next] at hStep
    split at hStep
    · rename_i e hLoad
      cases hStep
      exact numbered_loadFirst h.sequences hLoad
    · cases hStep

/-- From `init` on a table with no row of the id, or from a reload of rows
    numbered `1, 2, …`, every run keeps the rows numbered. -/
theorem numbered_of_reachable (h0 : s0.Numbered) (h : Reachable next s0 s) : s.Numbered :=
  Invariant.holds ⟨h0, fun _ _ _ hs hStep => hs.step hStep⟩ h

-- ============================================================================
-- What the calls give back
-- ============================================================================

/-- A persist leaves the events of the entity as they were, in order. -/
theorem Numbered.iter_persist (h : s.Numbered) (recordedAt : ℕ) :
    (s.entity.persist s.table recordedAt).1.iter = s.entity.iter := by
  obtain ⟨-, -, hPersisted, hNew⟩ := h.persist_spec recordedAt
  rw [EntityEvents.iter, hPersisted, hNew, List.append_nil]

/-- Without a reload, a run appends the events it pushes, in push order: a
    persist moves events to the table but keeps their order. -/
theorem iter_run (h : s.Numbered) {calls : List (EntityCall T)}
    (hNoReload : EntityCall.reload ∉ calls) (hRun : run next s calls = some s') :
    s'.entity.iter = s.entity.iter ++ EntityCall.pushed calls := by
  induction calls generalizing s with
  | nil =>
    cases hRun
    simp [EntityCall.pushed]
  | cons call calls ih =>
    rw [run_cons] at hRun
    obtain ⟨s₁, hStep, hRest⟩ := Option.bind_eq_some_iff.mp hRun
    rw [ih (h.step hStep) (fun hMem => hNoReload (List.mem_cons_of_mem _ hMem)) hRest]
    cases call with
    | push event =>
      cases hStep
      simp [EntityCall.pushed]
    | persist recordedAt =>
      cases hStep
      rw [h.iter_persist recordedAt]
      simp [EntityCall.pushed]
    | reload => exact absurd List.mem_cons_self hNoReload

/-- In every state a run reaches, `persist` inserts one row per new event, and
    returns `Ok(0)`. -/
theorem persist_returns_zero (h0 : s0.Numbered) (hReach : Reachable next s0 s) (recordedAt : ℕ) :
    (s.entity.persist s.table recordedAt).2.1 = s.table ++ s.entity.persistRows ∧
      s.entity.persistRows.length = s.entity.newEvents.length ∧
      (s.entity.persist s.table recordedAt).2.2 = .ok 0 := by
  obtain ⟨hResult, -⟩ := (numbered_of_reachable h0 hReach).persist_spec recordedAt
  exact ⟨congrArg Prod.fst hResult, EntityEvents.length_persistRows _,
    congrArg Prod.snd hResult⟩

/-- `load_first` over the rows of the entity's id, `ORDER BY sequence`, reads
    back exactly its persisted events; with none, `NoEntityEventsPresent`. -/
theorem Numbered.loadFirst_rowsOf (h : s.Numbered) :
    (s.entity.persistedEvents = [] ∧
        EntityEvents.loadFirst Except.ok (EventTable.rowsOf s.table s.entity.entityId) =
          (.error .NoEntityEventsPresent : Except EntityError (EntityEvents Id T))) ∨
      ∃ e, EntityEvents.loadFirst Except.ok (EventTable.rowsOf s.table s.entity.entityId) =
        .ok e ∧ e.iter = s.entity.persistedEvents := by
  rw [EventTable.rowsOf_of_numbered h.sequences]
  rcases EntityEvents.loadFirst_sameId (EventTable.id_of_mem_filter s.table s.entity.entityId) with
    ⟨hNil, hErr⟩ | ⟨e, hOk, -, hPersisted, hNew⟩
  · refine .inl ⟨?_, hErr⟩
    rw [← h.events, hNil, List.map_nil]
  · refine .inr ⟨e, hOk, ?_⟩
    rw [EntityEvents.iter, hPersisted, hNew, List.append_nil, h.events]

/-- Along every run of `push`, `persist` and reloads of an entity that `init`
    created on a table with no row of its id: each persist inserts one row per
    new event and returns `Ok(0)`, calls with no reload append what they push to
    `iter`, and `load_first` over the id's rows reads back the persisted events,
    or `NoEntityEventsPresent` when there are none. -/
theorem persist_and_reload_from_init (id : Id) (initialEvents : List T)
    {table : List (EventRow Id T)} (hFresh : ∀ r ∈ table, r.id ≠ id)
    (hReach : Reachable next ⟨EntityEvents.init id initialEvents, table⟩ s) :
    (∀ recordedAt, (s.entity.persist s.table recordedAt).2.1 = s.table ++ s.entity.persistRows ∧
      s.entity.persistRows.length = s.entity.newEvents.length ∧
      (s.entity.persist s.table recordedAt).2.2 = .ok 0) ∧
    (∀ (calls : List (EntityCall T)) (s' : EntityStore Id T), EntityCall.reload ∉ calls →
      run next s calls = some s' → s'.entity.iter = s.entity.iter ++ EntityCall.pushed calls) ∧
    ((s.entity.persistedEvents = [] ∧
        EntityEvents.loadFirst Except.ok (EventTable.rowsOf s.table s.entity.entityId) =
          (.error .NoEntityEventsPresent : Except EntityError (EntityEvents Id T))) ∨
      ∃ e, EntityEvents.loadFirst Except.ok (EventTable.rowsOf s.table s.entity.entityId) =
        .ok e ∧ e.iter = s.entity.persistedEvents) := by
  have h0 := numbered_init id initialEvents hFresh
  -- every state of the run keeps the rows of the id numbered `1, 2, …`
  have hs := numbered_of_reachable h0 hReach
  exact ⟨persist_returns_zero h0 hReach, fun _ _ hNoReload hRun => iter_run hs hNoReload hRun,
    hs.loadFirst_rowsOf⟩

/-- An entity created with one event, persisted, given a second event, persisted
    again and reloaded. -/
theorem createdThenPaid_persist_and_reload :
    ∃ s, run next ⟨EntityEvents.init (7 : ℕ) ["created"], []⟩
        [.persist 1, .push "paid", .persist 2, .reload] = some s ∧
      (∀ recordedAt, (s.entity.persist s.table recordedAt).2.1 = s.table ++ s.entity.persistRows ∧
        s.entity.persistRows.length = s.entity.newEvents.length ∧
        (s.entity.persist s.table recordedAt).2.2 = .ok 0) ∧
      (∀ (calls : List (EntityCall String)) (s' : EntityStore ℕ String),
        EntityCall.reload ∉ calls →
        run next s calls = some s' → s'.entity.iter = s.entity.iter ++ EntityCall.pushed calls) ∧
      ((s.entity.persistedEvents = [] ∧
          EntityEvents.loadFirst Except.ok (EventTable.rowsOf s.table s.entity.entityId) =
            (.error .NoEntityEventsPresent : Except EntityError (EntityEvents ℕ String))) ∨
        ∃ e, EntityEvents.loadFirst Except.ok (EventTable.rowsOf s.table s.entity.entityId) =
          .ok e ∧ e.iter = s.entity.persistedEvents) := by
  obtain ⟨s, hRun⟩ : ∃ s, run next ⟨EntityEvents.init (7 : ℕ) ["created"], []⟩
      [.persist 1, .push "paid", .persist 2, .reload] = some s := ⟨_, rfl⟩
  exact ⟨s, hRun, persist_and_reload_from_init 7 ["created"] (by simp) (reachable_of_run hRun)⟩

end EntityStore

/-- A new entity with one initial event, persisted into an empty table: one
    row goes in, numbered `1`, and `persist` returns `Ok(0)`. -/
theorem persist_init_returns_zero :
    (EntityEvents.init (7 : ℕ) ["created"]).persist [] 1 =
      (⟨some 1, some 1, 7, ["created"], []⟩, [⟨7, 1, "created"⟩], .ok 0) :=
  rfl

end Galoy
