/-
  Galoy.EsEntity.Events

  The event store of an entity (`lib/es-entity-rs/src/events.rs`).

  An entity is its list of events: those loaded from (or already written to)
  its event table, `persistedEvents`, and those its commands pushed since,
  `newEvents`.  Every query of an entity folds over the two in that order
  (`iter`), so what a command does is fully described by the events it pushes
  at the end.
-/

import Mathlib.Data.List.Chain
import Galoy.Lib.Except

namespace Galoy

/-- `EntityError`.  Rows are modelled with their events already decoded, so the
    `LoadEvent` case of a failed deserialisation does not arise. -/
inductive EntityError where
  | NoEntityEventsPresent
  | UninitializedFieldError (field : String)
  deriving DecidableEq, Repr

/-- `EntityEvents<T>` of an entity with identifiers in `Id`; the timestamps are
    the `recorded_at` times of the event rows. -/
structure EntityEvents (Id T : Type) where
  entityFirstPersistedAt : Option ℕ
  latestEventPersistedAt : Option ℕ
  entityId : Id
  persistedEvents : List T
  newEvents : List T
  deriving DecidableEq, Repr

/-- `GenericEvent`: one row of an event table, joined with the `created_at` of
    its entity. -/
structure GenericEvent (Id T : Type) where
  id : Id
  sequence : ℤ
  event : T
  entityCreatedAt : ℕ
  eventRecordedAt : ℕ
  deriving DecidableEq, Repr

namespace EntityEvents

variable {Id T : Type}

/-- A new entity: nothing persisted, its initial events pending. -/
def init (id : Id) (initialEvents : List T) : EntityEvents Id T :=
  { entityFirstPersistedAt := none
    latestEventPersistedAt := none
    entityId := id
    persistedEvents := []
    newEvents := initialEvents }

def push (e : EntityEvents Id T) (event : T) : EntityEvents Id T :=
  { e with newEvents := e.newEvents ++ [event] }

/-- The events in order: the persisted ones, then the new ones. -/
def iter (e : EntityEvents Id T) : List T := e.persistedEvents ++ e.newEvents

-- ============================================================================
-- What `push` and `init` do to the log
-- ============================================================================

@[simp] theorem iter_init (id : Id) (initialEvents : List T) :
    (init id initialEvents).iter = initialEvents := rfl

@[simp] theorem iter_push (e : EntityEvents Id T) (event : T) :
    (e.push event).iter = e.iter ++ [event] := by
  simp only [iter, push, List.append_assoc]

-- ============================================================================
-- Loading entities from event rows
-- ============================================================================

/-- The entity that a first row opens, before the row's event is read. -/
def ofRow (e : GenericEvent Id T) : EntityEvents Id T :=
  { entityFirstPersistedAt := some e.entityCreatedAt
    latestEventPersistedAt := none
    entityId := e.id
    persistedEvents := []
    newEvents := [] }

/-- The entity with one more row read. -/
def addRow (cur : EntityEvents Id T) (e : GenericEvent Id T) : EntityEvents Id T :=
  { cur with
    latestEventPersistedAt := some e.eventRecordedAt
    persistedEvents := cur.persistedEvents ++ [e.event] }

section LoadN

variable {E : Type} [DecidableEq Id] (tryFrom : EntityEvents Id T → Except EntityError E) (n : ℕ)

/-- The loop of `load_n`, from the entities built so far and the one being read
    (`current`; the source's `current_id` is its `entityId`).  A row of another
    id closes the current entity; when that makes `n` entities the loop stops
    and reports that there is more. -/
def loadNLoop : List E → Option (EntityEvents Id T) → List (GenericEvent Id T) →
    Except EntityError (List E × Bool)
  | ret, none, [] => .ok (ret, false)
  | ret, some current, [] => do
    let entity ← tryFrom current
    pure (ret ++ [entity], false)
  | ret, none, e :: events => loadNLoop ret (some ((ofRow e).addRow e)) events
  | ret, some current, e :: events =>
    if current.entityId = e.id then loadNLoop ret (some (current.addRow e)) events
    else do
      let entity ← tryFrom current
      if (ret ++ [entity]).length = n then pure (ret ++ [entity], true)
      else loadNLoop (ret ++ [entity]) (some ((ofRow e).addRow e)) events

/-- `load_n`: the first `n` entities of rows grouped by entity, and whether a
    row of one more entity was seen. -/
def loadN (events : List (GenericEvent Id T)) (n : ℕ) : Except EntityError (List E × Bool) :=
  loadNLoop tryFrom n [] none events

/-- The loop of `load_first`: read rows while they carry the id of the first. -/
def loadFirstLoop : Option (EntityEvents Id T) → List (GenericEvent Id T) → Option (EntityEvents Id T)
  | current, [] => current
  | none, e :: events => loadFirstLoop (some ((ofRow e).addRow e)) events
  | some current, e :: events =>
    if current.entityId = e.id then loadFirstLoop (some (current.addRow e)) events else some current

/-- `load_first`: the entity of the first rows, `NoEntityEventsPresent` when
    there is no row. -/
def loadFirst (events : List (GenericEvent Id T)) : Except EntityError E :=
  match loadFirstLoop none events with
  | some current => tryFrom current
  | none => .error .NoEntityEventsPresent

end LoadN

end EntityEvents

-- ============================================================================
-- The rows of consecutive entities
-- ============================================================================

/-- The rows of one entity in order: its first row and those after it, all
    with its id. -/
structure EntityRows (Id T : Type) where
  first : GenericEvent Id T
  rest : List (GenericEvent Id T)
  rest_id : ∀ e ∈ rest, e.id = first.id

namespace EntityRows

variable {Id T : Type}

def toList (b : EntityRows Id T) : List (GenericEvent Id T) := b.first :: b.rest

/-- The entity that `load_n` reads from these rows. -/
def entityEvents (b : EntityRows Id T) : EntityEvents Id T :=
  b.rest.foldl EntityEvents.addRow ((EntityEvents.ofRow b.first).addRow b.first)

/-- The first row and the `k` after it. -/
def take (b : EntityRows Id T) (k : ℕ) : EntityRows Id T :=
  ⟨b.first, b.rest.take k, fun e he => b.rest_id e (List.mem_of_mem_take he)⟩

@[simp] theorem take_first (b : EntityRows Id T) (k : ℕ) : (b.take k).first = b.first := rfl

/-- The rows of consecutive entities cut after `L` rows: whole entities, then
    the beginning of one more. -/
def takeRows : ℕ → List (EntityRows Id T) → List (EntityRows Id T)
  | 0, _ => []
  | _, [] => []
  | L + 1, b :: bs => b.take L :: takeRows (L - b.rest.length) bs

@[simp] theorem takeRows_zero (bs : List (EntityRows Id T)) : takeRows 0 bs = [] := by
  cases bs <;> rfl

@[simp] theorem takeRows_nil (L : ℕ) : takeRows L ([] : List (EntityRows Id T)) = [] := by
  cases L <;> rfl

theorem takeRows_succ_cons (L : ℕ) (b : EntityRows Id T) (bs : List (EntityRows Id T)) :
    takeRows (L + 1) (b :: bs) = b.take L :: takeRows (L - b.rest.length) bs :=
  rfl

theorem flatMap_takeRows (L : ℕ) (bs : List (EntityRows Id T)) :
    (takeRows L bs).flatMap toList = (bs.flatMap toList).take L := by
  induction bs generalizing L with
  | nil => cases L <;> rfl
  | cons b bs ih =>
    cases L with
    | zero => rfl
    | succ L =>
      -- the cut falls inside `b`'s later rows, or past them by `L - b.rest.length`
      simp only [takeRows_succ_cons, List.flatMap_cons, toList, take, List.cons_append,
        List.take_succ_cons, List.take_append, ih]

/-- Each entity of a cut is the beginning of an entity before the cut. -/
theorem mem_takeRows {L : ℕ} {bs : List (EntityRows Id T)} {b : EntityRows Id T}
    (hb : b ∈ takeRows L bs) : ∃ b' ∈ bs, ∃ k, b = b'.take k := by
  induction bs generalizing L with
  | nil => simp at hb
  | cons b' bs ih =>
    cases L with
    | zero => simp at hb
    | succ L =>
      rcases List.mem_cons.mp hb with rfl | hb
      · exact ⟨b', List.mem_cons_self, L, rfl⟩
      · obtain ⟨b'', hb'', k, rfl⟩ := ih hb
        exact ⟨b'', List.mem_cons_of_mem b' hb'', k, rfl⟩

/-- Entities of one row each are never cut: the cut keeps the first `L`. -/
theorem takeRows_of_rest_nil (L : ℕ) (bs : List (EntityRows Id T)) (hOne : ∀ b ∈ bs, b.rest = []) :
    takeRows L bs = bs.take L := by
  induction bs generalizing L with
  | nil => cases L <;> rfl
  | cons b bs ih =>
    cases L with
    | zero => rfl
    | succ L =>
      have hb : b.take L = b := by
        obtain ⟨first, rest, hRest⟩ := b
        have hNil : rest = [] := hOne _ List.mem_cons_self
        subst hNil
        simp [take]
      have hTail : ∀ b' ∈ bs, b'.rest = [] := fun b' h => hOne b' (List.mem_cons_of_mem b h)
      rw [takeRows_succ_cons, hb, hOne b List.mem_cons_self, List.length_nil, Nat.sub_zero, ih L hTail,
        List.take_succ_cons]

/-- A cut keeps the first entities in order: their first rows are a prefix. -/
theorem takeRows_prefix (L : ℕ) (bs : List (EntityRows Id T)) :
    ((takeRows L bs).map (·.first)) <+: (bs.map (·.first)) := by
  induction bs generalizing L with
  | nil => simp
  | cons b bs ih =>
    cases L with
    | zero => simp
    | succ L =>
      simp only [takeRows_succ_cons, List.map_cons, take_first]
      exact (List.prefix_cons_inj b.first).mpr (ih _)

/-- Reading rows keeps the id and the pending events, and appends the rows'
    events to the persisted ones. -/
theorem foldl_addRow (rows : List (GenericEvent Id T)) (cur : EntityEvents Id T) :
    (rows.foldl EntityEvents.addRow cur).entityId = cur.entityId ∧
    (rows.foldl EntityEvents.addRow cur).persistedEvents =
      cur.persistedEvents ++ rows.map (·.event) ∧
    (rows.foldl EntityEvents.addRow cur).newEvents = cur.newEvents := by
  induction rows generalizing cur with
  | nil => simp
  | cons e rows ih =>
    obtain ⟨hId, hPersisted, hNew⟩ := ih (cur.addRow e)
    refine ⟨hId, ?_, hNew⟩
    rw [List.foldl_cons, hPersisted]
    simp [EntityEvents.addRow]

theorem entityEvents_entityId (b : EntityRows Id T) : b.entityEvents.entityId = b.first.id :=
  (foldl_addRow b.rest _).1

/-- The entity read from the rows holds their events, all persisted. -/
theorem entityEvents_iter (b : EntityRows Id T) : b.entityEvents.iter = b.toList.map (·.event) := by
  obtain ⟨-, hPersisted, hNew⟩ := foldl_addRow b.rest ((EntityEvents.ofRow b.first).addRow b.first)
  rw [entityEvents, EntityEvents.iter, hPersisted, hNew]
  simp [EntityEvents.addRow, EntityEvents.ofRow, toList]

end EntityRows

-- ============================================================================
-- What `load_n` returns on the rows of consecutive entities
-- ============================================================================

namespace EntityEvents

section LoadNSpec

variable {Id T E : Type} [DecidableEq Id] {tryFrom : EntityEvents Id T → Except EntityError E}
  {n : ℕ}

/-- Rows with the id of the entity being read are added to it. -/
theorem loadNLoop_rows (ret : List E) (cur : EntityEvents Id T)
    (rows more : List (GenericEvent Id T)) (hRows : ∀ e ∈ rows, e.id = cur.entityId) :
    loadNLoop tryFrom n ret (some cur) (rows ++ more) =
      loadNLoop tryFrom n ret (some (rows.foldl addRow cur)) more := by
  induction rows generalizing cur with
  | nil => rfl
  | cons e rows ih =>
    have hSame : cur.entityId = e.id := (hRows e List.mem_cons_self).symm
    have hRest : ∀ e' ∈ rows, e'.id = (cur.addRow e).entityId := fun e' he' =>
      hRows e' (List.mem_cons_of_mem e he')
    simp only [List.cons_append, loadNLoop, if_pos hSame, List.foldl_cons]
    exact ih (cur.addRow e) hRest

/-- The later rows of an entity, read after its first one, give `entityEvents`. -/
theorem loadNLoop_entityRows (b : EntityRows Id T) (ret : List E) (more : List (GenericEvent Id T)) :
    loadNLoop tryFrom n ret (some ((ofRow b.first).addRow b.first)) (b.rest ++ more) =
      loadNLoop tryFrom n ret (some b.entityEvents) more :=
  loadNLoop_rows ret _ b.rest more b.rest_id

variable {hydrate : EntityRows Id T → E}

/-- Reading the rows of consecutive entities once the first one, `b`, is read:
    the loop closes each entity at the first row of the next one and stops
    with `true` as soon as `n` entities are closed. -/
theorem loadNLoop_blocks (b : EntityRows Id T) (bs : List (EntityRows Id T))
    (hDistinct : (b :: bs).IsChain fun b b' => b.first.id ≠ b'.first.id)
    (hTry : ∀ b' ∈ b :: bs, tryFrom b'.entityEvents = .ok (hydrate b'))
    (ret : List E) (hRet : ret.length < n) :
    loadNLoop tryFrom n ret (some b.entityEvents) (bs.flatMap EntityRows.toList) =
      .ok (if n < ret.length + (b :: bs).length
        then (ret ++ ((b :: bs).take (n - ret.length)).map hydrate, true)
        else (ret ++ (b :: bs).map hydrate, false)) := by
  have hb : tryFrom b.entityEvents = .ok (hydrate b) := hTry b List.mem_cons_self
  induction bs generalizing b ret with
  | nil =>
    -- the rows end: the last entity is closed, and there is no more
    have hEnd : ¬ n < ret.length + [b].length := by simp; omega
    simp only [List.flatMap_nil, loadNLoop, hb, Except.ok_bind, if_neg hEnd]
    rfl
  | cons b' bs ih =>
    -- the first row of `b'` closes `b`
    have hNe : b.entityEvents.entityId ≠ b'.first.id := by
      rw [EntityRows.entityEvents_entityId]
      exact (List.isChain_cons_cons.mp hDistinct).1
    simp only [List.flatMap_cons, EntityRows.toList, List.cons_append, loadNLoop, if_neg hNe, hb,
      Except.ok_bind]
    by_cases hFull : (ret ++ [hydrate b]).length = n
    · -- `b` was the `n`-th entity, and `b'` is one more
      have hLength : ret.length + 1 = n := by simpa using hFull
      have hMore : n < ret.length + (b :: b' :: bs).length := by simp; omega
      have hTake : n - ret.length = 1 := by omega
      rw [if_pos hFull, if_pos hMore, hTake]
      rfl
    · -- fewer than `n` entities so far: `b'` is read in turn
      have hLength : ret.length + 1 < n := by simp at hFull; omega
      have hTail : ∀ b'' ∈ b' :: bs, tryFrom b''.entityEvents = .ok (hydrate b'') :=
        fun b'' h => hTry b'' (List.mem_cons_of_mem b h)
      rw [if_neg hFull, loadNLoop_entityRows,
        ih b' (List.isChain_cons_cons.mp hDistinct).2 hTail (ret ++ [hydrate b])
          (by simpa using hLength) (hTail b' List.mem_cons_self)]
      have hIff : n < (ret ++ [hydrate b]).length + (b' :: bs).length ↔
          n < ret.length + (b :: b' :: bs).length := by
        simp only [List.length_append, List.length_cons, List.length_nil]
        omega
      have hTake : (b :: b' :: bs).take (n - ret.length) =
          b :: (b' :: bs).take (n - (ret ++ [hydrate b]).length) := by
        have hSucc : n - ret.length = (n - (ret ++ [hydrate b]).length) + 1 := by simp; omega
        rw [hSucc, List.take_succ_cons]
      by_cases hMore : n < ret.length + (b :: b' :: bs).length
      · rw [if_pos (hIff.mpr hMore), if_pos hMore, hTake]
        simp
      · rw [if_neg (mt hIff.mp hMore), if_neg hMore]
        simp

/-- `load_n` on the rows of consecutive distinct entities, each of which
    hydrates: the first `n` of them and `true` when there are more than `n`,
    all of them and `false` otherwise. -/
theorem loadN_flatMap (bs : List (EntityRows Id T))
    (hDistinct : bs.IsChain fun b b' => b.first.id ≠ b'.first.id)
    (hTry : ∀ b ∈ bs, tryFrom b.entityEvents = .ok (hydrate b)) (hn : 0 < n) :
    loadN tryFrom (bs.flatMap EntityRows.toList) n =
      .ok (if n < bs.length then ((bs.take n).map hydrate, true) else (bs.map hydrate, false)) := by
  cases bs with
  | nil =>
    have hNone : ¬ n < ([] : List (EntityRows Id T)).length := by simp
    rw [if_neg hNone]
    rfl
  | cons b bs =>
    -- the first row opens the first entity
    simp only [loadN, List.flatMap_cons, EntityRows.toList, List.cons_append, loadNLoop,
      loadNLoop_entityRows]
    rw [loadNLoop_blocks b bs hDistinct hTry [] hn]
    simp

/-- Rows with the id of the entity being read are added to it by `load_first`. -/
theorem loadFirstLoop_rows (cur : EntityEvents Id T) (rows : List (GenericEvent Id T))
    (hRows : ∀ e ∈ rows, e.id = cur.entityId) :
    loadFirstLoop (some cur) rows = some (rows.foldl addRow cur) := by
  induction rows generalizing cur with
  | nil => rfl
  | cons e rows ih =>
    have hSame : cur.entityId = e.id := (hRows e List.mem_cons_self).symm
    simp only [loadFirstLoop, if_pos hSame, List.foldl_cons]
    exact ih (cur.addRow e) fun e' he' => hRows e' (List.mem_cons_of_mem e he')

/-- `load_first` on the rows of one entity hydrates that entity. -/
theorem loadFirst_toList (b : EntityRows Id T) :
    loadFirst tryFrom b.toList = tryFrom b.entityEvents := by
  simp only [loadFirst, EntityRows.toList, loadFirstLoop]
  rw [loadFirstLoop_rows _ b.rest b.rest_id]
  rfl

end LoadNSpec

end EntityEvents

-- ============================================================================
-- Persisting the new events
-- ============================================================================

/-- A row of an event table: `(id, sequence)` is unique. -/
structure EventRow (Id T : Type) where
  id : Id
  sequence : ℕ
  event : T
  deriving DecidableEq, Repr

namespace EntityEvents

variable {Id T : Type}

/-- The rows `persist` inserts: the new events, numbered from
    `persisted_events.len() + 1`. -/
def persistRows (e : EntityEvents Id T) : List (EventRow Id T) :=
  e.newEvents.mapIdx fun offset event => ⟨e.entityId, e.persistedEvents.length + 1 + offset, event⟩

@[simp] theorem length_persistRows (e : EntityEvents Id T) :
    e.persistRows.length = e.newEvents.length :=
  List.length_mapIdx

theorem persistRows_id (e : EntityEvents Id T) : ∀ r ∈ e.persistRows, r.id = e.entityId := by
  intro r hr
  obtain ⟨i, hi, rfl⟩ := List.mem_mapIdx.mp hr
  rfl

/-- The inserted rows number the new events on from the persisted ones. -/
theorem persistRows_sequence (e : EntityEvents Id T) :
    e.persistRows.map (·.sequence) = List.range' (e.persistedEvents.length + 1) e.newEvents.length := by
  apply List.ext_getElem
  · simp [persistRows]
  · intro i h₁ h₂
    simp [persistRows]

theorem persistRows_event (e : EntityEvents Id T) : e.persistRows.map (·.event) = e.newEvents := by
  apply List.ext_getElem
  · simp [persistRows]
  · intro i h₁ h₂
    simp [persistRows]

/-- The rows of `persist` all carry the entity's id. -/
theorem filter_persistRows [DecidableEq Id] (e : EntityEvents Id T) (id : Id) :
    e.persistRows.filter (·.id = id) = if e.entityId = id then e.persistRows else [] := by
  split
  · rename_i hId
    exact List.filter_eq_self.mpr fun r hr => by simp [persistRows_id e r hr, hId]
  · rename_i hId
    exact List.filter_eq_nil_iff.mpr fun r hr => by simp [persistRows_id e r hr, hId]

end EntityEvents

end Galoy
