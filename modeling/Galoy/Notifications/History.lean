/-
  Galoy.Notifications.History

  Paging through a user's stateful notifications
  (`notifications/src/history/{entity,repo}.rs`).

  A stateful notification has an `Initialized` event and, once the user
  acknowledged it, an `Acknowledged` event; the `acknowledged` column of its
  row is written with that event.  The three list queries of
  `PersistentNotifications` select the user's notifications that pass their
  filter and come after the cursor, newest first, join them with their events
  and take `first + 1` event rows; `load_n` then groups the rows into entities
  and keeps `first` of them.

  The `LIMIT` counts rows and `load_n` counts entities.  When no listed
  notification is acknowledged the two agree and a page is exact
  (`listWith_exact_of_unacknowledged`), which is always the case for the
  unacknowledged bulletins.  An acknowledged notification takes two rows: the
  page can then end inside it, and it comes back without its `Acknowledged`
  event and with "no more" reported.
-/

import Galoy.EsEntity.Events
import Galoy.Notifications.UserSettings
import Mathlib.Data.List.Sort

namespace Galoy

/-- `StatefulNotificationId`, a uuid. -/
structure StatefulNotificationId where
  uuid : ℕ
  deriving DecidableEq, Repr

/-- `StatefulNotificationEvent`; the message and the payload of `Initialized`
    are not modelled. -/
inductive StatefulNotificationEvent where
  | Initialized (id : StatefulNotificationId) (galoyUserId : GaloyUserId)
  | Acknowledged (acknowledgedAt : ℕ)
  deriving DecidableEq, Repr

structure StatefulNotification where
  id : StatefulNotificationId
  galoyUserId : GaloyUserId
  events : EntityEvents StatefulNotificationId StatefulNotificationEvent
  deriving DecidableEq, Repr

namespace StatefulNotification

open StatefulNotificationEvent

/-- The time of the first `Acknowledged` event. -/
def acknowledgedAt (n : StatefulNotification) : Option ℕ :=
  n.events.iter.findSome? fun
    | Acknowledged readAt => some readAt
    | _ => none

def isAcknowledged (n : StatefulNotification) : Bool := n.acknowledgedAt.isSome

def acknowledge (n : StatefulNotification) (now : ℕ) : StatefulNotification :=
  if n.acknowledgedAt.isNone then { n with events := n.events.push (Acknowledged now) } else n

/-- The builder's `id` and `galoy_user_id`: those of the last `Initialized` event. -/
def initializedStep (fields : Option StatefulNotificationId × Option GaloyUserId) :
    StatefulNotificationEvent → Option StatefulNotificationId × Option GaloyUserId
  | Initialized id galoyUserId => (some id, some galoyUserId)
  | _ => fields

/-- `TryFrom<EntityEvents<_>>`: the builder fails on the first field no event set. -/
def tryFrom (events : EntityEvents StatefulNotificationId StatefulNotificationEvent) :
    Except EntityError StatefulNotification :=
  match events.iter.foldl initializedStep (none, none) with
  | (some id, some galoyUserId) => .ok ⟨id, galoyUserId, events⟩
  | (none, _) => .error (.UninitializedFieldError "id")
  | (some _, none) => .error (.UninitializedFieldError "galoy_user_id")

end StatefulNotification

-- ============================================================================
-- The store
-- ============================================================================

/-- A notification as stored: its row of `stateful_notifications` and, when it
    was acknowledged, the time of its `Acknowledged` event. -/
structure StoredNotification where
  id : StatefulNotificationId
  galoyUserId : GaloyUserId
  createdAt : ℕ
  bulletinEnabled : Bool
  acknowledgedAt : Option ℕ
  deriving DecidableEq, Repr

namespace StoredNotification

open StatefulNotificationEvent

/-- The `acknowledged` column, which `update` writes with the event. -/
def acknowledged (n : StoredNotification) : Bool := n.acknowledgedAt.isSome

/-- The rows of its events joined with its row, in `sequence` order. -/
def rows (n : StoredNotification) : EntityRows StatefulNotificationId StatefulNotificationEvent where
  first := ⟨n.id, 1, Initialized n.id n.galoyUserId, n.createdAt, n.createdAt⟩
  rest := n.acknowledgedAt.toList.map fun readAt => ⟨n.id, 2, Acknowledged readAt, n.createdAt, readAt⟩
  rest_id := by
    intro e he
    simp only [List.mem_map, Option.mem_toList] at he
    obtain ⟨readAt, -, rfl⟩ := he
    rfl

/-- The notification hydrated from all of its events. -/
def hydrated (n : StoredNotification) : StatefulNotification :=
  ⟨n.id, n.galoyUserId, n.rows.entityEvents⟩

@[simp] theorem rows_first_id (n : StoredNotification) : n.rows.first.id = n.id := rfl

/-- Any beginning of a notification's rows opens with its `Initialized` event,
    so `try_from` builds the notification from it. -/
theorem tryFrom_rows_take (n : StoredNotification) (k : ℕ) :
    StatefulNotification.tryFrom (n.rows.take k).entityEvents =
      .ok ⟨n.id, n.galoyUserId, (n.rows.take k).entityEvents⟩ := by
  unfold StatefulNotification.tryFrom
  rw [EntityRows.entityEvents_iter]
  -- after `Initialized` come only `Acknowledged` events, which set no field
  cases h : n.acknowledgedAt <;> cases k <;>
    simp [rows, EntityRows.take, EntityRows.toList, StatefulNotification.initializedStep, h]

end StoredNotification

/-- The notifications of all users; `id` is the primary key. -/
structure NotificationStore where
  notifications : List StoredNotification
  ids_nodup : (notifications.map (·.id)).Nodup

-- ============================================================================
-- The list queries
-- ============================================================================

namespace PersistentNotifications

/-- The `created_at` of the cursor, found by the `anchor` query with the same
    filter; none when no such row exists. -/
def anchorCreatedAt (store : NotificationStore) (filter : StoredNotification → Bool)
    (after : StatefulNotificationId) : Option ℕ :=
  (store.notifications.find? fun n => n.id = after && filter n).map (·.createdAt)

/-- The cursor condition: no cursor, or created before the anchor (a missing
    anchor compares as `NULL` and lets no row through). -/
def isAfterCursor (store : NotificationStore) (filter : StoredNotification → Bool)
    (after : Option StatefulNotificationId) (n : StoredNotification) : Bool :=
  match after with
  | none => true
  | some id =>
    match anchorCreatedAt store filter id with
    | some createdAt => decide (n.createdAt < createdAt)
    | none => false

/-- `ORDER BY a.created_at DESC, a.id`. -/
def listOrder (a b : StoredNotification) : Prop :=
  b.createdAt < a.createdAt ∨ (a.createdAt = b.createdAt ∧ a.id.uuid ≤ b.id.uuid)

instance : DecidableRel listOrder := fun a b => by unfold listOrder; infer_instance

/-- The notifications a query pages over: the user's, passing its filter,
    after the cursor, newest first. -/
def listed (store : NotificationStore) (filter : StoredNotification → Bool) (userId : GaloyUserId)
    (after : Option StatefulNotificationId) : List StoredNotification :=
  (store.notifications.filter fun n =>
    n.galoyUserId = userId && filter n && isAfterCursor store filter after n).insertionSort listOrder

/-- The joined event rows, `LIMIT first + 1`. -/
def listRows (store : NotificationStore) (filter : StoredNotification → Bool) (userId : GaloyUserId)
    (first : ℕ) (after : Option StatefulNotificationId) :
    List (GenericEvent StatefulNotificationId StatefulNotificationEvent) :=
  ((listed store filter userId after).flatMap fun n => n.rows.toList).take (first + 1)

/-- The three list queries differ only in their filter. -/
def listWith (filter : StoredNotification → Bool) (store : NotificationStore) (userId : GaloyUserId)
    (first : ℕ) (after : Option StatefulNotificationId) :
    Except EntityError (List StatefulNotification × Bool) :=
  EntityEvents.loadN StatefulNotification.tryFrom (listRows store filter userId first after) first

def listForUser (store : NotificationStore) (userId : GaloyUserId) (first : ℕ)
    (after : Option StatefulNotificationId) : Except EntityError (List StatefulNotification × Bool) :=
  listWith (fun _ => true) store userId first after

def listForUserWithoutBulletinEnabled (store : NotificationStore) (userId : GaloyUserId)
    (first : ℕ) (after : Option StatefulNotificationId) :
    Except EntityError (List StatefulNotification × Bool) :=
  listWith (fun n => !n.bulletinEnabled) store userId first after

def listUnacknowledgedBulletinsForUser (store : NotificationStore) (userId : GaloyUserId)
    (first : ℕ) (after : Option StatefulNotificationId) :
    Except EntityError (List StatefulNotification × Bool) :=
  listWith (fun n => n.bulletinEnabled && !n.acknowledged) store userId first after

-- ============================================================================
-- What a page holds
-- ============================================================================

variable {store : NotificationStore} {filter : StoredNotification → Bool} {userId : GaloyUserId}
  {after : Option StatefulNotificationId}

theorem mem_listed {n : StoredNotification} (hn : n ∈ listed store filter userId after) :
    n ∈ store.notifications ∧ n.galoyUserId = userId ∧ filter n = true := by
  rw [listed, (List.perm_insertionSort _ _).mem_iff, List.mem_filter] at hn
  simp only [Bool.and_eq_true, decide_eq_true_eq] at hn
  exact ⟨hn.1, hn.2.1.1, hn.2.1.2⟩

/-- The listed notifications are distinct rows of the store. -/
theorem listed_ids_pairwise :
    (listed store filter userId after).Pairwise fun a b => a.id ≠ b.id := by
  have hFiltered : ((store.notifications.filter fun n =>
      n.galoyUserId = userId && filter n && isAfterCursor store filter after n).map (·.id)).Nodup :=
    store.ids_nodup.sublist ((List.filter_sublist).map _)
  have hSorted := (List.perm_insertionSort listOrder _).map (·.id) |>.nodup_iff.mpr hFiltered
  exact List.pairwise_map.mp hSorted

/-- The page, as entities: the listed notifications whose rows fit in the
    first `first + 1`, the last of them possibly cut. -/
def page (store : NotificationStore) (filter : StoredNotification → Bool) (userId : GaloyUserId)
    (first : ℕ) (after : Option StatefulNotificationId) :
    List (EntityRows StatefulNotificationId StatefulNotificationEvent) :=
  EntityRows.takeRows (first + 1) ((listed store filter userId after).map StoredNotification.rows)

theorem listRows_eq (first : ℕ) :
    listRows store filter userId first after = (page store filter userId first after).flatMap EntityRows.toList := by
  rw [listRows, page, EntityRows.flatMap_takeRows, List.flatMap_map]

/-- What every list query returns: the first `first` entities of the page and
    `true` when the page has one more, the whole page and `false` otherwise;
    each entity is built from the rows of it that the page holds. -/
theorem listWith_eq (first : ℕ) (hFirst : 0 < first) :
    listWith filter store userId first after =
      .ok (if first < (page store filter userId first after).length
        then (((page store filter userId first after).take first).map fun b =>
          ⟨b.first.id, userId, b.entityEvents⟩, true)
        else ((page store filter userId first after).map fun b =>
          ⟨b.first.id, userId, b.entityEvents⟩, false)) := by
  -- the entities of the page are told apart by their first rows
  have hDistinct : (page store filter userId first after).IsChain
      fun b b' => b.first.id ≠ b'.first.id := by
    have hFirsts : ((listed store filter userId after).map StoredNotification.rows |>.map
        (·.first)).Pairwise fun e e' => e.id ≠ e'.id := by
      rw [List.map_map, List.pairwise_map]
      exact listed_ids_pairwise
    exact (List.pairwise_map.mp (hFirsts.sublist (EntityRows.takeRows_prefix _ _).sublist)).isChain
  -- each of them is the beginning of a listed notification of the user
  have hTry : ∀ b ∈ page store filter userId first after,
      StatefulNotification.tryFrom b.entityEvents = .ok ⟨b.first.id, userId, b.entityEvents⟩ := by
    intro b hb
    obtain ⟨b', hb', k, rfl⟩ := EntityRows.mem_takeRows hb
    obtain ⟨n, hn, rfl⟩ := List.mem_map.mp hb'
    rw [StoredNotification.tryFrom_rows_take, (mem_listed hn).2.1]
    rfl
  rw [listWith, listRows_eq]
  exact EntityEvents.loadN_flatMap _ hDistinct hTry hFirst

/-- When no listed notification is acknowledged, every notification is one row
    and a page is exact: the first `first` notifications, each hydrated from all
    its events, and `true` exactly when more notifications are listed. -/
theorem listWith_exact_of_unacknowledged (first : ℕ) (hFirst : 0 < first)
    (hUnacknowledged : ∀ n ∈ listed store filter userId after, n.acknowledgedAt = none) :
    listWith filter store userId first after =
      .ok (((listed store filter userId after).take first).map StoredNotification.hydrated,
        decide (first < (listed store filter userId after).length)) := by
  have hPage : page store filter userId first after =
      ((listed store filter userId after).take (first + 1)).map StoredNotification.rows := by
    rw [page, EntityRows.takeRows_of_rest_nil, List.map_take]
    intro b hb
    obtain ⟨n, hn, rfl⟩ := List.mem_map.mp hb
    simp [StoredNotification.rows, hUnacknowledged n hn]
  -- the entity built from a whole one-row notification is that notification
  have hHydrate : ∀ ns ⊆ listed store filter userId after,
      (ns.map StoredNotification.rows).map (fun b => (⟨b.first.id, userId, b.entityEvents⟩ :
        StatefulNotification)) = ns.map StoredNotification.hydrated := by
    intro ns hns
    rw [List.map_map]
    refine List.map_congr_left fun n hn => ?_
    simp [StoredNotification.hydrated, (mem_listed (hns hn)).2.1]
  rw [listWith_eq first hFirst, hPage]
  by_cases hMore : first < (listed store filter userId after).length
  · have hLength : first < (((listed store filter userId after).take (first + 1)).map
        StoredNotification.rows).length := by simp; omega
    rw [if_pos hLength, ← List.map_take, List.take_take, Nat.min_eq_left (Nat.le_succ first),
      hHydrate _ (List.take_subset _ _), decide_eq_true hMore]
  · have hLength : ¬ first < (((listed store filter userId after).take (first + 1)).map
        StoredNotification.rows).length := by simp; omega
    have hAll : ∀ m, first ≤ m → (listed store filter userId after).take m =
        listed store filter userId after := fun m hm => List.take_of_length_le (by omega)
    rw [if_neg hLength, hAll (first + 1) (Nat.le_succ first), hAll first le_rfl,
      hHydrate _ (List.Subset.refl _), decide_eq_false hMore]

/-- Two bulletins of one user, the newer one acknowledged, and an older
    notification that is no bulletin. -/
def bulletinsStore : NotificationStore where
  notifications :=
    [⟨⟨1⟩, ⟨"user"⟩, 3, true, some 4⟩, ⟨⟨2⟩, ⟨"user"⟩, 2, true, none⟩,
      ⟨⟨3⟩, ⟨"user"⟩, 1, false, none⟩]
  ids_nodup := by decide

/-- Whatever the store, a page holds at most `first` notifications, the first
    listed ones in order, and reports more only when more are listed. -/
theorem listWith_sound (first : ℕ) (hFirst : 0 < first) :
    ∃ entities more, listWith filter store userId first after = .ok (entities, more) ∧
      entities.length ≤ first ∧
      entities.map (·.id) = ((listed store filter userId after).take entities.length).map (·.id) ∧
      (more = true → first < (listed store filter userId after).length) := by
  -- the page's first rows are those of the first listed notifications
  have hPrefix : (page store filter userId first after).map (·.first.id) <+:
      (listed store filter userId after).map (·.id) := by
    have h := (EntityRows.takeRows_prefix (first + 1)
      ((listed store filter userId after).map StoredNotification.rows)).map (·.id)
    simpa [List.map_map, page, Function.comp_def] using h
  have hIds : ∀ blocks, blocks <+: page store filter userId first after →
      (blocks.map fun b => (⟨b.first.id, userId, b.entityEvents⟩ : StatefulNotification)).map (·.id) =
        ((listed store filter userId after).take
          (blocks.map fun b => (⟨b.first.id, userId, b.entityEvents⟩ : StatefulNotification)).length).map
          (·.id) := by
    intro blocks hBlocks
    have hIdPrefix := (hBlocks.map (·.first.id)).trans hPrefix
    rw [List.prefix_iff_eq_take] at hIdPrefix
    rw [List.map_map, List.map_take, List.length_map]
    simpa [Function.comp_def] using hIdPrefix
  have hShorter := hPrefix.length_le
  simp only [List.length_map] at hShorter
  rw [listWith_eq first hFirst]
  by_cases hMore : first < (page store filter userId first after).length
  · refine ⟨_, true, by rw [if_pos hMore], by simp, ?_, fun _ => by omega⟩
    exact hIds _ (List.take_prefix _ _)
  · refine ⟨_, false, by rw [if_neg hMore], by simp; omega, ?_, fun h => absurd h Bool.false_ne_true⟩
    exact hIds _ (List.prefix_refl _)

/-- A page of two of the user's three notifications. -/
theorem bulletinsStore_page_sound :
    ∃ entities more, listForUser bulletinsStore ⟨"user"⟩ 2 none = .ok (entities, more) ∧
      entities.length ≤ 2 ∧
      (more = true → 2 < (listed bulletinsStore (fun _ => true) ⟨"user"⟩ none).length) := by
  obtain ⟨entities, more, hList, hLength, -, hMore⟩ :=
    @listWith_sound bulletinsStore (fun _ => true) ⟨"user"⟩ none 2 (by decide)
  exact ⟨entities, more, hList, hLength, hMore⟩

/-- The unacknowledged bulletins are paged exactly, for every store, user,
    cursor and page size: the first `first` of them, each hydrated from all its
    events (none acknowledged, as in the store), and `true` exactly when there
    are more. -/
theorem listUnacknowledgedBulletinsForUser_exact (first : ℕ) (hFirst : 0 < first) :
    listUnacknowledgedBulletinsForUser store userId first after =
      .ok (((listed store (fun n => n.bulletinEnabled && !n.acknowledged) userId after).take
          first).map StoredNotification.hydrated,
        decide (first < (listed store (fun n => n.bulletinEnabled && !n.acknowledged) userId
          after).length)) := by
  apply listWith_exact_of_unacknowledged first hFirst
  intro n hn
  -- the query's own filter keeps only rows with `acknowledged` false
  have hFilter := (mem_listed hn).2.2
  simp only [Bool.and_eq_true, Bool.not_eq_true', StoredNotification.acknowledged,
    Option.isSome_eq_false_iff, Option.isNone_iff_eq_none] at hFilter
  exact hFilter.2

/-- The user's one unacknowledged bulletin, on a page of one. -/
theorem bulletinsStore_unacknowledged_exact :
    listUnacknowledgedBulletinsForUser bulletinsStore ⟨"user"⟩ 1 none =
      .ok ([StoredNotification.hydrated ⟨⟨2⟩, ⟨"user"⟩, 2, true, none⟩], false) := by
  rw [listUnacknowledgedBulletinsForUser_exact 1 (by decide)]
  rfl

/-- Three notifications of one user, newest first, the two newest acknowledged. -/
def twoAcknowledgedStore : NotificationStore where
  notifications :=
    [⟨⟨1⟩, ⟨"user"⟩, 3, false, some 4⟩, ⟨⟨2⟩, ⟨"user"⟩, 2, false, some 5⟩,
      ⟨⟨3⟩, ⟨"user"⟩, 1, false, none⟩]
  ids_nodup := by decide

theorem listForUser_cuts_acknowledged :
    (listed twoAcknowledgedStore (fun _ => true) ⟨"user"⟩ none).map (·.acknowledged) =
      [true, true, false] ∧
    (listForUser twoAcknowledgedStore ⟨"user"⟩ 2 none).map
      (fun page => (page.1.map (·.isAcknowledged), page.2)) = .ok ([true, false], false) :=
  ⟨rfl, rfl⟩

end PersistentNotifications

end Galoy
