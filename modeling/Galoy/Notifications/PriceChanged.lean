/-
  Galoy.Notifications.PriceChanged

  The price alert (`core/notifications/src/app/mod.rs`,
  `notification_event/price_changed.rs`, `notification_cool_off_tracker/mod.rs`).

  `handle_price_changed_event` reads and moves the one row of
  `notification_cool_off_tracker` in a transaction: the row is locked, its
  `last_triggered_at` is returned, and the row is set to now.  When
  `should_notify` accepts the change (5% or more, and the last trigger more than
  two days ago or none), the transaction spawns the all-user dispatch of the
  alert and commits.  Otherwise it is dropped, and the row keeps its time.

  So the row holds the time of the last alert sent.  The handler sends an alert
  exactly when the change is large enough and every alert sent so far is more
  than two days old: one stored time stands for the whole history, and alerts
  are more than two days apart (`handlePriceChangedEvent_refines`).

  The row's lock makes the handlers run one at a time.  `should_notify` reads
  the application's clock and the row takes the database's; the model has one
  clock, in microseconds.  A change percentage is an `f64`.  The model takes
  its finite values, as rationals; a NaN compares false, as a change below the
  threshold does.
-/

import Galoy.Lib.Transition
import Mathlib.Algebra.Order.Ring.Rat
import Mathlib.Data.List.Pairwise

namespace Galoy

open Transition

-- ============================================================================
-- The handler
-- ============================================================================

/-- `PriceChanged`: of its fields, `should_notify` reads the change. -/
structure PriceChanged where
  changePercent : ℚ
  deriving DecidableEq, Repr

namespace PriceChanged

def NOTIFICATION_THRESHOLD : ℚ := 5

/-- `chrono::Duration::days(2)`, in microseconds. -/
def COOL_OFF_PERIOD : ℤ := 2 * 24 * 60 * 60 * 1000000

def shouldNotify (priceChanged : PriceChanged) (lastTrigger : Option ℤ) (now : ℤ) : Bool :=
  if NOTIFICATION_THRESHOLD ≤ priceChanged.changePercent then
    match lastTrigger with
    | some lastTriggerTime => decide (COOL_OFF_PERIOD < now - lastTriggerTime)
    | none => true
  else false

end PriceChanged

open PriceChanged

/-- The `price_changed` row of `notification_cool_off_tracker`, the times of
    the all-user dispatches spawned for price alerts, and the clock. -/
structure PriceAlerts where
  lastTriggeredAt : Option ℤ
  dispatched : List ℤ
  now : ℤ
  deriving DecidableEq, Repr

inductive PriceAlertsAction where
  | tick (elapsed : ℕ)
  /-- `handle_price_changed_event` -/
  | priceChanged (priceChanged : PriceChanged)
  deriving DecidableEq, Repr

namespace PriceAlerts

/-- The row as the migration makes it, with no trigger yet. -/
def initial (start : ℤ) : PriceAlerts := ⟨none, [], start⟩

/-- `handle_price_changed_event`: `update_price_changed_trigger` returns the
    time from before its update, and only a transaction that spawns the alert
    commits. -/
def handlePriceChangedEvent (s : PriceAlerts) (priceChanged : PriceChanged) : PriceAlerts :=
  if priceChanged.shouldNotify s.lastTriggeredAt s.now then
    { s with lastTriggeredAt := some s.now, dispatched := s.dispatched ++ [s.now] }
  else s

def next (s : PriceAlerts) : PriceAlertsAction → Option PriceAlerts
  | .tick elapsed => some { s with now := s.now + elapsed }
  | .priceChanged priceChanged => some (s.handlePriceChangedEvent priceChanged)

-- ============================================================================
-- The row stands for the history
-- ============================================================================

/-- Alerts more than the cool-off apart. -/
def Spaced (dispatched : List ℤ) : Prop :=
  dispatched.Pairwise fun a b => a + COOL_OFF_PERIOD < b

/-- The row holds the last alert's time, alerts are spaced, and none is in the
    future. -/
def Tracked (s : PriceAlerts) : Prop :=
  s.lastTriggeredAt = s.dispatched.getLast? ∧ Spaced s.dispatched ∧ ∀ t ∈ s.dispatched, t ≤ s.now

/-- The last of spaced alerts is the latest. -/
theorem Spaced.le_of_getLast? {dispatched : List ℤ} (h : Spaced dispatched) {last t : ℤ}
    (hLast : dispatched.getLast? = some last) (ht : t ∈ dispatched) : t ≤ last := by
  rw [List.getLast?_eq_some_getLast (List.ne_nil_of_mem ht)] at hLast
  obtain rfl := Option.some.inj hLast
  have hLe : dispatched.Pairwise (· ≤ ·) :=
    h.imp fun hLt => by unfold COOL_OFF_PERIOD at hLt; omega
  exact hLe.rel_getLast ht

/-- With the row tracking the history, `should_notify` accepts a change exactly
    when it is large enough and every alert sent is older than the cool-off. -/
theorem Tracked.shouldNotify_iff {s : PriceAlerts} (h : Tracked s) (priceChanged : PriceChanged) :
    priceChanged.shouldNotify s.lastTriggeredAt s.now = true ↔
      NOTIFICATION_THRESHOLD ≤ priceChanged.changePercent ∧
        ∀ t ∈ s.dispatched, COOL_OFF_PERIOD < s.now - t := by
  obtain ⟨hRow, hSpaced, -⟩ := h
  unfold shouldNotify
  by_cases hLarge : NOTIFICATION_THRESHOLD ≤ priceChanged.changePercent
  · rw [if_pos hLarge, hRow]
    cases hLast : s.dispatched.getLast? with
    | none =>
      -- no alert yet
      simp [List.getLast?_eq_none_iff.mp hLast, hLarge]
    | some last =>
      -- the last alert is the latest, so it alone decides
      simp only [decide_eq_true_eq]
      constructor
      · intro hOld
        refine ⟨hLarge, fun t ht => ?_⟩
        have := hSpaced.le_of_getLast? hLast ht
        omega
      · exact fun hOld => hOld.2 last (List.mem_of_getLast? hLast)
  · rw [if_neg hLarge]
    simp [hLarge]

theorem tracked_initial (start : ℤ) : Tracked (initial start) :=
  ⟨rfl, List.Pairwise.nil, fun _ ht => by cases ht⟩

theorem Tracked.handlePriceChangedEvent {s : PriceAlerts} (h : Tracked s)
    (priceChanged : PriceChanged) : Tracked (s.handlePriceChangedEvent priceChanged) := by
  unfold PriceAlerts.handlePriceChangedEvent
  split
  · rename_i hNotify
    obtain ⟨-, hOld⟩ := (h.shouldNotify_iff priceChanged).mp hNotify
    obtain ⟨-, hSpaced, hPast⟩ := h
    refine ⟨by simp, ?_, ?_⟩
    · -- the new alert is more than the cool-off after each earlier one
      refine List.pairwise_append.mpr ⟨hSpaced, List.pairwise_singleton _ _, ?_⟩
      intro a ha b hb
      rw [List.mem_singleton.mp hb]
      have := hOld a ha
      omega
    · intro t ht
      rcases List.mem_append.mp ht with ht | ht
      · exact hPast t ht
      · rw [List.mem_singleton.mp ht]
  · exact h

theorem Tracked.next {s s' : PriceAlerts} {a : PriceAlertsAction} (h : Tracked s)
    (hStep : PriceAlerts.next s a = some s') : Tracked s' := by
  cases a with
  | tick elapsed =>
    cases hStep
    obtain ⟨hRow, hSpaced, hPast⟩ := h
    exact ⟨hRow, hSpaced, fun t ht => by have := hPast t ht; dsimp only; omega⟩
  | priceChanged priceChanged =>
    cases hStep
    exact h.handlePriceChangedEvent priceChanged

/-- On every run, price alerts are more than two days apart, and the handler
    sends one exactly when the change is at least the threshold and every
    alert sent so far is more than two days old. -/
theorem handlePriceChangedEvent_refines {start : ℤ} {s : PriceAlerts}
    (h : Reachable PriceAlerts.next (initial start) s) :
    s.dispatched.Pairwise (fun a b => a + COOL_OFF_PERIOD < b) ∧
    ∀ priceChanged : PriceChanged, (s.handlePriceChangedEvent priceChanged).dispatched =
      if NOTIFICATION_THRESHOLD ≤ priceChanged.changePercent ∧
          ∀ t ∈ s.dispatched, COOL_OFF_PERIOD < s.now - t then
        s.dispatched ++ [s.now]
      else s.dispatched := by
  have hTracked : Tracked s :=
    Invariant.holds ⟨tracked_initial start, fun _ _ _ hs hStep => hs.next hStep⟩ h
  refine ⟨hTracked.2.1, fun priceChanged => ?_⟩
  unfold PriceAlerts.handlePriceChangedEvent
  by_cases hSpec : NOTIFICATION_THRESHOLD ≤ priceChanged.changePercent ∧
      ∀ t ∈ s.dispatched, COOL_OFF_PERIOD < s.now - t
  · rw [if_pos ((hTracked.shouldNotify_iff priceChanged).mpr hSpec), if_pos hSpec]
  · rw [if_neg (mt (hTracked.shouldNotify_iff priceChanged).mp hSpec), if_neg hSpec]

/-- A 7% move alerts, an 8% move a day later does not, and a 6% move two days
    after that does. -/
theorem threeMoves_refines :
    ∃ s, run PriceAlerts.next (initial 0)
      [.priceChanged ⟨7⟩, .tick 86400000000, .priceChanged ⟨8⟩, .tick 172800000000,
        .priceChanged ⟨6⟩] = some s ∧
      s.dispatched = [0, 259200000000] ∧
      s.dispatched.Pairwise (fun a b => a + COOL_OFF_PERIOD < b) := by
  obtain ⟨s, hRun, hDispatched⟩ : ∃ s, run PriceAlerts.next (initial 0)
      [.priceChanged ⟨7⟩, .tick 86400000000, .priceChanged ⟨8⟩, .tick 172800000000,
        .priceChanged ⟨6⟩] = some s ∧ s.dispatched = [0, 259200000000] := by
    refine ⟨_, rfl, ?_⟩
    decide
  exact ⟨s, hRun, hDispatched, (handlePriceChangedEvent_refines (reachable_of_run hRun)).1⟩

end PriceAlerts

end Galoy
