/-
  Galoy.Bria.EventSubscriber

  How the events of bria, the on-chain wallet service, reach their handlers
  (`services/bria/index.ts`, `services/bria/event-handler.ts`,
  `services/bria/event-repository.ts`, `utils/grpc-stream-client/stream.ts`,
  `servers/trigger.ts`).

  bria numbers its events 1, 2, ...; a `subscribeAll` request with
  `after_sequence = n` streams the events after `n`, in order.  The trigger
  server's `subscribeToAll` asks for the events after `getLatestSequence()`, the
  highest sequence saved in `BriaEventModel` (`0` when none is).
  `eventDataHandler` runs the handler of each event.  When the handler or
  `persistEvent` returns an error, it sets the request's `after_sequence` to the
  event's sequence less one and calls `reconnect`; otherwise it saves the event.
  `Stream.reconnect` does nothing while a reconnect is scheduled; otherwise it
  removes the stream's data listener and schedules `connect`, which subscribes
  again with the request as it then stands.  The error listener of
  `subscribeToAll` sets `after_sequence` to `getLatestSequence()`.

  `Stream.dispatchEvent` calls the data listener without awaiting it, so the
  handlers of consecutive events run at once and their events are saved in any
  order.  A restart resumes after the highest saved sequence, which may lie
  above an event whose handler has not returned: that event is then never
  handled (`restart_skips_unhandled`).  When bria delivers an event only once no
  handler is running (`oneAtATime`), every point the subscriber resumes from
  lies below every event not yet handled (`oneAtATime_resumes_after_handled`).

  An event is its sequence here, and what the handlers do is the list of the
  events whose handler returned `true`.  One trigger process runs at a time: a
  restart ends every call in progress.
-/

import Galoy.Lib.Transition

namespace Galoy

open Transition

-- ============================================================================
-- The saved sequences
-- ============================================================================

/-- `getLatestSequence`: the sequence of `findOne().sort({ sequence: -1 })`,
    `0` when nothing is saved. -/
def latestSequence (saved : List ℕ) : ℕ :=
  saved.foldr max 0

theorem le_latestSequence {saved : List ℕ} {p : ℕ} (h : p ∈ saved) : p ≤ latestSequence saved := by
  induction saved with
  | nil => cases h
  | cons q saved ih =>
    simp only [latestSequence, List.foldr_cons] at ih ⊢
    rcases List.mem_cons.mp h with rfl | h
    · exact Nat.le_max_left _ _
    · exact Nat.le_trans (ih h) (Nat.le_max_right _ _)

theorem latestSequence_eq_zero_or_mem (saved : List ℕ) :
    latestSequence saved = 0 ∨ latestSequence saved ∈ saved := by
  induction saved with
  | nil => exact .inl rfl
  | cons q saved ih =>
    simp only [latestSequence, List.foldr_cons] at ih ⊢
    rcases Nat.le_total q (saved.foldr max 0) with hq | hq
    · rw [Nat.max_eq_right hq]
      exact ih.imp_right (List.mem_cons_of_mem _)
    · rw [Nat.max_eq_left hq]
      exact .inr List.mem_cons_self

/-- Saving more never lowers the latest sequence. -/
theorem latestSequence_le_append (saved xs : List ℕ) :
    latestSequence saved ≤ latestSequence (saved ++ xs) := by
  rcases latestSequence_eq_zero_or_mem saved with h | h
  · rw [h]
    exact Nat.zero_le _
  · exact le_latestSequence (List.mem_append_left xs h)

-- ============================================================================
-- The subscriber
-- ============================================================================

/-- Where the `eventDataHandler` call of one event stands. -/
inductive DataHandlerStep where
  /-- awaiting `eventHandler(event)` -/
  | handling
  /-- the handler returned `true`; awaiting `eventRepo.persistEvent(event)` -/
  | persisting
  deriving DecidableEq, Repr

/-- An `eventDataHandler` call in progress, for the event `sequence`. -/
structure DataHandlerRun where
  sequence : ℕ
  step : DataHandlerStep
  deriving DecidableEq, Repr

/-- The stream of `BriaSubscriber().subscribeToAll` in the trigger process, the
    saved events, and what the handlers have done. -/
structure BriaSubscriber where
  /-- `stream.request`'s `after_sequence` -/
  afterSequence : ℕ
  /-- the sequences of the saved `BriaEventModel` documents -/
  saved : List ℕ
  /-- the events whose handler has returned `true` -/
  handled : List ℕ
  /-- the last sequence the stream has delivered while its data listener is
      on; `none` once `reconnect` has removed the listener -/
  stream : Option ℕ
  /-- `reconnectId`: a `connect` is scheduled -/
  reconnecting : Bool
  /-- the `eventDataHandler` calls in progress -/
  runs : List DataHandlerRun
  /-- the calls of the error listener in progress, with the sequence each has read -/
  errorListeners : List (Option ℕ)
  deriving DecidableEq, Repr

inductive SubscriberAction where
  /-- bria streams the next event to the data listener -/
  | deliver
  /-- `eventHandler(event)` of the call `j` returns `true` -/
  | eventHandlerOk (j : ℕ)
  /-- `eventHandler(event)` of the call `j` returns an error -/
  | eventHandlerError (j : ℕ)
  /-- `persistEvent` of the call `j` saves the event -/
  | persistEventOk (j : ℕ)
  /-- `persistEvent` of the call `j` returns an error -/
  | persistEventError (j : ℕ)
  /-- the gRPC stream emits `error` -/
  | streamError
  /-- the gRPC stream emits `end` -/
  | streamEnd
  /-- `getLatestSequence` of the error listener's call `k` returns a sequence -/
  | getLatestSequenceOk (k : ℕ)
  /-- `getLatestSequence` of the error listener's call `k` returns an error -/
  | getLatestSequenceError (k : ℕ)
  /-- the error listener's call `k` sets `after_sequence` to what it read -/
  | setAfterSequence (k : ℕ)
  /-- the scheduled reconnect fires -/
  | connect
  /-- the trigger server restarts and calls `subscribeToAll` -/
  | restart
  deriving DecidableEq, Repr

namespace BriaSubscriber

/-- A fresh deployment: nothing saved or handled, the stream subscribed after `0`. -/
def initial : BriaSubscriber := ⟨0, [], [], some 0, false, [], []⟩

/-- `Stream.reconnect`: unless a reconnect is scheduled, remove the data
    listener and schedule one. -/
def reconnect (s : BriaSubscriber) : BriaSubscriber :=
  if s.reconnecting then s else { s with stream := none, reconnecting := true }

/-- The stream delivers the event after `c`, and its data handler starts. -/
def deliver (s : BriaSubscriber) (c : ℕ) : BriaSubscriber :=
  { s with stream := some (c + 1), runs := s.runs ++ [⟨c + 1, .handling⟩] }

/-- The handler of the call `j`, for the event `n`, has returned `true`. -/
def markHandled (s : BriaSubscriber) (j n : ℕ) : BriaSubscriber :=
  { s with handled := s.handled ++ [n], runs := s.runs.set j ⟨n, .persisting⟩ }

/-- `persistEvent` has saved the event `n` of the call `j`, which returns. -/
def save (s : BriaSubscriber) (j n : ℕ) : BriaSubscriber :=
  { s with saved := s.saved ++ [n], runs := s.runs.eraseIdx j }

/-- The error path of `eventDataHandler` for the call `j` and the event `n`:
    `setAfterSequence(event.sequence - 1)`, then `reconnect`. -/
def retry (s : BriaSubscriber) (j n : ℕ) : BriaSubscriber :=
  reconnect { s with afterSequence := n - 1, runs := s.runs.eraseIdx j }

/-- The stream's `error`: `reconnect`, then the error listener starts. -/
def streamError (s : BriaSubscriber) : BriaSubscriber :=
  { s.reconnect with errorListeners := s.errorListeners ++ [none] }

/-- The error listener's call `k` has read the latest saved sequence. -/
def readLatest (s : BriaSubscriber) (k : ℕ) : BriaSubscriber :=
  { s with errorListeners := s.errorListeners.set k (some (latestSequence s.saved)) }

/-- The error listener's call `k` returns. -/
def endErrorListener (s : BriaSubscriber) (k : ℕ) : BriaSubscriber :=
  { s with errorListeners := s.errorListeners.eraseIdx k }

/-- `connect`: subscribe after the request's `after_sequence`. -/
def connect (s : BriaSubscriber) : BriaSubscriber :=
  { s with stream := some s.afterSequence, reconnecting := false }

/-- A new process subscribes after the latest saved sequence; the calls of the
    old one are gone. -/
def restart (s : BriaSubscriber) : BriaSubscriber :=
  { s with afterSequence := latestSequence s.saved, stream := some (latestSequence s.saved),
           reconnecting := false, runs := [], errorListeners := [] }

def next (s : BriaSubscriber) : SubscriberAction → Option BriaSubscriber
  | .deliver => s.stream.map s.deliver
  | .eventHandlerOk j =>
    match s.runs[j]? with
    | some ⟨n, .handling⟩ => some (s.markHandled j n)
    | _ => none
  | .eventHandlerError j =>
    match s.runs[j]? with
    | some ⟨n, .handling⟩ => some (s.retry j n)
    | _ => none
  | .persistEventOk j =>
    match s.runs[j]? with
    | some ⟨n, .persisting⟩ => some (s.save j n)
    | _ => none
  | .persistEventError j =>
    match s.runs[j]? with
    | some ⟨n, .persisting⟩ => some (s.retry j n)
    | _ => none
  | .streamError => some s.streamError
  | .streamEnd => some s.reconnect
  | .getLatestSequenceOk k =>
    if s.errorListeners[k]? = some none then some (s.readLatest k) else none
  | .getLatestSequenceError k =>
    if s.errorListeners[k]? = some none then some (s.endErrorListener k) else none
  | .setAfterSequence k =>
    match s.errorListeners[k]? with
    | some (some p) => some { s.endErrorListener k with afterSequence := p }
    | _ => none
  | .connect => if s.reconnecting then some s.connect else none
  | .restart => some s.restart

/-- The runs in which bria delivers an event only once no handler is running. -/
def oneAtATime (s : BriaSubscriber) : SubscriberAction → Bool
  | .deliver => s.runs.isEmpty
  | _ => true

-- ============================================================================
-- What one step does
-- ============================================================================

section Steps

variable {s s' : BriaSubscriber}

@[simp] theorem reconnect_afterSequence : s.reconnect.afterSequence = s.afterSequence := by
  delta reconnect; split <;> rfl
@[simp] theorem reconnect_saved : s.reconnect.saved = s.saved := by
  delta reconnect; split <;> rfl
@[simp] theorem reconnect_handled : s.reconnect.handled = s.handled := by
  delta reconnect; split <;> rfl
@[simp] theorem reconnect_runs : s.reconnect.runs = s.runs := by
  delta reconnect; split <;> rfl
@[simp] theorem reconnect_errorListeners : s.reconnect.errorListeners = s.errorListeners := by
  delta reconnect; split <;> rfl
@[simp] theorem reconnect_reconnecting : s.reconnect.reconnecting = true := by
  delta reconnect; split <;> simp_all

/-- A reconnect leaves the stream as it is when one is scheduled, and removes
    its data listener otherwise. -/
theorem reconnect_stream :
    s.reconnect.stream = if s.reconnecting then s.stream else none := by
  delta reconnect; split <;> rfl

theorem next_deliver (h : next s .deliver = some s') : ∃ c, s.stream = some c ∧ s' = s.deliver c := by
  obtain ⟨c, hc, rfl⟩ := Option.map_eq_some_iff.mp h
  exact ⟨c, hc, rfl⟩

theorem next_eventHandlerOk {j : ℕ} (h : next s (.eventHandlerOk j) = some s') :
    ∃ n, s.runs[j]? = some ⟨n, .handling⟩ ∧ s' = s.markHandled j n := by
  delta next at h
  dsimp only at h
  split at h
  · rename_i n hRun
    exact ⟨n, hRun, (Option.some.inj h).symm⟩
  · cases h

theorem next_eventHandlerError {j : ℕ} (h : next s (.eventHandlerError j) = some s') :
    ∃ n, s.runs[j]? = some ⟨n, .handling⟩ ∧ s' = s.retry j n := by
  delta next at h
  dsimp only at h
  split at h
  · rename_i n hRun
    exact ⟨n, hRun, (Option.some.inj h).symm⟩
  · cases h

theorem next_persistEventOk {j : ℕ} (h : next s (.persistEventOk j) = some s') :
    ∃ n, s.runs[j]? = some ⟨n, .persisting⟩ ∧ s' = s.save j n := by
  delta next at h
  dsimp only at h
  split at h
  · rename_i n hRun
    exact ⟨n, hRun, (Option.some.inj h).symm⟩
  · cases h

theorem next_persistEventError {j : ℕ} (h : next s (.persistEventError j) = some s') :
    ∃ n, s.runs[j]? = some ⟨n, .persisting⟩ ∧ s' = s.retry j n := by
  delta next at h
  dsimp only at h
  split at h
  · rename_i n hRun
    exact ⟨n, hRun, (Option.some.inj h).symm⟩
  · cases h

theorem next_getLatestSequenceOk {k : ℕ} (h : next s (.getLatestSequenceOk k) = some s') :
    s.errorListeners[k]? = some none ∧ s' = s.readLatest k := by
  delta next at h
  dsimp only at h
  split at h
  · rename_i hk
    exact ⟨hk, (Option.some.inj h).symm⟩
  · cases h

theorem next_getLatestSequenceError {k : ℕ} (h : next s (.getLatestSequenceError k) = some s') :
    s' = s.endErrorListener k := by
  delta next at h
  dsimp only at h
  split at h
  · exact (Option.some.inj h).symm
  · cases h

theorem next_setAfterSequence {k : ℕ} (h : next s (.setAfterSequence k) = some s') :
    ∃ p, s.errorListeners[k]? = some (some p) ∧ s' = { s.endErrorListener k with afterSequence := p } := by
  delta next at h
  dsimp only at h
  split at h
  · rename_i p hk
    exact ⟨p, hk, (Option.some.inj h).symm⟩
  · cases h

theorem next_connect (h : next s .connect = some s') : s.reconnecting = true ∧ s' = s.connect := by
  delta next at h
  dsimp only at h
  split at h
  · rename_i hr
    exact ⟨hr, (Option.some.inj h).symm⟩
  · cases h

end Steps

-- ============================================================================
-- Two facts about lists of calls
-- ============================================================================

section Calls

variable {α : Type} {l : List α} {j : ℕ} {a b : α}

/-- A call other than the one at `j` is still in progress once `j` returns. -/
theorem mem_eraseIdx_of_ne (hj : l[j]? = some b) (ha : a ∈ l) (hne : a ≠ b) :
    a ∈ l.eraseIdx j := by
  obtain ⟨i, hi⟩ := List.mem_iff_getElem?.mp ha
  have hij : i ≠ j := by
    rintro rfl
    exact hne (Option.some.inj (hi.symm.trans hj))
  exact List.mem_eraseIdx_iff_getElem?.mpr ⟨i, hij, hi⟩

/-- A call other than the one at `j` is untouched when `j` steps. -/
theorem mem_set_of_ne (hj : l[j]? = some b) (ha : a ∈ l) (hne : a ≠ b) (c : α) :
    a ∈ l.set j c := by
  obtain ⟨i, hi⟩ := List.mem_iff_getElem?.mp ha
  have hji : j ≠ i := by
    rintro rfl
    exact hne (Option.some.inj (hi.symm.trans hj))
  exact List.mem_iff_getElem?.mpr ⟨i, by rw [List.getElem?_set_ne hji, hi]⟩

end Calls

-- ============================================================================
-- Overlapping handlers: a restart passes an unhandled event for good
-- ============================================================================

section Passed

variable {s : BriaSubscriber} {m : ℕ}

/-- The event `m` is not handled, and every point the subscriber may resume
    from, every sequence it may read and every call in progress lie at or
    past it. -/
structure Passed (m : ℕ) (s : BriaSubscriber) : Prop where
  unhandled : m ∉ s.handled
  afterSequence : m ≤ s.afterSequence
  latest : m ≤ latestSequence s.saved
  errorListeners : ∀ p, some p ∈ s.errorListeners → m ≤ p
  runs : ∀ r ∈ s.runs, m < r.sequence
  stream : ∀ c, s.stream = some c → m ≤ c

theorem Passed.reconnect (hs : Passed m s) : Passed m s.reconnect where
  unhandled := by simpa using hs.unhandled
  afterSequence := by simpa using hs.afterSequence
  latest := by simpa using hs.latest
  errorListeners := by simpa using hs.errorListeners
  runs := by simpa using hs.runs
  stream c hc := by
    rw [reconnect_stream] at hc
    split at hc
    · exact hs.stream c hc
    · cases hc

/-- The error path of a call past `m` resumes past `m`. -/
theorem Passed.retry (hs : Passed m s) {j n : ℕ} {step : DataHandlerStep}
    (hRun : s.runs[j]? = some ⟨n, step⟩) : Passed m (s.retry j n) := by
  have hn : m < n := hs.runs _ (List.mem_of_getElem? hRun)
  apply Passed.reconnect
  exact {
    unhandled := hs.unhandled
    afterSequence := by dsimp only; omega
    latest := hs.latest
    errorListeners := hs.errorListeners
    runs := fun r hr => hs.runs r (List.mem_of_mem_eraseIdx hr)
    stream := hs.stream }

theorem Passed.next (hs : Passed m s) {a : SubscriberAction} {s' : BriaSubscriber}
    (hStep : BriaSubscriber.next s a = some s') : Passed m s' := by
  cases a with
  | deliver =>
    obtain ⟨c, hc, rfl⟩ := next_deliver hStep
    have hmc := hs.stream c hc
    refine { hs with runs := ?_, stream := ?_ }
    · intro r hr
      rcases List.mem_append.mp hr with hr | hr
      · exact hs.runs r hr
      · rw [List.mem_singleton.mp hr]
        dsimp only
        omega
    · intro c' hc'
      cases hc'
      omega
  | eventHandlerOk j =>
    obtain ⟨n, hRun, rfl⟩ := next_eventHandlerOk hStep
    have hn : m < n := hs.runs _ (List.mem_of_getElem? hRun)
    refine { hs with unhandled := ?_, runs := ?_ }
    · simp only [markHandled, List.mem_append, List.mem_singleton, not_or]
      exact ⟨hs.unhandled, by omega⟩
    · intro r hr
      rcases List.mem_or_eq_of_mem_set hr with hr | rfl
      · exact hs.runs r hr
      · exact hn
  | eventHandlerError j =>
    obtain ⟨n, hRun, rfl⟩ := next_eventHandlerError hStep
    exact hs.retry hRun
  | persistEventOk j =>
    obtain ⟨n, hRun, rfl⟩ := next_persistEventOk hStep
    exact { hs with
      latest := Nat.le_trans hs.latest (latestSequence_le_append _ _)
      runs := fun r hr => hs.runs r (List.mem_of_mem_eraseIdx hr) }
  | persistEventError j =>
    obtain ⟨n, hRun, rfl⟩ := next_persistEventError hStep
    exact hs.retry hRun
  | streamError =>
    cases hStep
    refine { hs.reconnect with errorListeners := ?_ }
    intro p hp
    simp only [streamError, List.mem_append, List.mem_singleton, reduceCtorEq, or_false] at hp
    exact hs.errorListeners p hp
  | streamEnd =>
    cases hStep
    exact hs.reconnect
  | getLatestSequenceOk k =>
    obtain ⟨-, rfl⟩ := next_getLatestSequenceOk hStep
    refine { hs with errorListeners := ?_ }
    intro p hp
    rcases List.mem_or_eq_of_mem_set hp with hp | hp
    · exact hs.errorListeners p hp
    · rw [Option.some.inj hp]
      exact hs.latest
  | getLatestSequenceError k =>
    rw [next_getLatestSequenceError hStep]
    exact { hs with errorListeners := fun p hp => hs.errorListeners p (List.mem_of_mem_eraseIdx hp) }
  | setAfterSequence k =>
    obtain ⟨p, hk, rfl⟩ := next_setAfterSequence hStep
    exact { hs with
      afterSequence := hs.errorListeners p (List.mem_of_getElem? hk)
      errorListeners := fun p hp => hs.errorListeners p (List.mem_of_mem_eraseIdx hp) }
  | connect =>
    obtain ⟨-, rfl⟩ := next_connect hStep
    refine { hs with stream := ?_ }
    intro c hc
    cases hc
    exact hs.afterSequence
  | restart =>
    cases hStep
    exact {
      unhandled := hs.unhandled
      afterSequence := hs.latest
      latest := hs.latest
      errorListeners := nofun
      runs := nofun
      stream := fun c hc => by
        cases hc
        exact hs.latest }

/-- A restarted subscriber passes every unhandled event at or below the latest
    saved sequence. -/
theorem passed_restart (hUnhandled : m ∉ s.handled) (hSaved : m ≤ latestSequence s.saved) :
    Passed m s.restart where
  unhandled := hUnhandled
  afterSequence := hSaved
  latest := hSaved
  errorListeners := nofun
  runs := nofun
  stream c hc := by
    cases hc
    exact hSaved

/-- After a restart, an event that no handler has handled and that lies at or
    below the latest saved sequence is never handled, whatever happens next:
    no step of the subscriber resumes below the latest saved sequence, and no
    delivery goes back. -/
theorem restart_skips_unhandled {s s' : BriaSubscriber} {m : ℕ} (hUnhandled : m ∉ s.handled)
    (hSaved : m ≤ latestSequence s.saved) (h : Reachable next s.restart s') : m ∉ s'.handled :=
  (Invariant.holds ⟨passed_restart hUnhandled hSaved, fun _ _ _ hs hStep => hs.next hStep⟩ h).unhandled

/-- The events 1 and 2 delivered at once: the handler of 2 returns and saves it
    while the handler of 1 is still running. -/
def overlappingHandlers : List SubscriberAction :=
  [.deliver, .deliver, .eventHandlerOk 1, .persistEventOk 1]

/-- A restart in that state resumes after 2: the next event handled is 3, and
    the event 1 is never handled. -/
theorem restart_after_overlap_skips_first :
    ∃ s s', run next initial overlappingHandlers = some s ∧
      run next s.restart [.deliver, .eventHandlerOk 0, .persistEventOk 0] = some s' ∧
      s'.handled = [2, 3] ∧ 1 ∉ s'.handled :=
  ⟨_, _, rfl, rfl, rfl, restart_skips_unhandled (by decide) (by decide)
    (@reachable_of_run _ _ next _ _ [.deliver, .eventHandlerOk 0, .persistEventOk 0] rfl)⟩

end Passed

-- ============================================================================
-- One handler at a time: no event is passed before it is handled
-- ============================================================================

section OneAtATime

/-- Every event from `1` to `n` has been handled. -/
def HandledUpTo (handled : List ℕ) (n : ℕ) : Prop :=
  ∀ m, 0 < m → m ≤ n → m ∈ handled

namespace HandledUpTo

variable {handled : List ℕ} {n : ℕ}

theorem zero (handled : List ℕ) : HandledUpTo handled 0 := fun _ hm hm0 => by omega

theorem append (h : HandledUpTo handled n) (xs : List ℕ) : HandledUpTo (handled ++ xs) n :=
  fun m hm hmn => List.mem_append_left xs (h m hm hmn)

/-- The events up to `n - 1`, and then `n`. -/
theorem succ (h : HandledUpTo handled (n - 1)) (hn : n ∈ handled) : HandledUpTo handled n := by
  intro m hm hmn
  rcases Nat.lt_or_eq_of_le hmn with hlt | rfl
  · exact h m hm (by omega)
  · exact hn

end HandledUpTo

variable {s : BriaSubscriber}

/-- Every point the subscriber may resume from has only handled events below
    it: the request's `after_sequence`, each saved sequence, each sequence an
    error listener has read, and the stream's last delivery unless that
    event's handler is still running.  A call in progress has every event
    below its own handled, and its own once the handler has returned. -/
structure Resumable (s : BriaSubscriber) : Prop where
  afterSequence : HandledUpTo s.handled s.afterSequence
  saved : ∀ p ∈ s.saved, HandledUpTo s.handled p
  errorListeners : ∀ p, some p ∈ s.errorListeners → HandledUpTo s.handled p
  runs : ∀ r ∈ s.runs, HandledUpTo s.handled (r.sequence - 1) ∧
    (r.step = .persisting → r.sequence ∈ s.handled)
  stream : ∀ c, s.stream = some c → HandledUpTo s.handled c ∨ ⟨c, .handling⟩ ∈ s.runs
  stream_none : s.reconnecting = true → s.stream = none

theorem Resumable.latest (hs : Resumable s) : HandledUpTo s.handled (latestSequence s.saved) := by
  rcases latestSequence_eq_zero_or_mem s.saved with h | h
  · rw [h]
    exact HandledUpTo.zero _
  · exact hs.saved _ h

/-- After `reconnect` the stream has no data listener: a scheduled reconnect
    has already removed it. -/
theorem reconnect_stream_none (h : s.reconnecting = true → s.stream = none) :
    s.reconnect.stream = none := by
  rw [reconnect_stream]
  split
  · rename_i hr
    exact h hr
  · rfl

/-- The error path of a call always leaves the stream without a data listener. -/
theorem retry_stream (h : s.reconnecting = true → s.stream = none) {j n : ℕ} :
    (s.retry j n).stream = none :=
  reconnect_stream_none h

theorem Resumable.reconnect (hs : Resumable s) : Resumable s.reconnect where
  afterSequence := by simpa using hs.afterSequence
  saved := by simpa using hs.saved
  errorListeners := by simpa using hs.errorListeners
  runs := by simpa using hs.runs
  stream c hc := by
    rw [reconnect_stream_none hs.stream_none] at hc
    cases hc
  stream_none _ := reconnect_stream_none hs.stream_none

/-- The error path of a call resumes just below its event. -/
theorem Resumable.retry (hs : Resumable s) {j n : ℕ} {step : DataHandlerStep}
    (hRun : s.runs[j]? = some ⟨n, step⟩) : Resumable (s.retry j n) where
  afterSequence := by simpa [BriaSubscriber.retry] using (hs.runs _ (List.mem_of_getElem? hRun)).1
  saved := by simpa [BriaSubscriber.retry] using hs.saved
  errorListeners := by simpa [BriaSubscriber.retry] using hs.errorListeners
  runs r hr := by
    simp only [BriaSubscriber.retry, reconnect_runs, reconnect_handled] at hr ⊢
    exact hs.runs r (List.mem_of_mem_eraseIdx hr)
  -- the stream may have delivered the failed event last: it loses its data
  -- listener here, unless a scheduled reconnect has removed it already
  stream c hc := by
    rw [retry_stream hs.stream_none] at hc
    cases hc
  stream_none _ := retry_stream hs.stream_none

theorem Resumable.stream_idle (hs : Resumable s) {c : ℕ} (hc : s.stream = some c)
    (hIdle : s.runs = []) : HandledUpTo s.handled c := by
  rcases hs.stream c hc with hc' | hc'
  · exact hc'
  · rw [hIdle] at hc'
    cases hc'

/-- With no handler running, the stream delivers an event whose predecessors
    are all handled. -/
theorem Resumable.deliver (hs : Resumable s) {c : ℕ} (hc : s.stream = some c)
    (hIdle : s.runs = []) : Resumable (s.deliver c) := by
  have hBelow := hs.stream_idle hc hIdle
  exact {
    afterSequence := hs.afterSequence
    saved := hs.saved
    errorListeners := hs.errorListeners
    runs := fun r hr => by
      simp only [BriaSubscriber.deliver, hIdle, List.nil_append, List.mem_singleton] at hr
      subst hr
      refine ⟨?_, nofun⟩
      show HandledUpTo s.handled (c + 1 - 1)
      rw [Nat.add_sub_cancel]
      exact hBelow
    stream := fun c' hc' => by
      cases hc'
      exact .inr (List.mem_append_right _ (List.mem_singleton_self _))
    stream_none := fun hr => by
      rw [hs.stream_none hr] at hc
      cases hc }

theorem Resumable.markHandled (hs : Resumable s) {j n : ℕ}
    (hRun : s.runs[j]? = some ⟨n, .handling⟩) : Resumable (s.markHandled j n) := by
  have hBelow : HandledUpTo s.handled (n - 1) := (hs.runs _ (List.mem_of_getElem? hRun)).1
  have hn : n ∈ s.handled ++ [n] := List.mem_append_right _ (List.mem_singleton_self n)
  exact {
    afterSequence := hs.afterSequence.append [n]
    saved := fun p hp => (hs.saved p hp).append [n]
    errorListeners := fun p hp => (hs.errorListeners p hp).append [n]
    runs := fun r hr => by
      rcases List.mem_or_eq_of_mem_set hr with hr | rfl
      · obtain ⟨hr1, hr2⟩ := hs.runs r hr
        exact ⟨hr1.append [n], fun hp => List.mem_append_left _ (hr2 hp)⟩
      · exact ⟨hBelow.append [n], fun _ => hn⟩
    stream := fun c hc => by
      rcases hs.stream c hc with hc' | hc'
      · exact .inl (hc'.append [n])
      -- the stream's last delivery is the event just handled, or its call is untouched
      · by_cases hEq : (⟨c, .handling⟩ : DataHandlerRun) = ⟨n, .handling⟩
        · have hcn : c = n := congrArg DataHandlerRun.sequence hEq
          rw [hcn]
          exact .inl ((hBelow.append [n]).succ hn)
        · exact .inr (mem_set_of_ne hRun hc' hEq _)
    stream_none := hs.stream_none }

theorem Resumable.save (hs : Resumable s) {j n : ℕ}
    (hRun : s.runs[j]? = some ⟨n, .persisting⟩) : Resumable (s.save j n) := by
  obtain ⟨hBelow, hHandled⟩ := hs.runs _ (List.mem_of_getElem? hRun)
  exact {
    afterSequence := hs.afterSequence
    saved := fun p hp => by
      rcases List.mem_append.mp hp with hp | hp
      · exact hs.saved p hp
      · rw [List.mem_singleton.mp hp]
        exact hBelow.succ (hHandled rfl)
    errorListeners := hs.errorListeners
    runs := fun r hr => hs.runs r (List.mem_of_mem_eraseIdx hr)
    stream := fun c hc => (hs.stream c hc).imp_right fun hc' =>
      mem_eraseIdx_of_ne hRun hc' (by simp)
    stream_none := hs.stream_none }

theorem Resumable.streamError (hs : Resumable s) : Resumable s.streamError :=
  { hs.reconnect with
    errorListeners := fun p hp => by
      simp only [BriaSubscriber.streamError, List.mem_append, List.mem_singleton, reduceCtorEq,
        or_false] at hp
      simpa [BriaSubscriber.streamError] using hs.errorListeners p hp }

/-- The error listener reads the latest saved sequence, below which all is handled. -/
theorem Resumable.readLatest (hs : Resumable s) (k : ℕ) : Resumable (s.readLatest k) :=
  { hs with
    errorListeners := fun p hp => by
      rcases List.mem_or_eq_of_mem_set hp with hp | hp
      · exact hs.errorListeners p hp
      · rw [Option.some.inj hp]
        exact hs.latest }

theorem Resumable.endErrorListener (hs : Resumable s) (k : ℕ) :
    Resumable (s.endErrorListener k) :=
  { hs with errorListeners := fun p hp => hs.errorListeners p (List.mem_of_mem_eraseIdx hp) }

theorem Resumable.connect (hs : Resumable s) : Resumable s.connect :=
  { hs with
    stream := fun c hc => by
      cases hc
      exact .inl hs.afterSequence
    stream_none := fun h => by cases h }

theorem Resumable.restart (hs : Resumable s) : Resumable s.restart where
  afterSequence := hs.latest
  saved := hs.saved
  errorListeners := nofun
  runs := nofun
  stream c hc := by
    cases hc
    exact .inl hs.latest
  stream_none h := by cases h

theorem Resumable.next (hs : Resumable s) {a : SubscriberAction} {s' : BriaSubscriber}
    (hStep : restrict BriaSubscriber.next oneAtATime s a = some s') : Resumable s' := by
  obtain ⟨hAllowed, hStep⟩ := restrict_eq_some hStep
  cases a with
  | deliver =>
    obtain ⟨c, hc, rfl⟩ := next_deliver hStep
    exact hs.deliver hc (List.isEmpty_iff.mp hAllowed)
  | eventHandlerOk j =>
    obtain ⟨n, hRun, rfl⟩ := next_eventHandlerOk hStep
    exact hs.markHandled hRun
  | eventHandlerError j =>
    obtain ⟨n, hRun, rfl⟩ := next_eventHandlerError hStep
    exact hs.retry hRun
  | persistEventOk j =>
    obtain ⟨n, hRun, rfl⟩ := next_persistEventOk hStep
    exact hs.save hRun
  | persistEventError j =>
    obtain ⟨n, hRun, rfl⟩ := next_persistEventError hStep
    exact hs.retry hRun
  | streamError =>
    cases hStep
    exact hs.streamError
  | streamEnd =>
    cases hStep
    exact hs.reconnect
  | getLatestSequenceOk k =>
    obtain ⟨-, rfl⟩ := next_getLatestSequenceOk hStep
    exact hs.readLatest k
  | getLatestSequenceError k =>
    rw [next_getLatestSequenceError hStep]
    exact hs.endErrorListener k
  | setAfterSequence k =>
    obtain ⟨p, hk, rfl⟩ := next_setAfterSequence hStep
    exact { hs.endErrorListener k with
      afterSequence := hs.errorListeners p (List.mem_of_getElem? hk) }
  | connect =>
    obtain ⟨-, rfl⟩ := next_connect hStep
    exact hs.connect
  | restart =>
    cases hStep
    exact hs.restart

theorem resumable_initial : Resumable initial where
  afterSequence := HandledUpTo.zero _
  saved := nofun
  errorListeners := nofun
  runs := nofun
  stream c hc := by
    cases hc
    exact .inl (HandledUpTo.zero _)
  stream_none h := by cases h

/-- When bria delivers an event only once no handler is running, every event
    is handled before the subscriber can pass it: all events are handled up to
    the request's `after_sequence` (where a reconnect resumes), up to the
    latest saved sequence (where a restart resumes), and up to the stream's
    last delivery once its handler has returned (where the stream goes on). -/
theorem oneAtATime_resumes_after_handled {s : BriaSubscriber}
    (h : Reachable (restrict next oneAtATime) initial s) :
    HandledUpTo s.handled s.afterSequence ∧ HandledUpTo s.handled (latestSequence s.saved) ∧
      ∀ c, s.stream = some c → s.runs = [] → HandledUpTo s.handled c := by
  have hs : Resumable s := Invariant.holds ⟨resumable_initial, fun _ _ _ hs hStep => hs.next hStep⟩ h
  exact ⟨hs.afterSequence, hs.latest, fun _ hc hIdle => hs.stream_idle hc hIdle⟩

/-- One handler at a time: a handler error and a reconnect, two events
    handled and saved, a stream error whose listener reads the latest sequence,
    and a reconnect after it. -/
def handledOneAtATime : List SubscriberAction :=
  [.deliver, .eventHandlerError 0, .connect, .deliver, .eventHandlerOk 0, .persistEventOk 0,
    .deliver, .eventHandlerOk 0, .streamError, .persistEventOk 0, .getLatestSequenceOk 0,
    .setAfterSequence 0, .connect]

theorem handledOneAtATime_resumes_after_two :
    ∃ s, run (restrict next oneAtATime) initial handledOneAtATime = some s ∧
      s.afterSequence = 2 ∧ s.stream = some 2 ∧
      (HandledUpTo s.handled s.afterSequence ∧ HandledUpTo s.handled (latestSequence s.saved) ∧
        ∀ c, s.stream = some c → s.runs = [] → HandledUpTo s.handled c) :=
  ⟨_, rfl, rfl, rfl, oneAtATime_resumes_after_handled
    (@reachable_of_run _ _ (restrict next oneAtATime) _ _ handledOneAtATime rfl)⟩

end OneAtATime

end BriaSubscriber

end Galoy
