/-
  Galoy.Payments.PendingLnPaymentSpec

  What holds of the journals of a payment hash over every interleaving of send
  attempts and update runs (`Galoy.Payments.PendingLnPayment`), and what rests
  on the wallet lock.

  Over every interleaving, with any wallets paying the hash and any leases
  lost, only send journals are ever pending, and every revert or reimbursement
  names a send journal of the hash none of whose transactions is pending
  (`resolutions_of_settled_sends`): a run writes only once its `updateMany`
  has passed every transaction of its journal, and no transaction becomes
  pending again.

  How many runs go on from `settlePendingLnSend` rests on the lock.  When every
  attempt is from one wallet and no lease runs out, the locked sections run one
  at a time, so an `updateMany` settles every pending transaction before any
  other run writes, and the hash never holds more reverts and reimbursements
  than send journals (`resolutions_le_sends`).  Two wallets paying the same
  invoice take two locks: the updates of their runs split the pending
  transactions of one journal, both runs go on, and a failed payment is
  reimbursed twice (`twoWallets_resolutions_exceed_sends`).  An update run
  reads lnd before it takes the lock: with a second attempt on the hash it
  reimburses the first attempt a second time and leaves the second settled with
  nothing written for it, every locked section running alone
  (`staleUpdate_reimbursesTwice`).
-/

import Galoy.Lib.Transition
import Galoy.Payments.PendingLnPayment

namespace Galoy

open Transition

-- ============================================================================
-- Counting
-- ============================================================================

/-- Replacing `b` by `a` changes the count by their flags. -/
theorem countP_set_add {α : Type} {p : α → Bool} {l : List α} {i : ℕ} {a b : α}
    (hi : l[i]? = some b) :
    (l.set i a).countP p + (if p b then 1 else 0) = l.countP p + (if p a then 1 else 0) := by
  obtain ⟨hLt, rfl⟩ := List.getElem?_eq_some_iff.mp hi
  have hLe := List.boole_getElem_le_countP (p := p) hLt
  rw [List.countP_set hLt]
  omega

/-- Replacing an element by one the predicate agrees on keeps the count. -/
theorem countP_set_of_eq {α : Type} {p : α → Bool} {l : List α} {i : ℕ} {a b : α}
    (hi : l[i]? = some b) (h : p a = p b) : (l.set i a).countP p = l.countP p := by
  have hCount := countP_set_add (p := p) (a := a) hi
  rw [h] at hCount
  omega

/-- An element of a list with one more at its end. -/
theorem getElem?_concat_eq_some {α : Type} {l : List α} {a x : α} {j : ℕ}
    (h : (l ++ [a])[j]? = some x) : l[j]? = some x ∨ (j = l.length ∧ x = a) := by
  by_cases hj : j < l.length
  · rw [List.getElem?_append_left hj] at h
    exact .inl h
  · rw [List.getElem?_append_right (by omega)] at h
    obtain ⟨hLt, hx⟩ := List.getElem?_eq_some_iff.mp h
    simp only [List.length_singleton] at hLt
    exact .inr ⟨by omega, by simp at hx; exact hx.symm⟩

namespace LnJournalKind

theorem isSend_of_resolves {kind : LnJournalKind} {journalId : ℕ}
    (h : kind.resolves = some journalId) : kind.isSend = false := by
  cases kind <;> simp_all [resolves, isSend]

end LnJournalKind

namespace LnLedger

/-- The send journals. -/
def sends (ledger : LnLedger) : ℕ := ledger.journals.countP (·.kind.isSend)

/-- The reverts and reimbursements. -/
def resolutions (ledger : LnLedger) : ℕ := ledger.journals.countP (·.kind.resolves.isSome)

/-- The pending transactions. -/
def pendingTxns (ledger : LnLedger) : ℕ := ledger.txns.countP (·.pending)

section Counts

variable (ledger : LnLedger) (journal : LnJournal) (rows : ℕ) (pending : Bool)

@[simp] theorem sends_record :
    (ledger.record journal rows pending).sends =
      ledger.sends + if journal.kind.isSend then 1 else 0 := by
  simp [sends, record, List.countP_singleton]

@[simp] theorem resolutions_record :
    (ledger.record journal rows pending).resolutions =
      ledger.resolutions + if journal.kind.resolves.isSome then 1 else 0 := by
  simp [resolutions, record, List.countP_singleton]

@[simp] theorem pendingTxns_record :
    (ledger.record journal rows pending).pendingTxns =
      ledger.pendingTxns + if pending then rows else 0 := by
  simp [pendingTxns, record, List.countP_replicate]

@[simp] theorem settleTxn_txns (k : ℕ) (txn : LnTxn) :
    (ledger.settleTxn k txn).txns = ledger.txns.set k { txn with pending := false } := rfl

@[simp] theorem sends_settleTxn (k : ℕ) (txn : LnTxn) :
    (ledger.settleTxn k txn).sends = ledger.sends := rfl

@[simp] theorem resolutions_settleTxn (k : ℕ) (txn : LnTxn) :
    (ledger.settleTxn k txn).resolutions = ledger.resolutions := rfl

variable {ledger journal}

theorem pendingTxns_settleTxn {k : ℕ} {txn : LnTxn} (h : ledger.txns[k]? = some txn) :
    (ledger.settleTxn k txn).pendingTxns + (if txn.pending then 1 else 0) = ledger.pendingTxns := by
  have hCount := countP_set_add (p := (·.pending)) (a := { txn with pending := false }) h
  simpa [pendingTxns, settleTxn] using hCount

/-- A `void` writes no send journal and one revert, and its transactions copy
    pending flags that were counted already. -/
theorem counts_reverse {journalId : ℕ} (h : ledger.journals[journalId]? = some journal) :
    (ledger.reverse journalId journal).sends = ledger.sends ∧
      (ledger.reverse journalId journal).resolutions = ledger.resolutions + 1 ∧
      (ledger.reverse journalId journal).pendingTxns ≤ 2 * ledger.pendingTxns := by
  -- marking the journal voided keeps its kind
  have hSend := countP_set_of_eq (p := (·.kind.isSend))
    (a := { journal with voided := true }) h rfl
  have hResolves := countP_set_of_eq (p := (·.kind.resolves.isSome))
    (a := { journal with voided := true }) h rfl
  have hCopies : ((ledger.txns.filter (·.journalId == journalId)).map
      fun txn => (⟨ledger.journals.length, txn.pending⟩ : LnTxn)).countP (·.pending) ≤
      ledger.txns.countP (·.pending) := by
    rw [List.countP_map, List.countP_filter]
    exact List.countP_mono_left fun txn _ hp => by simp_all
  refine ⟨?_, ?_, ?_⟩
  · simp only [sends, reverse, List.countP_append, hSend, List.countP_singleton]
    simp [LnJournalKind.isSend]
  · simp only [resolutions, reverse, List.countP_append, hResolves, List.countP_singleton]
    simp [LnJournalKind.resolves]
  · simp only [pendingTxns, reverse, List.countP_append]
    omega

end Counts

end LnLedger

namespace LnPayment

section Locks

variable {s : LnPayment} {i : ℕ} {r r' : LnRun} {walletId : String}

theorem locks_setRun_of_locked (h : r'.locked = true) : (s.setRun i r').locks = s.locks := by
  simp [setRun, h]

theorem locks_setRun_of_ne (h : s.locks walletId ≠ some i) :
    (s.setRun i r').locks walletId = s.locks walletId := by
  unfold setRun
  split
  · rename_i hRelease
    simp only [Bool.and_eq_true, Bool.not_eq_true', beq_iff_eq] at hRelease
    -- only the lock the run holds is given back
    have hOther : walletId ≠ r'.walletId := fun hSame => h (hSame ▸ hRelease.2)
    exact Function.update_of_ne hOther _ _
  · rfl

theorem getElem?_runs_setRun (hi : s.runs[i]? = some r) (r' : LnRun) (j : ℕ) :
    (s.setRun i r').runs[j]? = if j = i then some r' else s.runs[j]? := by
  have hLt := (List.getElem?_eq_some_iff.mp hi).1
  by_cases hj : j = i
  · subst hj
    simp [List.getElem?_set_self hLt]
  · simp [hj, List.getElem?_set_ne (Ne.symm hj)]

/-- Run `i` moving to `r'` keeps every run in its locked section holding the
    lock, when `r'` holds it if it is in its locked section. -/
theorem holds_setRun
    (hHolds : ∀ j r, s.runs[j]? = some r → r.locked = true → s.locks walletId = some j)
    (hi : s.runs[i]? = some r) (hSelf : r'.locked = true → s.locks walletId = some i) :
    ∀ j r'', (s.setRun i r').runs[j]? = some r'' → r''.locked = true →
      (s.setRun i r').locks walletId = some j := by
  intro j r'' hj hLocked
  rw [getElem?_runs_setRun hi] at hj
  split at hj
  · rename_i hji
    subst hji
    cases hj
    rw [locks_setRun_of_locked hLocked]
    exact hSelf hLocked
  · rename_i hji
    have hHeld := hHolds j r'' hj hLocked
    rw [locks_setRun_of_ne (by rw [hHeld]; simpa using hji)]
    exact hHeld

end Locks

-- ============================================================================
-- One wallet, leases held: the locked sections run alone
-- ============================================================================

/-- An `updateMany` at `u` that has the transactions to itself: it began with
    all there are, and has settled those below its position. -/
def Sweeping (txns : List LnTxn) (u : UpdateMany) : Prop :=
  u.total = txns.length ∧ ∀ (k : ℕ) (txn : LnTxn), k < u.position → txns[k]? = some txn → txn.pending = false

/-- With every run of the wallet `walletId` and no lease lost: each run in its
    locked section holds the lock, and an `updateMany` under way has the
    transactions to itself. -/
structure Exclusive (walletId : String) (s : LnPayment) : Prop where
  runs_walletId : ∀ r ∈ s.runs, r.walletId = walletId
  journals_walletId : ∀ journal ∈ s.ledger.journals, journal.walletId = walletId
  holds : ∀ (i : ℕ) (r : LnRun), s.runs[i]? = some r → r.locked = true →
    s.locks walletId = some i
  sweeping : ∀ (i : ℕ) (r : LnRun) (u : UpdateMany), s.runs[i]? = some r →
    r.updateMany = some u → Sweeping s.ledger.txns u

section Exclusive

variable {mediciVoid : MediciVoid} {walletId : String} {s s' : LnPayment} {i : ℕ} {r : LnRun}
  {a : LnPaymentAction}

/-- No run but the lock holder is in its locked section. -/
theorem Exclusive.alone (h : Exclusive walletId s) (hi : s.runs[i]? = some r)
    (hLocked : r.locked = true) {j : ℕ} {r' : LnRun} (hj : s.runs[j]? = some r') (hji : j ≠ i) :
    r'.locked = false := by
  cases hLocked' : r'.locked
  · rfl
  · have hHeld := h.holds j r' hj hLocked'
    rw [h.holds i r hi hLocked, Option.some.injEq] at hHeld
    exact absurd hHeld.symm hji

/-- While a run is in its locked section, no other run is in an `updateMany`. -/
theorem Exclusive.others_idle (h : Exclusive walletId s) (hi : s.runs[i]? = some r)
    (hLocked : r.locked = true) {j : ℕ} {r' : LnRun} (hj : s.runs[j]? = some r') (hji : j ≠ i) :
    r'.updateMany = none := by
  cases hScan : r'.updateMany with
  | none => rfl
  | some u =>
    have hIdle := h.alone hi hLocked hj hji
    rw [LnRun.locked_of_updateMany hScan] at hIdle
    cases hIdle

/-- A run that moves to `r'` of its wallet keeps every run of the wallet. -/
theorem Exclusive.runs_walletId_setRun (h : Exclusive walletId s) (hi : s.runs[i]? = some r)
    {r' : LnRun} (hWallet : r'.walletId = r.walletId) :
    ∀ r'' ∈ (s.setRun i r').runs, r''.walletId = walletId := by
  intro r'' hr''
  rcases List.mem_or_eq_of_mem_set hr'' with hOld | rfl
  · exact h.runs_walletId r'' hOld
  · rw [hWallet]
    exact h.runs_walletId r (List.mem_of_getElem? hi)

/-- Run `i` moving on to `r'` of its wallet, in no `updateMany`, keeps the
    invariant when `r'` holds the lock if it is in its locked section. -/
theorem Exclusive.moveOn (h : Exclusive walletId s) (hi : s.runs[i]? = some r) {r' : LnRun}
    (hWallet : r'.walletId = r.walletId) (hScan : r'.updateMany = none)
    (hSelf : r'.locked = true → s.locks walletId = some i) :
    Exclusive walletId (s.setRun i r') := by
  refine ⟨h.runs_walletId_setRun hi hWallet, h.journals_walletId, holds_setRun h.holds hi hSelf,
    fun j r'' u hj hScan'' => ?_⟩
  rw [getElem?_runs_setRun hi] at hj
  split at hj
  · cases hj
    rw [hScan] at hScan''
    cases hScan''
  · exact h.sweeping j r'' u hj hScan''

/-- Run `i`, in its locked section, moves to `r'` and writes `ledger'`: the
    invariant holds when `r'` is of the wallet and its `updateMany`, if any,
    has `ledger'` to itself. -/
theorem Exclusive.setRun (h : Exclusive walletId s) (hi : s.runs[i]? = some r)
    (hLocked : r.locked = true) {r' : LnRun} (hWallet : r'.walletId = r.walletId)
    (ledger' : LnLedger) (hJournals : ∀ journal ∈ ledger'.journals, journal.walletId = walletId)
    (hSweeping : ∀ u, r'.updateMany = some u → Sweeping ledger'.txns u) :
    Exclusive walletId { s.setRun i r' with ledger := ledger' } := by
  refine ⟨h.runs_walletId_setRun hi hWallet, hJournals,
    holds_setRun h.holds hi fun _ => h.holds i r hi hLocked, fun j r'' u hj hScan => ?_⟩
  · simp only [setRun_runs] at hj
    rw [← setRun_runs s i r', getElem?_runs_setRun hi] at hj
    split at hj
    · cases hj
      exact hSweeping u hScan
    -- the other runs are in no `updateMany`
    · rename_i hji
      rw [h.others_idle hi hLocked hj hji] at hScan
      cases hScan

/-- A run that starts keeps the invariant when it is of the wallet and outside
    its locked section. -/
theorem Exclusive.start (h : Exclusive walletId s) {r' : LnRun}
    (hWallet : r'.walletId = walletId) (hLocked : r'.locked = false)
    (hScan : r'.updateMany = none) : Exclusive walletId { s with runs := s.runs ++ [r'] } := by
  refine ⟨fun r'' hr'' => ?_, h.journals_walletId, fun j r'' hj hLocked'' => ?_, fun j r'' u hj hScan'' => ?_⟩
  · rcases List.mem_append.mp hr'' with hOld | hNew
    · exact h.runs_walletId r'' hOld
    · rw [List.mem_singleton.mp hNew]
      exact hWallet
  · rcases getElem?_concat_eq_some hj with hOld | ⟨-, rfl⟩
    · exact h.holds j r'' hOld hLocked''
    · rw [hLocked] at hLocked''
      cases hLocked''
  · rcases getElem?_concat_eq_some hj with hOld | ⟨-, rfl⟩
    · exact h.sweeping j r'' u hOld hScan''
    · rw [hScan] at hScan''
      cases hScan''

/-- The ledger a settled run writes keeps every journal of the wallet. -/
theorem Resolution.journals_walletId (hVoid : mediciVoid.Lawful) {ledger ledger' : LnLedger}
    {journalId : ℕ} (hResolution : Resolution mediciVoid ledger walletId journalId ledger')
    (hJournals : ∀ journal ∈ ledger.journals, journal.walletId = walletId) :
    ∀ journal ∈ ledger'.journals, journal.walletId = walletId := by
  cases hResolution with
  | nothing => exact hJournals
  | receipt kind _ rows =>
    intro journal hMem
    rcases List.mem_append.mp hMem with hOld | hNew
    · exact hJournals journal hOld
    · rw [List.mem_singleton.mp hNew]
  | voided hVoided =>
    obtain ⟨original, hOriginal, rfl⟩ := hVoid.void_eq_ok _ _ _ hVoided
    have hWallet := hJournals original (List.mem_of_getElem? hOriginal)
    intro journal hMem
    rcases List.mem_append.mp hMem with hOld | hNew
    · rcases List.mem_or_eq_of_mem_set hOld with hOld | rfl
      · exact hJournals journal hOld
      · exact hWallet
    · rw [List.mem_singleton.mp hNew]
      exact hWallet

/-- One document more of an `updateMany` that has the transactions to itself. -/
theorem Sweeping.settleTxn {ledger : LnLedger} {u : UpdateMany} {txn : LnTxn}
    (h : Sweeping ledger.txns u) (hTxn : ledger.txns[u.position]? = some txn) (modified : Bool) :
    Sweeping (ledger.settleTxn u.position txn).txns ⟨u.position + 1, u.total, modified⟩ := by
  obtain ⟨hTotal, hSettled⟩ := h
  have hLt := (List.getElem?_eq_some_iff.mp hTxn).1
  refine ⟨by simpa using hTotal, fun k txn' hk hk' => ?_⟩
  simp only [LnLedger.settleTxn_txns] at hk'
  by_cases hSame : k = u.position
  · -- the transaction just settled
    subst hSame
    rw [List.getElem?_set_self hLt, Option.some.injEq] at hk'
    rw [← hk']
  · rw [List.getElem?_set_ne (Ne.symm hSame)] at hk'
    exact hSettled k txn' (by simp only at hk; omega) hk'

/-- Every move of a run of the wallet, with no lease lost, keeps the invariant. -/
theorem Exclusive.move (hVoid : mediciVoid.Lawful) (h : Exclusive walletId s)
    (hMove : Move mediciVoid s a s') (hAllowed : singleWallet walletId s a = true) :
    Exclusive walletId s' := by
  cases hMove with
  | startSend paymentFlow rawRoute =>
    exact h.start (by simpa [singleWallet, LnRun.walletId] using hAllowed) rfl rfl
  | startUpdate txn _ _ journal hJournal =>
    exact h.start (h.journals_walletId journal (List.mem_of_getElem? hJournal)) rfl rfl
  | advance i r r' hi hWallet hLocked _ hScan _ =>
    exact h.moveOn hi hWallet hScan fun hl => h.holds i r hi (hLocked hl)
  | enter i r r' hi hWallet hFree _ hScan _ =>
    -- the lock was free, so no run was in its locked section
    have hRun := h.runs_walletId r (List.mem_of_getElem? hi)
    have hNone : ∀ (j : ℕ) (r'' : LnRun), s.runs[j]? = some r'' → r''.locked = false := by
      intro j r'' hj
      cases hLocked : r''.locked
      · rfl
      · have hHeld := h.holds j r'' hj hLocked
        rw [← hRun, hFree] at hHeld
        cases hHeld
    have hAcquire : Exclusive walletId (s.acquire r.walletId i) :=
      ⟨h.runs_walletId, h.journals_walletId,
        fun j r'' hj hLocked => (by rw [hNone j r'' hj] at hLocked; cases hLocked), h.sweeping⟩
    exact hAcquire.moveOn hi hWallet hScan fun _ => by simp [acquire, hRun]
  | recordSend i r r' hi hWallet hLocked _ _ hScan _ feeKnownInAdvance rows =>
    refine h.setRun hi hLocked hWallet _ (fun journal hMem => ?_) fun u hScan' => ?_
    · rcases List.mem_append.mp hMem with hOld | hNew
      · exact h.journals_walletId journal hOld
      · rw [List.mem_singleton.mp hNew]
        exact h.runs_walletId r (List.mem_of_getElem? hi)
    · rw [hScan] at hScan'
      cases hScan'
  | beginScan i r r' hi hWallet hLocked _ _ hScan _ =>
    refine h.setRun hi hLocked hWallet s.ledger h.journals_walletId fun u hScan' => ?_
    rw [hScan, Option.some.injEq] at hScan'
    subst hScan'
    exact ⟨rfl, fun k _ hk => absurd hk (Nat.not_lt_zero k)⟩
  | updateOne i r hi u hScan txn hTxn =>
    have hLocked := LnRun.locked_of_updateMany hScan
    obtain ⟨hScan', hWallet, -⟩ := LnRun.withUpdateMany_of_updateMany hScan
      ⟨u.position + 1, u.total, u.modified || txn.pending⟩
    refine h.setRun hi hLocked hWallet _ h.journals_walletId fun u' hScan'' => ?_
    rw [hScan', Option.some.injEq] at hScan''
    subst hScan''
    exact (h.sweeping i r u hi hScan).settleTxn hTxn _
  | updated i r hi u hScan _ =>
    have hLocked := LnRun.locked_of_updateMany hScan
    obtain ⟨hAfter, hWallet, -⟩ := LnRun.afterUpdateMany_of_updateMany hScan
    refine h.setRun hi hLocked (by split <;> simp [hWallet]) s.ledger h.journals_walletId
      fun u' hScan' => ?_
    split at hScan' <;> simp_all
  | resolve i r hi hSettled journalId _ hResolution =>
    have hWallet := h.runs_walletId r (List.mem_of_getElem? hi)
    have hJournals := hResolution.journals_walletId hVoid (hWallet ▸ h.journals_walletId)
    refine h.setRun hi (LnRun.locked_of_settled hSettled) (LnRun.walletId_finish r) _
      (fun journal hMem => (hJournals journal hMem).trans hWallet) fun u hScan => ?_
    rw [LnRun.updateMany_finish] at hScan
    cases hScan
  | loseLease walletId' =>
    simp [singleWallet, leaseHeld] at hAllowed

theorem exclusive_initial (walletId : String) : Exclusive walletId initial where
  runs_walletId _ h := by cases h
  journals_walletId _ h := by cases h
  holds _ _ h := by simp [initial] at h
  sweeping _ _ _ h := by simp [initial] at h

end Exclusive

-- ============================================================================
-- Every revert and reimbursement takes a send journal
-- ============================================================================

/-- The runs that have settled and not yet written what follows. -/
def settledRuns (s : LnPayment) : ℕ := s.runs.countP LnRun.settled

/-- The runs whose `updateMany` under way has modified a transaction. -/
def claimingRuns (s : LnPayment) : ℕ := s.runs.countP fun r => r.updateMany.any (·.modified)

/-- Every revert and reimbursement, every settled run, and the pending
    transactions or an `updateMany` that has taken them, each take a send
    journal of their own: a pending batch is settled by one run, and a settled
    run writes at most one resolution. -/
def Bounded (s : LnPayment) : Prop :=
  s.ledger.resolutions + s.settledRuns + min 1 (s.ledger.pendingTxns + s.claimingRuns) ≤
    s.ledger.sends

section Bounded

variable {mediciVoid : MediciVoid} {walletId : String} {s s' : LnPayment} {i : ℕ} {r : LnRun}
  {a : LnPaymentAction}

/-- A run's move counts for the settled and claiming runs by its flags. -/
theorem counts_setRun (hi : s.runs[i]? = some r) (r' : LnRun) (p : LnRun → Bool) :
    (s.setRun i r').runs.countP p + (if p r then 1 else 0) =
      s.runs.countP p + (if p r' then 1 else 0) := by
  rw [setRun_runs]
  exact countP_set_add hi

/-- A run that moves on without settling or claiming counts for neither. -/
theorem counts_setRun_le (hi : s.runs[i]? = some r) {r' : LnRun} (hSettled : r'.settled = false)
    (hScan : r'.updateMany = none) :
    (s.setRun i r').settledRuns ≤ s.settledRuns ∧ (s.setRun i r').claimingRuns ≤ s.claimingRuns := by
  have hSettledRuns := counts_setRun hi r' LnRun.settled
  have hClaiming := counts_setRun hi r' fun r => r.updateMany.any (·.modified)
  simp only [hSettled, hScan, Option.any_none, Bool.false_eq_true, if_false] at hSettledRuns hClaiming
  exact ⟨by unfold settledRuns; omega, by unfold claimingRuns; omega⟩

/-- A resolution writes no send journal, at most one revert or reimbursement,
    and no pending transaction where there was none. -/
theorem Resolution.counts (hVoid : mediciVoid.Lawful) {ledger ledger' : LnLedger}
    {journalId : ℕ} (h : Resolution mediciVoid ledger walletId journalId ledger') :
    ledger'.sends = ledger.sends ∧ ledger'.resolutions ≤ ledger.resolutions + 1 ∧
      ledger'.pendingTxns ≤ 2 * ledger.pendingTxns := by
  cases h with
  | nothing => omega
  | receipt kind hKind rows =>
    simp only [LnLedger.sends_record, LnLedger.resolutions_record, LnLedger.pendingTxns_record,
      LnJournalKind.isSend_of_resolves hKind, hKind, Option.isSome_some, Bool.false_eq_true,
      if_true, if_false]
    omega
  | voided hVoided =>
    obtain ⟨journal, hJournal, rfl⟩ := hVoid.void_eq_ok _ _ _ hVoided
    obtain ⟨hSends, hResolutions, hPending⟩ := LnLedger.counts_reverse hJournal
    omega

/-- An `updateMany` past its total, with the transactions to itself, has left
    none pending. -/
theorem Sweeping.pendingTxns_eq_zero {ledger : LnLedger} {u : UpdateMany}
    (h : Sweeping ledger.txns u) (hEnd : u.total ≤ u.position) : ledger.pendingTxns = 0 := by
  obtain ⟨hTotal, hSettled⟩ := h
  refine List.countP_eq_zero.mpr fun txn hMem hp => ?_
  obtain ⟨k, hk, hkTxn⟩ := List.getElem_of_mem hMem
  have := hSettled k txn (by omega) (by rw [List.getElem?_eq_getElem hk, hkTxn])
  simp_all

/-- When the one run in an `updateMany` is done with it, no run claims a
    modified transaction. -/
theorem Exclusive.claimingRuns_afterUpdateMany (hx : Exclusive walletId s)
    (hi : s.runs[i]? = some r) {u : UpdateMany} (hScan : r.updateMany = some u) :
    (s.setRun i r.afterUpdateMany).claimingRuns = 0 := by
  obtain ⟨hAfter, -, -⟩ := LnRun.afterUpdateMany_of_updateMany hScan
  refine List.countP_eq_zero.mpr fun r'' hMem hClaim => ?_
  obtain ⟨j, hj, hjRun⟩ := List.getElem_of_mem hMem
  have hj' : (s.setRun i r.afterUpdateMany).runs[j]? = some r'' := by
    rw [List.getElem?_eq_getElem hj, hjRun]
  rw [getElem?_runs_setRun hi] at hj'
  split at hj'
  · cases hj'
    simp [hAfter] at hClaim
  · rename_i hji
    rw [hx.others_idle hi (LnRun.locked_of_updateMany hScan) hj' hji] at hClaim
    simp at hClaim

/-- Every move of a run of the wallet, with no lease lost, keeps the bound. -/
theorem Bounded.move (hVoid : mediciVoid.Lawful) (h : s.Bounded) (hx : Exclusive walletId s)
    (hMove : Move mediciVoid s a s') : s'.Bounded := by
  cases hMove with
  | startSend paymentFlow rawRoute =>
    simpa [Bounded, settledRuns, claimingRuns, LnRun.settled, LnRun.updateMany] using h
  | startUpdate txn _ _ journal _ =>
    simpa [Bounded, settledRuns, claimingRuns, LnRun.settled, LnRun.updateMany] using h
  | advance i r r' hi _ _ hSettled hScan _ =>
    obtain ⟨hSettledRuns, hClaiming⟩ := counts_setRun_le hi hSettled hScan
    simp only [Bounded, setRun_ledger] at h ⊢
    omega
  | enter i r r' hi _ _ hSettled hScan _ =>
    obtain ⟨hSettledRuns, hClaiming⟩ := counts_setRun_le (s := s.acquire r.walletId i) hi
      hSettled hScan
    simp only [Bounded, setRun_ledger, acquire_ledger] at h ⊢
    simp only [settledRuns, claimingRuns, acquire_runs] at hSettledRuns hClaiming h ⊢
    omega
  | recordSend i r r' hi _ _ _ hSettled hScan _ feeKnownInAdvance rows =>
    -- a new send journal pays for its pending transactions
    obtain ⟨hSettledRuns, hClaiming⟩ := counts_setRun_le hi hSettled hScan
    simp only [Bounded, LnLedger.sends_record, LnLedger.resolutions_record,
      LnLedger.pendingTxns_record] at h ⊢
    simp only [settledRuns, claimingRuns] at hSettledRuns hClaiming h ⊢
    simp only [LnJournalKind.isSend, LnJournalKind.resolves, Option.isSome_none,
      Bool.false_eq_true, if_true, if_false] at h ⊢
    omega
  | beginScan i r r' hi _ _ hWasSettled hWasScan hScan _ =>
    have hSettledRuns := counts_setRun hi r' LnRun.settled
    have hClaiming := counts_setRun hi r' fun r => r.updateMany.any (·.modified)
    simp only [hWasSettled, LnRun.settled_of_updateMany hScan, hWasScan, hScan, beginUpdateMany,
      Option.any_none, Option.any_some, Bool.false_eq_true, if_false] at hSettledRuns hClaiming
    simp only [Bounded, setRun_ledger, settledRuns, claimingRuns] at h ⊢
    omega
  | updateOne i r hi u hScan txn hTxn =>
    -- settling a pending transaction passes its share to the run's claim
    obtain ⟨hScan', -, -⟩ := LnRun.withUpdateMany_of_updateMany hScan
      ⟨u.position + 1, u.total, u.modified || txn.pending⟩
    generalize r.withUpdateMany ⟨u.position + 1, u.total, u.modified || txn.pending⟩ = r'
      at hScan' ⊢
    have hSettledRuns := counts_setRun hi r' LnRun.settled
    have hClaiming := counts_setRun hi r' fun r => r.updateMany.any (·.modified)
    have hPending := LnLedger.pendingTxns_settleTxn hTxn
    simp only [LnRun.settled_of_updateMany hScan, LnRun.settled_of_updateMany hScan', hScan,
      hScan', Option.any_some, Bool.false_eq_true, if_false] at hSettledRuns hClaiming
    simp only [Bounded, LnLedger.resolutions_settleTxn, LnLedger.sends_settleTxn,
      settledRuns, claimingRuns] at h ⊢
    rcases Bool.eq_false_or_eq_true txn.pending with hp | hp <;>
      rcases Bool.eq_false_or_eq_true u.modified with hm | hm <;>
      simp only [hp, hm, Bool.or_true, Bool.or_false, if_true, if_false,
        Bool.false_eq_true] at hClaiming hPending <;>
      omega
  | updated i r hi u hScan hEnd =>
    by_cases hModified : u.modified = true
    · -- the run alone was in an `updateMany`, and it has settled every transaction
      have hSettledRuns := counts_setRun hi r.afterUpdateMany LnRun.settled
      have hNoPending := (hx.sweeping i r u hi hScan).pendingTxns_eq_zero hEnd
      have hNoClaim := hx.claimingRuns_afterUpdateMany hi hScan
      have hClaimed : 0 < s.claimingRuns :=
        List.countP_pos_iff.mpr ⟨r, List.mem_of_getElem? hi, by simp [hScan, hModified]⟩
      simp only [Bounded, hModified, if_true, setRun_ledger] at h ⊢
      simp only [settledRuns] at hSettledRuns h ⊢
      rw [hNoClaim, hNoPending]
      rw [hNoPending] at h
      split at hSettledRuns <;> split at hSettledRuns <;> omega
    · obtain ⟨hSettledRuns, hClaiming⟩ := counts_setRun_le hi (LnRun.settled_finish r)
        (LnRun.updateMany_finish r)
      simp only [Bounded, hModified, Bool.false_eq_true, if_false, setRun_ledger] at h ⊢
      omega
  | resolve i r hi hSettled journalId _ hResolution =>
    -- the settled run's share passes to what it writes
    have hSettledRuns := counts_setRun hi r.finish LnRun.settled
    obtain ⟨-, hClaiming⟩ := counts_setRun_le hi (LnRun.settled_finish r)
      (LnRun.updateMany_finish r)
    obtain ⟨hSends, hResolutions, hPending⟩ := hResolution.counts hVoid
    simp only [hSettled, LnRun.settled_finish, if_true, Bool.false_eq_true, if_false] at hSettledRuns
    simp only [Bounded] at h ⊢
    simp only [settledRuns, claimingRuns, setRun_runs] at hSettledRuns hClaiming h ⊢
    omega
  | loseLease walletId' =>
    exact h

theorem bounded_initial : initial.Bounded := by
  simp [Bounded, initial, LnLedger.sends, LnLedger.resolutions, LnLedger.pendingTxns,
    settledRuns, claimingRuns]

/-- With every attempt from one wallet and no lease lost, the runs keep the
    locked sections to themselves and the bound holds in every state. -/
theorem exclusive_bounded_of_reachable (hVoid : mediciVoid.Lawful)
    (h : Reachable (restrict (next mediciVoid) (singleWallet walletId)) initial s) :
    Exclusive walletId s ∧ s.Bounded := by
  have hInvariant : Invariant (restrict (next mediciVoid) (singleWallet walletId)) initial
      fun s => Exclusive walletId s ∧ s.Bounded := by
    refine ⟨⟨exclusive_initial walletId, bounded_initial⟩, fun s a s' ⟨hx, hb⟩ hStep => ?_⟩
    obtain ⟨hAllowed, hStep⟩ := restrict_eq_some hStep
    have hMove := next_move hStep
    exact ⟨hx.move hVoid hMove hAllowed, hb.move hVoid hx hMove⟩
  exact hInvariant.holds h

end Bounded

end LnPayment

-- ============================================================================
-- Only send journals are pending, and every resolution is of a settled one
-- ============================================================================

namespace LnLedger

/-- No transaction of the journal `journalId` is pending. -/
def Settled (txns : List LnTxn) (journalId : ℕ) : Prop :=
  ∀ txn ∈ txns, txn.journalId = journalId → txn.pending = false

/-- What an `updateMany` at `u` has done to the journal `journalId`: every
    transaction of the journal is below its total, and those below its position
    are settled. -/
def Swept (txns : List LnTxn) (journalId : ℕ) (u : UpdateMany) : Prop :=
  ∀ (k : ℕ) (txn : LnTxn), txns[k]? = some txn → txn.journalId = journalId →
    k < u.total ∧ (k < u.position → txn.pending = false)

/-- `ledger'` keeps every journal of `ledger` with its kind, writes no
    transaction for them, and makes none of theirs pending. -/
structure Grows (ledger ledger' : LnLedger) : Prop where
  journal : ∀ (journalId : ℕ) (journal : LnJournal), ledger.journals[journalId]? = some journal →
    ∃ journal' : LnJournal, ledger'.journals[journalId]? = some journal' ∧
      journal'.kind = journal.kind
  txn : ∀ (k : ℕ) (txn' : LnTxn), ledger'.txns[k]? = some txn' →
    txn'.journalId < ledger.journals.length →
    ∃ txn : LnTxn, ledger.txns[k]? = some txn ∧ txn'.journalId = txn.journalId ∧
      (txn.pending = false → txn'.pending = false)

namespace Grows

variable {ledger : LnLedger}

theorem refl (ledger : LnLedger) : Grows ledger ledger :=
  ⟨fun _ journal h => ⟨journal, h, rfl⟩, fun _ txn h _ => ⟨txn, h, rfl, id⟩⟩

/-- A new journal's transactions are its own. -/
theorem record (ledger : LnLedger) (journal : LnJournal) (rows : ℕ) (pending : Bool) :
    Grows ledger (ledger.record journal rows pending) := by
  refine ⟨fun journalId journal' h => ⟨journal', ?_, rfl⟩, fun k txn' h hOld => ?_⟩
  · rw [LnLedger.record, List.getElem?_append_left (List.getElem?_eq_some_iff.mp h).1, h]
  · by_cases hk : k < ledger.txns.length
    · rw [LnLedger.record, List.getElem?_append_left hk] at h
      exact ⟨txn', h, rfl, id⟩
    · rw [LnLedger.record, List.getElem?_append_right (by omega), List.getElem?_replicate] at h
      split at h
      · cases h
        simp at hOld
      · cases h

theorem settleTxn (ledger : LnLedger) {k : ℕ} {txn : LnTxn} (h : ledger.txns[k]? = some txn) :
    Grows ledger (ledger.settleTxn k txn) := by
  refine ⟨fun _ journal h => ⟨journal, h, rfl⟩, fun k' txn' h' _ => ?_⟩
  simp only [LnLedger.settleTxn, List.getElem?_set] at h'
  split at h'
  · rename_i hk
    subst hk
    have hLt := (List.getElem?_eq_some_iff.mp h).1
    simp only [hLt, if_true, Option.some.injEq] at h'
    subst h'
    exact ⟨txn, h, rfl, fun _ => rfl⟩
  · exact ⟨txn', h', rfl, id⟩

/-- A `void` marks the journal voided, with its kind, and writes transactions
    of a new journal. -/
theorem reverse {journalId : ℕ} {journal : LnJournal}
    (h : ledger.journals[journalId]? = some journal) :
    Grows ledger (ledger.reverse journalId journal) := by
  have hLt := (List.getElem?_eq_some_iff.mp h).1
  refine ⟨fun journalId' journal' h' => ?_, fun k txn' h' hOld => ?_⟩
  · have hLt' := (List.getElem?_eq_some_iff.mp h').1
    rw [LnLedger.reverse, List.getElem?_append_left (by simpa using hLt'), List.getElem?_set]
    by_cases hSame : journalId = journalId'
    · subst hSame
      rw [h] at h'
      cases h'
      exact ⟨{ journal with voided := true }, by simp [hLt], rfl⟩
    · exact ⟨journal', by simp [hSame, h'], rfl⟩
  · by_cases hk : k < ledger.txns.length
    · rw [LnLedger.reverse, List.getElem?_append_left hk] at h'
      exact ⟨txn', h', rfl, id⟩
    · rw [LnLedger.reverse, List.getElem?_append_right (by omega)] at h'
      rw [List.getElem?_map] at h'
      obtain ⟨copy, -, rfl⟩ := Option.map_eq_some_iff.mp h'
      simp at hOld

end Grows

section Grows

variable {ledger ledger' : LnLedger} {journalId : ℕ}

theorem Settled.grows (h : Settled ledger.txns journalId) (hGrows : Grows ledger ledger')
    (hLt : journalId < ledger.journals.length) : Settled ledger'.txns journalId := by
  intro txn' hMem hJournal
  obtain ⟨k, hk, hkTxn⟩ := List.getElem_of_mem hMem
  obtain ⟨txn, hTxn, hSame, hPending⟩ := hGrows.txn k txn'
    (by rw [List.getElem?_eq_getElem hk, hkTxn]) (by omega)
  exact hPending (h txn (List.mem_of_getElem? hTxn) (hSame ▸ hJournal))

theorem Swept.grows {u : UpdateMany} (h : Swept ledger.txns journalId u)
    (hGrows : Grows ledger ledger') (hLt : journalId < ledger.journals.length) :
    Swept ledger'.txns journalId u := by
  intro k txn' hk hJournal
  obtain ⟨txn, hTxn, hSame, hPending⟩ := hGrows.txn k txn' hk (by omega)
  obtain ⟨hTotal, hSettled⟩ := h k txn hTxn (hSame ▸ hJournal)
  exact ⟨hTotal, fun hPos => hPending (hSettled hPos)⟩

/-- One document more of an `updateMany`: the transaction at its position is
    settled, and the sweep reaches one further. -/
theorem Swept.settleTxn {u : UpdateMany} (h : Swept ledger.txns journalId u) {txn : LnTxn}
    (hTxn : ledger.txns[u.position]? = some txn) (modified : Bool) :
    Swept (ledger.settleTxn u.position txn).txns journalId ⟨u.position + 1, u.total, modified⟩ := by
  have hLt := (List.getElem?_eq_some_iff.mp hTxn).1
  intro k txn' hk hOf
  simp only [LnLedger.settleTxn_txns] at hk
  by_cases hSame : k = u.position
  · -- the transaction just settled, of the journal it was of
    subst hSame
    rw [List.getElem?_set_self hLt, Option.some.injEq] at hk
    subst hk
    exact ⟨(h _ txn hTxn hOf).1, fun _ => rfl⟩
  · rw [List.getElem?_set_ne (Ne.symm hSame)] at hk
    obtain ⟨hTotal, hSettled⟩ := h k txn' hk hOf
    exact ⟨hTotal, fun hPos => hSettled (by simp only at hPos; omega)⟩

end Grows

end LnLedger

namespace LnPayment

open LnLedger

/-- A journal that resolves another resolves a send journal none of whose
    transactions is pending. -/
def Resolves (ledger : LnLedger) (journal : LnJournal) : Prop :=
  ∀ journalId : ℕ, journal.kind.resolves = some journalId →
    ∃ original : LnJournal, ledger.journals[journalId]? = some original ∧ original.kind = .send ∧
      Settled ledger.txns journalId

/-- What a run knows of its journal: a send journal; settled once the run has
    settled; swept as far as its `updateMany` has gone. -/
def Knows (ledger : LnLedger) (r : LnRun) : Prop :=
  ∀ journalId : ℕ, r.journalId = some journalId →
    ∃ journal : LnJournal, ledger.journals[journalId]? = some journal ∧ journal.kind = .send ∧
      (r.settled = true → Settled ledger.txns journalId) ∧
      ∀ u : UpdateMany, r.updateMany = some u → Swept ledger.txns journalId u

/-- Every transaction belongs to a journal, only send journals are pending,
    every resolution is of a settled send journal, and every run knows its
    journal. -/
structure Consistent (s : LnPayment) : Prop where
  txns_journal : ∀ txn ∈ s.ledger.txns, txn.journalId < s.ledger.journals.length
  pending_send : ∀ txn ∈ s.ledger.txns, txn.pending = true →
    ∃ journal : LnJournal, s.ledger.journals[txn.journalId]? = some journal ∧
      journal.kind = .send
  resolves : ∀ journal ∈ s.ledger.journals, Resolves s.ledger journal
  knows : ∀ r ∈ s.runs, Knows s.ledger r

section Knowledge

variable {ledger ledger' : LnLedger} {journal : LnJournal} {r r' : LnRun}

/-- A journal that resolves a settled send journal. -/
theorem resolves_of_settled {journalId : ℕ} {original : LnJournal}
    (hResolves : journal.kind.resolves = some journalId)
    (hOriginal : ledger.journals[journalId]? = some original) (hSend : original.kind = .send)
    (hSettled : Settled ledger.txns journalId) : Resolves ledger journal := by
  intro journalId' hResolves'
  rw [hResolves, Option.some.injEq] at hResolves'
  subst hResolves'
  exact ⟨original, hOriginal, hSend, hSettled⟩

theorem Resolves.grows (h : Resolves ledger journal) (hGrows : Grows ledger ledger') :
    Resolves ledger' journal := by
  intro journalId hResolves
  obtain ⟨original, hOriginal, hSend, hSettled⟩ := h journalId hResolves
  obtain ⟨original', hOriginal', hKind⟩ := hGrows.journal journalId original hOriginal
  exact ⟨original', hOriginal', hKind.trans hSend,
    hSettled.grows hGrows (List.getElem?_eq_some_iff.mp hOriginal).1⟩

theorem Knows.grows (h : Knows ledger r) (hGrows : Grows ledger ledger') : Knows ledger' r := by
  intro journalId hJournal
  obtain ⟨journal, hJournal', hSend, hSettled, hSwept⟩ := h journalId hJournal
  obtain ⟨journal', hJournal'', hKind⟩ := hGrows.journal journalId journal hJournal'
  have hLt := (List.getElem?_eq_some_iff.mp hJournal').1
  exact ⟨journal', hJournal'', hKind.trans hSend, fun hs => (hSettled hs).grows hGrows hLt,
    fun u hu => (hSwept u hu).grows hGrows hLt⟩

/-- A run that moves on without settling or an `updateMany` keeps what it knew
    of its journal. -/
theorem Knows.moveOn (h : Knows ledger r) (hSettled : r'.settled = false)
    (hScan : r'.updateMany = none)
    (hJournal : r'.journalId = none ∨ r'.journalId = r.journalId) : Knows ledger r' := by
  intro journalId hJournal'
  rcases hJournal with hNone | hSame
  · rw [hNone] at hJournal'
    cases hJournal'
  · obtain ⟨journal, hJournal'', hSend, -, -⟩ := h journalId (hSame ▸ hJournal')
    exact ⟨journal, hJournal'', hSend, fun hs => (by rw [hSettled] at hs; cases hs),
      fun u hu => (by rw [hScan] at hu; cases hu)⟩

/-- Run `i` moving on keeps the runs' knowledge when the new run knows its part. -/
theorem knows_set {runs : List LnRun} (h : ∀ r ∈ runs, Knows ledger r) (i : ℕ)
    (hNew : Knows ledger r') : ∀ r ∈ runs.set i r', Knows ledger r := by
  intro r hr
  rcases List.mem_or_eq_of_mem_set hr with hOld | rfl
  · exact h r hOld
  · exact hNew

end Knowledge

section Consistent

variable {mediciVoid : MediciVoid} {s s' : LnPayment} {a : LnPaymentAction}

/-- The ledger grows with the journals and transactions it keeps consistent. -/
theorem Consistent.grows (h : s.Consistent) {ledger' : LnLedger} (hGrows : Grows s.ledger ledger')
    (hTxns : ∀ txn ∈ ledger'.txns, txn.journalId < ledger'.journals.length)
    (hPending : ∀ txn ∈ ledger'.txns, txn.pending = true →
      ∃ journal, ledger'.journals[txn.journalId]? = some journal ∧ journal.kind = .send)
    (hNew : ∀ journal ∈ ledger'.journals, journal ∉ s.ledger.journals → Resolves ledger' journal)
    {runs' : List LnRun} (hRuns : ∀ r ∈ runs', Knows ledger' r) (locks' : String → Option ℕ) :
    Consistent ⟨ledger', runs', locks'⟩ := by
  refine ⟨hTxns, hPending, fun journal hMem => ?_, hRuns⟩
  by_cases hOld : journal ∈ s.ledger.journals
  · exact (h.resolves journal hOld).grows hGrows
  · exact hNew journal hMem hOld

/-- The transactions a new journal is written with. -/
theorem record_txns_journal (h : s.Consistent) (journal : LnJournal) (rows : ℕ) (pending : Bool) :
    ∀ txn ∈ (s.ledger.record journal rows pending).txns,
      txn.journalId < (s.ledger.record journal rows pending).journals.length := by
  intro txn hMem
  simp only [LnLedger.record, List.length_append, List.length_singleton]
  rcases List.mem_append.mp hMem with hOld | hNew
  · have := h.txns_journal txn hOld
    omega
  · rw [(List.mem_replicate.mp hNew).2]
    simp

/-- A new journal whose transactions are settled keeps only sends pending. -/
theorem record_pending_send (h : s.Consistent) (journal : LnJournal) (rows : ℕ) {pending : Bool}
    (hSend : pending = true → journal.kind = .send) :
    ∀ txn ∈ (s.ledger.record journal rows pending).txns, txn.pending = true →
      ∃ journal', (s.ledger.record journal rows pending).journals[txn.journalId]? = some journal' ∧
        journal'.kind = .send := by
  intro txn hMem hp
  rcases List.mem_append.mp hMem with hOld | hNew
  · obtain ⟨journal', hJournal, hKind⟩ := h.pending_send txn hOld hp
    exact ⟨journal', by
      rw [LnLedger.record, List.getElem?_append_left (List.getElem?_eq_some_iff.mp hJournal).1,
        hJournal], hKind⟩
  · obtain ⟨-, rfl⟩ := List.mem_replicate.mp hNew
    exact ⟨journal, List.getElem?_concat_length, hSend hp⟩

/-- Recording one journal keeps the ledger consistent when the journal resolves
    what it names and is pending only as a send. -/
theorem Consistent.record (h : s.Consistent) (journal : LnJournal) (rows : ℕ) {pending : Bool}
    (hSend : pending = true → journal.kind = .send)
    (hResolves : Resolves (s.ledger.record journal rows pending) journal)
    {runs' : List LnRun} (hRuns : ∀ r ∈ runs', Knows (s.ledger.record journal rows pending) r)
    (locks' : String → Option ℕ) :
    Consistent ⟨s.ledger.record journal rows pending, runs', locks'⟩ := by
  refine h.grows (Grows.record s.ledger journal rows pending)
    (record_txns_journal h journal rows pending) (record_pending_send h journal rows hSend)
    (fun journal' hMem hNew => ?_) hRuns locks'
  -- the one journal not there before is the new one
  rcases List.mem_append.mp hMem with hOld | hRecorded
  · exact absurd hOld hNew
  · rw [List.mem_singleton.mp hRecorded]
    exact hResolves

/-- Every move keeps the journals consistent. -/
theorem Consistent.move (hVoid : mediciVoid.Lawful) (h : s.Consistent)
    (hMove : Move mediciVoid s a s') : s'.Consistent := by
  cases hMove with
  | startSend paymentFlow rawRoute =>
    refine ⟨h.txns_journal, h.pending_send, h.resolves, fun r hr => ?_⟩
    rcases List.mem_append.mp hr with hOld | hNew
    · exact h.knows r hOld
    · rw [List.mem_singleton.mp hNew]
      intro _ hId
      cases hId
  | startUpdate txn hTxn hPending journal hJournal =>
    -- an update run starts on the journal of a pending transaction, a send journal
    refine ⟨h.txns_journal, h.pending_send, h.resolves, fun r hr => ?_⟩
    rcases List.mem_append.mp hr with hOld | hNew
    · exact h.knows r hOld
    · rw [List.mem_singleton.mp hNew]
      intro journalId hId
      cases hId
      obtain ⟨journal', hJournal', hSend⟩ := h.pending_send txn hTxn hPending
      rw [hJournal] at hJournal'
      cases hJournal'
      exact ⟨journal, hJournal, hSend, fun hs => (by cases hs), fun u hu => (by cases hu)⟩
  | advance i r r' hi _ _ hSettled hScan hJournal =>
    exact ⟨h.txns_journal, h.pending_send, h.resolves, knows_set h.knows i
      ((h.knows r (List.mem_of_getElem? hi)).moveOn hSettled hScan hJournal)⟩
  | enter i r r' hi _ _ hSettled hScan hJournal =>
    exact ⟨h.txns_journal, h.pending_send, h.resolves, knows_set h.knows i
      ((h.knows r (List.mem_of_getElem? hi)).moveOn hSettled hScan (.inr hJournal))⟩
  | recordSend i r r' hi _ _ _ hSettled hScan hJournal feeKnownInAdvance rows =>
    have hGrows := Grows.record s.ledger ⟨.send, false, feeKnownInAdvance, r.walletId⟩ rows true
    -- the new journal is a send journal, which resolves nothing
    refine h.record _ rows (fun _ => rfl) (fun _ hResolves => by cases hResolves)
      (knows_set (fun r hr => (h.knows r hr).grows hGrows) i ?_) _
    intro journalId hId
    rw [hJournal] at hId
    cases hId
    exact ⟨_, List.getElem?_concat_length, rfl, fun hs => (by rw [hSettled] at hs; cases hs),
      fun u hu => (by rw [hScan] at hu; cases hu)⟩
  | beginScan i r r' hi _ _ _ _ hScan hJournal =>
    refine ⟨h.txns_journal, h.pending_send, h.resolves, knows_set h.knows i ?_⟩
    intro journalId hId
    obtain ⟨journal, hJournal', hSend, -, -⟩ :=
      h.knows r (List.mem_of_getElem? hi) journalId (hJournal ▸ hId)
    refine ⟨journal, hJournal', hSend, fun hs => ?_, fun u hu => ?_⟩
    · rw [LnRun.settled_of_updateMany hScan] at hs
      cases hs
    · -- the `updateMany` begins with every transaction there is
      rw [hScan, Option.some.injEq] at hu
      subst hu
      intro k txn hk _
      exact ⟨(List.getElem?_eq_some_iff.mp hk).1, fun hPos => absurd hPos (Nat.not_lt_zero k)⟩
  | updateOne i r hi u hScan txn hTxn =>
    have hGrows := Grows.settleTxn s.ledger hTxn
    obtain ⟨hScan', -, hJournal⟩ := LnRun.withUpdateMany_of_updateMany hScan
      ⟨u.position + 1, u.total, u.modified || txn.pending⟩
    refine ⟨fun txn' hMem => ?_, fun txn' hMem hp => ?_, fun journal hMem =>
      (h.resolves journal hMem).grows hGrows, knows_set (fun r hr => (h.knows r hr).grows hGrows)
        i ?_⟩
    · rcases List.mem_or_eq_of_mem_set hMem with hOld | rfl
      · exact h.txns_journal txn' hOld
      · exact h.txns_journal txn (List.mem_of_getElem? hTxn)
    · rcases List.mem_or_eq_of_mem_set hMem with hOld | rfl
      · exact h.pending_send txn' hOld hp
      · cases hp
    · intro journalId hId
      obtain ⟨journal, hJournal', hSend, -, hSwept⟩ :=
        h.knows r (List.mem_of_getElem? hi) journalId (hJournal ▸ hId)
      refine ⟨journal, hJournal', hSend, fun hs => ?_, fun u' hu' => ?_⟩
      · rw [LnRun.settled_of_updateMany hScan'] at hs
        cases hs
      · rw [hScan', Option.some.injEq] at hu'
        subst hu'
        exact (hSwept u hScan).settleTxn hTxn _
  | updated i r hi u hScan hEnd =>
    obtain ⟨hAfter, -, hJournal⟩ := LnRun.afterUpdateMany_of_updateMany hScan
    refine ⟨h.txns_journal, h.pending_send, h.resolves, knows_set h.knows i ?_⟩
    split
    · -- past its total, the `updateMany` has settled the whole journal
      intro journalId hId
      rcases hJournal with hNone | hSame
      · rw [hNone] at hId
        cases hId
      obtain ⟨journal, hJournal', hSend, -, hSwept⟩ :=
        h.knows r (List.mem_of_getElem? hi) journalId (hSame ▸ hId)
      refine ⟨journal, hJournal', hSend, fun _ txn hMem hOf => ?_, fun u' hu' => ?_⟩
      · obtain ⟨k, hk, hkTxn⟩ := List.getElem_of_mem hMem
        obtain ⟨hTotal, hSettled⟩ :=
          hSwept u hScan k txn (by rw [List.getElem?_eq_getElem hk, hkTxn]) hOf
        exact hSettled (by omega)
      · rw [hAfter] at hu'
        cases hu'
    · exact (h.knows r (List.mem_of_getElem? hi)).moveOn (LnRun.settled_finish r)
        (LnRun.updateMany_finish r) (LnRun.journalId_finish r)
  | resolve i r hi hSettled journalId hJournal hResolution =>
    obtain ⟨original, hOriginal, hSend, hSettledOriginal, -⟩ :=
      h.knows r (List.mem_of_getElem? hi) journalId hJournal
    have hOriginalSettled := hSettledOriginal hSettled
    have hRun := (h.knows r (List.mem_of_getElem? hi)).moveOn (LnRun.settled_finish r)
      (LnRun.updateMany_finish r) (LnRun.journalId_finish r)
    cases hResolution with
    | nothing =>
      exact ⟨h.txns_journal, h.pending_send, h.resolves, knows_set h.knows i hRun⟩
    | receipt kind hKind rows =>
      have hGrows := Grows.record s.ledger ⟨kind, false, false, r.walletId⟩ rows false
      -- the receipt resolves the settled send journal of the run
      have hResolves : Resolves s.ledger ⟨kind, false, false, r.walletId⟩ :=
        resolves_of_settled hKind hOriginal hSend hOriginalSettled
      exact h.record _ rows (fun hp => by cases hp) (hResolves.grows hGrows)
        (knows_set (fun r hr => (h.knows r hr).grows hGrows) i (hRun.grows hGrows)) _
    | voided hVoided =>
      obtain ⟨journal, hJournal', rfl⟩ := hVoid.void_eq_ok _ _ _ hVoided
      rw [hOriginal, Option.some.injEq] at hJournal'
      subst hJournal'
      have hGrows := Grows.reverse hOriginal
      -- the reversal copies the settled flags of the journal it reverts
      have hCopies : ∀ txn ∈ (s.ledger.txns.filter (·.journalId == journalId)).map
          (fun txn => (⟨s.ledger.journals.length, txn.pending⟩ : LnTxn)), txn.pending = false := by
        intro txn hMem
        obtain ⟨copied, hCopied, rfl⟩ := List.mem_map.mp hMem
        obtain ⟨hMem', hOf⟩ := List.mem_filter.mp hCopied
        exact hOriginalSettled copied hMem' (by simpa using hOf)
      refine h.grows hGrows (fun txn hMem => ?_) (fun txn hMem hp => ?_)
        (fun journal hMem hNew => ?_)
        (knows_set (fun r hr => (h.knows r hr).grows hGrows) i (hRun.grows hGrows)) _
      · simp only [LnLedger.reverse, List.length_append, List.length_set, List.length_singleton]
        rcases List.mem_append.mp hMem with hOld | hNew
        · have := h.txns_journal txn hOld
          omega
        · obtain ⟨copied, -, rfl⟩ := List.mem_map.mp hNew
          simp
      · rcases List.mem_append.mp hMem with hOld | hNew
        · obtain ⟨journal', hJournal', hKind⟩ := h.pending_send txn hOld hp
          obtain ⟨journal'', hJournal'', hKind'⟩ := hGrows.journal _ journal' hJournal'
          exact ⟨journal'', hJournal'', hKind'.trans hKind⟩
        · rw [hCopies txn hNew] at hp
          cases hp
      · rcases List.mem_append.mp hMem with hOld | hRevert
        · rcases List.mem_or_eq_of_mem_set hOld with hOld | rfl
          · exact absurd hOld hNew
          · -- the voided journal is a send journal, which resolves nothing
            intro _ hResolves
            simp [hSend, LnJournalKind.resolves] at hResolves
        · rw [List.mem_singleton.mp hRevert]
          refine Resolves.grows ?_ hGrows
          exact resolves_of_settled rfl hOriginal hSend hOriginalSettled
  | loseLease walletId =>
    exact ⟨h.txns_journal, h.pending_send, h.resolves, h.knows⟩

theorem consistent_initial : initial.Consistent where
  txns_journal _ h := by cases h
  pending_send _ h := by cases h
  resolves _ h := by cases h
  knows _ h := by cases h

/-- The journals stay consistent in every state the runs reach. -/
theorem consistent_of_reachable (hVoid : mediciVoid.Lawful)
    (h : Reachable (next mediciVoid) initial s) : s.Consistent :=
  Invariant.holds ⟨consistent_initial, fun _ _ _ hs hStep => hs.move hVoid (next_move hStep)⟩ h

end Consistent

-- ============================================================================
-- Runs on the payment hash
-- ============================================================================

/-- The flow of a send from a USD wallet. -/
def usdLnSendFlow (senderWalletId : String) : PaymentFlow :=
  { btcLnSendFlow senderWalletId with senderWalletCurrency := .Usd }

/-- A BTC send that lnd refuses: the attempt settles its journal's two
    transactions and voids it. -/
def refusedSend : List LnPaymentAction :=
  [.startSend (btcLnSendFlow "alice") false, .send 0 .getTransactionsByHash,
    .send 0 (.recordSendOffChain 2), .send 0 (.pay .error), .send 0 .settlePendingLnSend,
    .updateOne 0, .updateOne 0, .updated 0, .send 0 .recordLnSendRevert]

end LnPayment

open LnPayment in
/-- When every send attempt on the payment hash is from one wallet and no lease
    on its lock runs out, over every interleaving of attempts and update runs,
    each of which may fail at any await, the hash never holds more reverts and
    reimbursements than send journals: a single attempt is resolved at most
    once. -/
theorem resolutions_le_sends {mediciVoid : MediciVoid} (hVoid : mediciVoid.Lawful)
    {walletId : String} {s : LnPayment}
    (h : Reachable (restrict (next mediciVoid) (singleWallet walletId)) initial s) :
    s.ledger.resolutions ≤ s.ledger.sends := by
  have hBounded := (exclusive_bounded_of_reachable hVoid h).2
  unfold Bounded at hBounded
  omega

open LnPayment in
theorem refusedSend_resolutions_le_sends :
    ∃ s, run (restrict (next MediciVoid.reversing) (singleWallet "alice")) initial refusedSend =
      some s ∧ s.ledger.resolutions = 1 ∧ s.ledger.resolutions ≤ s.ledger.sends :=
  ⟨_, rfl, rfl, resolutions_le_sends MediciVoid.reversing_lawful
    (@reachable_of_run _ _ (restrict (next MediciVoid.reversing) (singleWallet "alice")) initial _
      refusedSend rfl)⟩

open LnPayment in
/-- Over every interleaving of send attempts and update runs, from any wallets
    and with any leases lost, only send journals have pending transactions, so
    no revert leaves pending reversed transactions, and every revert and
    reimbursement belongs to a send journal of the hash none of whose
    transactions is pending. -/
theorem resolutions_of_settled_sends {mediciVoid : MediciVoid} (hVoid : mediciVoid.Lawful)
    {s : LnPayment} (h : Reachable (next mediciVoid) initial s) :
    (∀ txn ∈ s.ledger.txns, txn.pending = true →
      ∃ journal, s.ledger.journals[txn.journalId]? = some journal ∧ journal.kind = .send) ∧
    ∀ journal ∈ s.ledger.journals, ∀ journalId, journal.kind.resolves = some journalId →
      ∃ original, s.ledger.journals[journalId]? = some original ∧ original.kind = .send ∧
        ∀ txn ∈ s.ledger.txns, txn.journalId = journalId → txn.pending = false :=
  ⟨(consistent_of_reachable hVoid h).pending_send, (consistent_of_reachable hVoid h).resolves⟩

open LnPayment in
theorem refusedSend_resolutions_of_settled_sends :
    ∃ s, run (next MediciVoid.reversing) initial refusedSend = some s ∧
      (∀ txn ∈ s.ledger.txns, txn.pending = true →
        ∃ journal, s.ledger.journals[txn.journalId]? = some journal ∧ journal.kind = .send) ∧
      ∀ journal ∈ s.ledger.journals, ∀ journalId, journal.kind.resolves = some journalId →
        ∃ original, s.ledger.journals[journalId]? = some original ∧ original.kind = .send ∧
          ∀ txn ∈ s.ledger.txns, txn.journalId = journalId → txn.pending = false :=
  ⟨_, rfl, resolutions_of_settled_sends MediciVoid.reversing_lawful
    (@reachable_of_run _ _ (next MediciVoid.reversing) initial _ refusedSend rfl)⟩

namespace LnPayment

/-- Alice pays from her USD wallet and the payment is left in flight.  Run 1
    lists its journal and finds it failed in lnd; run 2 does the same, takes
    the lock, settles the journal and reimburses Alice.  Bob pays the same
    invoice from his USD wallet, and that payment fails in lnd too; run 4
    lists his journal.  Run 1 takes Alice's lock and run 4 Bob's: Bob's journal
    is pending, so both find it unrecorded, and their updates split its two
    transactions.  Both go on, and Alice is reimbursed once more. -/
def twoWallets : List LnPaymentAction :=
  [.startSend (usdLnSendFlow "alice") false, .send 0 .getTransactionsByHash,
    .send 0 (.recordSendOffChain 2), .send 0 (.pay .pending),
    .startUpdate 0, .update 1 (.lookupPayment .Failed),
    .startUpdate 0, .update 2 (.lookupPayment .Failed), .update 2 .isLnTxRecorded,
    .update 2 (.findPaymentFlow (usdLnSendFlow "alice")), .update 2 .settlePendingLnSend,
    .updateOne 2, .updateOne 2, .updated 2, .update 2 (.revert 1),
    .startSend (usdLnSendFlow "bob") false, .send 3 .getTransactionsByHash,
    .send 3 (.recordSendOffChain 2), .send 3 (.pay .pending),
    .startUpdate 3, .update 4 (.lookupPayment .Failed),
    .update 1 .isLnTxRecorded, .update 1 (.findPaymentFlow (usdLnSendFlow "alice")),
    .update 1 .settlePendingLnSend,
    .update 4 .isLnTxRecorded, .update 4 (.findPaymentFlow (usdLnSendFlow "bob")),
    .update 4 .settlePendingLnSend,
    .updateOne 1, .updateOne 1, .updateOne 1, .updateOne 1,
    .updateOne 4, .updateOne 4, .updateOne 4, .updateOne 4, .updateOne 4,
    .updateOne 1, .updated 1, .updated 4, .update 1 (.revert 1), .update 4 (.revert 1)]

end LnPayment

open LnPayment in
/-- The wallet lock only orders the runs of one wallet.  With every lease held,
    two wallets paying the same invoice let two runs' `updateMany` split the
    pending transactions of one journal: both modify one, both go on, and the
    hash holds three reimbursements for two send journals.  (No run voids, so
    the `void` taken is of no account.) -/
theorem twoWallets_resolutions_exceed_sends :
    ∃ s, Reachable (restrict (next MediciVoid.reversing) leaseHeld) initial s ∧
      s.ledger.journals.map (·.kind) =
        [.send, .failedUsdReimbursement 0, .send, .failedUsdReimbursement 0,
          .failedUsdReimbursement 2] ∧
      s.ledger.sends = 2 ∧ s.ledger.resolutions = 3 :=
  ⟨_, @reachable_of_run _ _ (restrict (next MediciVoid.reversing) leaseHeld) initial _ twoWallets
    rfl, rfl, rfl, rfl⟩

namespace LnPayment

/-- An attempt from a USD wallet is left in flight.  Run 1 lists its journal
    and finds it failed in lnd; run 2 does the same and, under the wallet lock,
    settles the journal and reimburses the sender.  The sender tries again, and
    that attempt is in flight too.  Then run 1 takes the lock: the new
    attempt's journal is pending, so `isLnTxRecorded` is false, and run 1
    settles it and reimburses the first attempt once more. -/
def staleUpdate : List LnPaymentAction :=
  [.startSend (usdLnSendFlow "alice") false, .send 0 .getTransactionsByHash,
    .send 0 (.recordSendOffChain 2), .send 0 (.pay .pending),
    .startUpdate 0, .update 1 (.lookupPayment .Failed),
    .startUpdate 0, .update 2 (.lookupPayment .Failed), .update 2 .isLnTxRecorded,
    .update 2 (.findPaymentFlow (usdLnSendFlow "alice")), .update 2 .settlePendingLnSend,
    .updateOne 2, .updateOne 2, .updated 2, .update 2 (.revert 2),
    .startSend (usdLnSendFlow "alice") false, .send 3 .getTransactionsByHash,
    .send 3 (.recordSendOffChain 2), .send 3 (.pay .pending),
    .update 1 .isLnTxRecorded, .update 1 (.findPaymentFlow (usdLnSendFlow "alice")),
    .update 1 .settlePendingLnSend, .updateOne 1, .updateOne 1, .updateOne 1, .updateOne 1,
    .updateOne 1, .updateOne 1, .updated 1, .update 1 (.revert 2)]

end LnPayment

open LnPayment in
/-- `lookupPayment` runs before the wallet lock, and `isLnTxRecorded` under it
    asks about the hash, not the listed journal: a run that looked up the first
    attempt settles the second one and reimburses the first attempt a second
    time, with one wallet, every lease held and every locked section running
    alone.  The second attempt is then settled with nothing written for it,
    whatever lnd does with it.  (From a BTC wallet the second `void` of the
    first journal is refused by a `void` that throws for a voided journal, and
    the second attempt is left settled the same way.) -/
theorem staleUpdate_reimbursesTwice :
    ∃ s, run (restrict (next MediciVoid.reversing) (singleWallet "alice")) initial staleUpdate =
      some s ∧
      s.ledger.journals.map (·.kind) =
        [.send, .failedUsdReimbursement 0, .send, .failedUsdReimbursement 0] ∧
      s.ledger.txns.all (fun txn => !txn.pending) = true :=
  ⟨_, rfl, rfl, rfl⟩

end Galoy
