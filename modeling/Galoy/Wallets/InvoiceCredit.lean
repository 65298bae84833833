/-
  Galoy.Wallets.InvoiceCredit

  The paths that credit the recipient of a wallet invoice with payment hash `h`
  (`app/wallets/update-single-pending-invoice.ts`, `app/payments/send-lightning.ts`,
  `app/payments/helpers.ts`).

  An `updatePendingInvoice` run looks the invoice up in LND outside any lock
  (`processPendingInvoice`); inside `LockService().lockPaymentHash(h)`,
  `lockedUpdatePendingInvoiceSteps` reads the wallet invoice again, settles the
  HTLC in LND unless the lookup found it settled, marks the invoice paid and
  records the receipt; outside the lock the run then marks the invoice as its
  result says.  An on-us payment of `h` is turned away by
  `recipientDetailsFromInvoice` if the invoice is paid; inside
  `lockWalletId(sender)` it checks `isLnTxRecorded(h)`, records the intraledger
  payment, cancels the invoice in LND and marks it paid.

  Every write is atomic, each lock excludes the other holders of its key, and a
  run may crash after any step, its lease then expiring.  LND may hold an
  external payer's HTLC, or cancel the open invoice when it expires.  What
  LND's `cancelHodlInvoice` does is a parameter (`LndCancel`): no result below
  rests on it, so each holds whatever LND does there.

  The on-us path reads `paid` outside any lock and `isLnTxRecorded(h)` only under
  the sender's own wallet lock, so two senders from two wallets both record a
  credit, and a sender credits an invoice that a run has already processed as
  canceled (`onUs_credits_unguarded`).  `updatePendingInvoice` runs on their own
  credit the invoice at most once, and only once it is paid, over every
  interleaving and crash (`InvoiceRuns.CreditedOnce`).
-/

import Galoy.Lib.Transition

namespace Galoy

open Transition

-- ============================================================================
-- Invoices, journals and runs
-- ============================================================================

/-- The flags of the wallet invoice record that the paths read and write. -/
structure WalletInvoice where
  paid : Bool
  processingCompleted : Bool
  deriving DecidableEq, Repr

/-- The invoice in LND. -/
inductive LndInvoiceState where
  | Open
  /-- an external payer's HTLC is held -/
  | Held
  | Settled
  | Canceled
  deriving DecidableEq, Repr

/-- A ledger journal with hash `h`; each credits the invoice's recipient. -/
inductive CreditJournal where
  /-- `recordReceiveOffChain` -/
  | receipt
  /-- `recordIntraledger` from a sender's wallet -/
  | intraledger (senderWalletId : String)
  deriving DecidableEq, Repr

/-- `ProcessPendingInvoiceResultType`, `MarkProcessedAsPaidWithError` handled as
    `MarkProcessedAsPaid`. -/
inductive ProcessPendingInvoiceResultType where
  | MarkProcessedAsCanceledOrExpired
  | MarkProcessedAsPaid
  | Error
  | ReasonInvoiceNotPaidYet
  deriving DecidableEq, Repr

/-- What `cancelHodlInvoice` throws, as `handleReceivePaymentLndErrors` reads it. -/
inductive LndCancelError where
  | InvoiceNotFoundError
  | InvoiceAlreadySettledError
  /-- any other error -/
  | UnknownLightningServiceError
  deriving DecidableEq, Repr

/-- LND's `cancelHodlInvoice`, which `LndService().cancelInvoice` calls: the
    invoice in LND after it, or what it throws. -/
structure LndCancel where
  cancelHodlInvoice : LndInvoiceState → Except LndCancelError LndInvoiceState

/-- `LndService().cancelInvoice`: an invoice LND does not find, or has settled,
    counts as canceled. -/
def cancelInvoice (lndCancel : LndCancel) (lnd : LndInvoiceState) :
    Except LndCancelError LndInvoiceState :=
  match lndCancel.cancelHodlInvoice lnd with
  | .ok lnd' => .ok lnd'
  | .error .InvoiceNotFoundError | .error .InvoiceAlreadySettledError => .ok lnd
  | .error error => .error error

/-- Where an `updatePendingInvoice` run stands. -/
inductive UpdateStep where
  | started
  /-- LND holds or has settled the HTLC; waits for the payment hash lock -/
  | lookedUp (isSettledInLnd : Bool)
  | locked (isSettledInLnd : Bool)
  /-- read the wallet invoice again inside the lock: not processed yet -/
  | unprocessed (isSettledInLnd : Bool)
  | settledInLnd
  | markedPaid
  /-- `processPendingInvoice` has returned -/
  | processed (result : ProcessPendingInvoiceResultType)
  | finished
  deriving DecidableEq, Repr

namespace UpdateStep

/-- The steps inside the payment hash lock. -/
def holdsLock : UpdateStep → Bool
  | .locked _ | .unprocessed _ | .settledInLnd | .markedPaid => true
  | _ => false

/-- The steps after the read inside the lock found the invoice unprocessed. -/
def fresh : UpdateStep → Bool
  | .unprocessed _ | .settledInLnd | .markedPaid => true
  | _ => false

theorem holdsLock_of_fresh {step : UpdateStep} (h : step.fresh = true) : step.holdsLock = true := by
  cases step <;> simp_all [fresh, holdsLock]

end UpdateStep

/-- Where an on-us payment of the invoice stands. -/
inductive OnUsStep where
  | started
  | locked
  /-- `isLnTxRecorded` was false -/
  | unrecorded
  | recorded
  | canceledInLnd
  | finished
  deriving DecidableEq, Repr

inductive InvoiceRun where
  | update (walletInvoiceBeforeProcessing : WalletInvoice) (step : UpdateStep)
  | onUs (senderWalletId : String) (step : OnUsStep)
  deriving DecidableEq, Repr

/-- The wallet invoice, the invoice in LND, the journals with its hash, the
    payment hash lock, the wallet locks, and the runs started so far. -/
structure InvoiceRuns where
  walletInvoice : WalletInvoice
  lnd : LndInvoiceState
  journals : List CreditJournal
  hashLock : Option ℕ
  walletLocks : String → Option ℕ
  runs : ℕ → Option InvoiceRun

inductive UpdateAction where
  | lookupInvoice
  | acquire
  | findByPaymentHash
  | settleInvoice
  | markAsPaid
  | recordReceiveOffChain
  /-- the `switch` on the result in `updatePendingInvoice` -/
  | finish
  deriving DecidableEq, Repr

inductive OnUsAction where
  | acquire
  | isLnTxRecorded
  | recordIntraledger
  | cancelInvoice
  | markAsPaid
  deriving DecidableEq, Repr

inductive InvoiceAction where
  | startUpdate (i : ℕ)
  | update (i : ℕ) (a : UpdateAction)
  | startOnUs (i : ℕ) (senderWalletId : String)
  | onUs (i : ℕ) (a : OnUsAction)
  | crash (i : ℕ)
  /-- an external payer's HTLC reaches LND -/
  | htlcHeld
  /-- LND cancels the open invoice when it expires -/
  | expire
  deriving DecidableEq, Repr

namespace InvoiceRuns

/-- A fresh invoice: unpaid, open in LND, no journal, no run. -/
def initial : InvoiceRuns := ⟨⟨false, false⟩, .Open, [], none, fun _ => none, fun _ => none⟩

def setRun (s : InvoiceRuns) (i : ℕ) (r : InvoiceRun) : InvoiceRuns :=
  { s with runs := Function.update s.runs i (some r) }

def setLnd (s : InvoiceRuns) (lnd : LndInvoiceState) : InvoiceRuns := { s with lnd := lnd }

/-- The payment hash lock is released only by its holder. -/
def releaseHash (s : InvoiceRuns) (i : ℕ) : InvoiceRuns :=
  if s.hashLock = some i then { s with hashLock := none } else s

/-- A wallet lock is released only by its holder. -/
def releaseWallet (s : InvoiceRuns) (walletId : String) (i : ℕ) : InvoiceRuns :=
  if s.walletLocks walletId = some i then
    { s with walletLocks := Function.update s.walletLocks walletId none }
  else s

/-- `markAsPaid`: `{ paid: true, processingCompleted: true }`. -/
def markAsPaid (s : InvoiceRuns) : InvoiceRuns := { s with walletInvoice := ⟨true, true⟩ }

/-- `markAsProcessingCompleted`. -/
def markAsProcessingCompleted (s : InvoiceRuns) : InvoiceRuns :=
  { s with walletInvoice := { s.walletInvoice with processingCompleted := true } }

def record (s : InvoiceRuns) (journal : CreditJournal) : InvoiceRuns :=
  { s with journals := s.journals ++ [journal] }

/-- What `processPendingInvoice` returns for an invoice already processed. -/
def processedResult (walletInvoice : WalletInvoice) : ProcessPendingInvoiceResultType :=
  if walletInvoice.paid then .MarkProcessedAsPaid else .MarkProcessedAsCanceledOrExpired

/-- `processPendingInvoice` after its LND lookup, for an invoice not processed
    before the run. -/
def lookupResult : LndInvoiceState → UpdateStep
  | .Canceled => .processed .MarkProcessedAsCanceledOrExpired
  | .Open => .processed .ReasonInvoiceNotPaidYet
  | .Held => .lookedUp false
  | .Settled => .lookedUp true

/-- One step of `updatePendingInvoice` run `i`. -/
def updateStep (s : InvoiceRuns) (i : ℕ) (before : WalletInvoice) (step : UpdateStep) :
    UpdateAction → Option InvoiceRuns
  | .lookupInvoice =>
    if step = .started then
      some (s.setRun i (.update before
        (if before.processingCompleted then .processed (processedResult before)
          else lookupResult s.lnd)))
    else none
  | .acquire =>
    match step with
    | .lookedUp settled =>
      if s.hashLock = none then
        some { s.setRun i (.update before (.locked settled)) with hashLock := some i }
      else none
    | _ => none
  | .findByPaymentHash =>
    match step with
    | .locked settled =>
      if s.walletInvoice.processingCompleted then
        some ((s.setRun i (.update before (.processed (processedResult s.walletInvoice)))).releaseHash i)
      else some (s.setRun i (.update before (.unprocessed settled)))
    | _ => none
  | .settleInvoice =>
    match step with
    | .unprocessed settled =>
      -- settling is idempotent in LND; an open or canceled invoice cannot be settled
      if settled then some (s.setRun i (.update before .settledInLnd))
      else
        match s.lnd with
        | .Held | .Settled => some ((s.setRun i (.update before .settledInLnd)).setLnd .Settled)
        | _ => some ((s.setRun i (.update before (.processed .Error))).releaseHash i)
    | _ => none
  | .markAsPaid =>
    if step = .settledInLnd then some ((s.setRun i (.update before .markedPaid)).markAsPaid)
    else none
  | .recordReceiveOffChain =>
    if step = .markedPaid then
      some (((s.setRun i (.update before (.processed .MarkProcessedAsPaid))).record .receipt).releaseHash i)
    else none
  | .finish =>
    match step with
    | .processed result =>
      let s' := s.setRun i (.update before .finished)
      if before.processingCompleted then some s'
      else
        match result with
        | .MarkProcessedAsCanceledOrExpired => some s'.markAsProcessingCompleted
        | .MarkProcessedAsPaid => some s'.markAsPaid
        | _ => some s'
    | _ => none

/-- One step of the on-us payment `i` from the wallet `senderWalletId`. -/
def onUsStep (lndCancel : LndCancel) (s : InvoiceRuns) (i : ℕ) (senderWalletId : String)
    (step : OnUsStep) : OnUsAction → Option InvoiceRuns
  | .acquire =>
    if step = .started ∧ s.walletLocks senderWalletId = none then
      some { s.setRun i (.onUs senderWalletId .locked) with
        walletLocks := Function.update s.walletLocks senderWalletId (some i) }
    else none
  | .isLnTxRecorded =>
    if step = .locked then
      if s.journals.isEmpty then some (s.setRun i (.onUs senderWalletId .unrecorded))
      else some ((s.setRun i (.onUs senderWalletId .finished)).releaseWallet senderWalletId i)
    else none
  | .recordIntraledger =>
    if step = .unrecorded then
      some ((s.setRun i (.onUs senderWalletId .recorded)).record (.intraledger senderWalletId))
    else none
  | .cancelInvoice =>
    if step = .recorded then
      match cancelInvoice lndCancel s.lnd with
      | .ok lnd => some ((s.setRun i (.onUs senderWalletId .canceledInLnd)).setLnd lnd)
      -- the error is returned, and the invoice is not marked paid
      | .error _ =>
        some ((s.setRun i (.onUs senderWalletId .finished)).releaseWallet senderWalletId i)
    else none
  | .markAsPaid =>
    if step = .canceledInLnd then
      some (((s.setRun i (.onUs senderWalletId .finished)).markAsPaid).releaseWallet senderWalletId i)
    else none

/-- A run that crashes ends, and the lease of the lock it holds expires. -/
def crashRun (s : InvoiceRuns) (i : ℕ) : InvoiceRun → InvoiceRuns
  | .update before _ => (s.setRun i (.update before .finished)).releaseHash i
  | .onUs senderWalletId _ =>
    (s.setRun i (.onUs senderWalletId .finished)).releaseWallet senderWalletId i

def next (lndCancel : LndCancel) (s : InvoiceRuns) : InvoiceAction → Option InvoiceRuns
  | .startUpdate i =>
    if s.runs i = none then some (s.setRun i (.update s.walletInvoice .started)) else none
  | .update i a =>
    match s.runs i with
    | some (.update before step) => s.updateStep i before step a
    | _ => none
  | .startOnUs i senderWalletId =>
    -- `recipientDetailsFromInvoice` turns a paid invoice away
    if s.runs i = none ∧ s.walletInvoice.paid = false then
      some (s.setRun i (.onUs senderWalletId .started))
    else none
  | .onUs i a =>
    match s.runs i with
    | some (.onUs senderWalletId step) => s.onUsStep lndCancel i senderWalletId step a
    | _ => none
  | .crash i => (s.runs i).map (s.crashRun i)
  | .htlcHeld => if s.lnd = .Open then some (s.setLnd .Held) else none
  | .expire => if s.lnd = .Open then some (s.setLnd .Canceled) else none

/-- Only `updatePendingInvoice` runs credit the invoice. -/
def updatesOnly (_ : InvoiceRuns) : InvoiceAction → Bool
  | .startOnUs _ _ => false
  | _ => true

-- ============================================================================
-- Field lemmas
-- ============================================================================

section Fields

variable (s : InvoiceRuns) (i : ℕ) (r : InvoiceRun) (lnd : LndInvoiceState)
  (journal : CreditJournal)

@[simp] theorem setRun_walletInvoice : (s.setRun i r).walletInvoice = s.walletInvoice := rfl
@[simp] theorem setRun_journals : (s.setRun i r).journals = s.journals := rfl
@[simp] theorem setRun_hashLock : (s.setRun i r).hashLock = s.hashLock := rfl
@[simp] theorem setRun_runs : (s.setRun i r).runs = Function.update s.runs i (some r) := rfl
@[simp] theorem setLnd_walletInvoice : (s.setLnd lnd).walletInvoice = s.walletInvoice := rfl
@[simp] theorem setLnd_journals : (s.setLnd lnd).journals = s.journals := rfl
@[simp] theorem setLnd_hashLock : (s.setLnd lnd).hashLock = s.hashLock := rfl
@[simp] theorem setLnd_runs : (s.setLnd lnd).runs = s.runs := rfl
@[simp] theorem markAsPaid_walletInvoice : s.markAsPaid.walletInvoice = ⟨true, true⟩ := rfl
@[simp] theorem markAsPaid_journals : s.markAsPaid.journals = s.journals := rfl
@[simp] theorem markAsPaid_hashLock : s.markAsPaid.hashLock = s.hashLock := rfl
@[simp] theorem markAsPaid_runs : s.markAsPaid.runs = s.runs := rfl
@[simp] theorem markAsProcessingCompleted_journals :
    s.markAsProcessingCompleted.journals = s.journals := rfl
@[simp] theorem markAsProcessingCompleted_hashLock :
    s.markAsProcessingCompleted.hashLock = s.hashLock := rfl
@[simp] theorem markAsProcessingCompleted_runs : s.markAsProcessingCompleted.runs = s.runs := rfl
@[simp] theorem record_walletInvoice : (s.record journal).walletInvoice = s.walletInvoice := rfl
@[simp] theorem record_journals : (s.record journal).journals = s.journals ++ [journal] := rfl
@[simp] theorem record_hashLock : (s.record journal).hashLock = s.hashLock := rfl
@[simp] theorem record_runs : (s.record journal).runs = s.runs := rfl
@[simp] theorem releaseHash_walletInvoice : (s.releaseHash i).walletInvoice = s.walletInvoice := by
  unfold releaseHash
  split <;> rfl
@[simp] theorem releaseHash_journals : (s.releaseHash i).journals = s.journals := by
  unfold releaseHash
  split <;> rfl
@[simp] theorem releaseHash_runs : (s.releaseHash i).runs = s.runs := by
  unfold releaseHash
  split <;> rfl

/-- Marking an invoice processed leaves a paid one as it is. -/
theorem markAsProcessingCompleted_of_paid (h : s.walletInvoice = ⟨true, true⟩) :
    s.markAsProcessingCompleted.walletInvoice = ⟨true, true⟩ := by
  simp [markAsProcessingCompleted, h]

end Fields

-- ============================================================================
-- The invariant of `updatePendingInvoice` runs
-- ============================================================================

/-- What `updatePendingInvoice` run `i` knows inside the payment hash lock: it
    holds the lock; after its read found the invoice unprocessed, no journal is
    recorded; and once it has marked the invoice paid, the invoice is paid.  No
    on-us payment runs. -/
def Knows (s : InvoiceRuns) (i : ℕ) : InvoiceRun → Prop
  | .update _ step =>
    (step.holdsLock = true → s.hashLock = some i) ∧
      (step.fresh = true → s.journals = []) ∧
      (step = .markedPaid → s.walletInvoice = ⟨true, true⟩)
  | .onUs _ _ => False

/-- The inductive invariant: at most one journal credits the invoice, a credited
    invoice is paid, and every run knows what its step says. -/
structure CreditedOnce (s : InvoiceRuns) : Prop where
  atMostOne : s.journals.length ≤ 1
  paid : s.journals ≠ [] → s.walletInvoice = ⟨true, true⟩
  knows : ForallProcs s.runs (Knows s)

theorem initial_creditedOnce : initial.CreditedOnce where
  atMostOne := by simp [initial]
  paid h := absurd rfl h
  knows _ _ hi := by cases hi

section Steps

variable {s : InvoiceRuns} {i j : ℕ} {r : InvoiceRun}

/-- A run outside the lock knows nothing. -/
theorem knows_of_not_holdsLock (before : WalletInvoice) (step : UpdateStep)
    (h : step.holdsLock = false) (s : InvoiceRuns) (j : ℕ) : Knows s j (.update before step) := by
  refine ⟨fun hl => absurd hl (by simp [h]), fun hf => ?_, fun hm => ?_⟩
  · have hl := UpdateStep.holdsLock_of_fresh hf
    simp [h] at hl
  · subst hm
    simp [UpdateStep.holdsLock] at h

/-- A run that does not hold the lock knows nothing, whatever the state. -/
theorem Knows.of_lock_ne (hk : Knows s j r) (hLock : s.hashLock ≠ some j) (s' : InvoiceRuns) :
    Knows s' j r := by
  cases r with
  | update before step =>
    cases hl : step.holdsLock with
    | false => exact knows_of_not_holdsLock before step hl s' j
    | true => exact absurd (hk.1 hl) hLock
  | onUs _ _ => exact hk.elim

theorem Knows.setRun (hk : Knows s j r) (k : ℕ) (r' : InvoiceRun) : Knows (s.setRun k r') j r := by
  cases r with
  | update _ _ => exact hk
  | onUs _ _ => exact hk

theorem Knows.setLnd (hk : Knows s j r) (lnd : LndInvoiceState) : Knows (s.setLnd lnd) j r := by
  cases r with
  | update _ _ => exact hk
  | onUs _ _ => exact hk

theorem Knows.markAsPaid (hk : Knows s j r) : Knows s.markAsPaid j r := by
  cases r with
  | update _ _ => exact ⟨hk.1, hk.2.1, fun _ => rfl⟩
  | onUs _ _ => exact hk

theorem Knows.markAsProcessingCompleted (hk : Knows s j r) :
    Knows s.markAsProcessingCompleted j r := by
  cases r with
  | update _ _ =>
    exact ⟨hk.1, hk.2.1, fun hm => markAsProcessingCompleted_of_paid s (hk.2.2 hm)⟩
  | onUs _ _ => exact hk

/-- Another run loses nothing when run `i` releases the lock: it is outside. -/
theorem Knows.releaseHash (hk : Knows s j r) (hji : j ≠ i) : Knows (s.releaseHash i) j r := by
  unfold InvoiceRuns.releaseHash
  split
  · rename_i hHeld
    exact hk.of_lock_ne (by rw [hHeld]; simpa using hji.symm) _
  · exact hk

/-- A step of run `i` that sets its state to `r'` keeps the invariant when it
    keeps the journals' count and the paid flag, `i`'s knowledge and that of
    every other run. -/
theorem CreditedOnce.update (h : s.CreditedOnce) {s' : InvoiceRuns} {r' : InvoiceRun}
    (hRuns : s'.runs = Function.update s.runs i (some r')) (hAtMostOne : s'.journals.length ≤ 1)
    (hPaid : s'.journals ≠ [] → s'.walletInvoice = ⟨true, true⟩) (hSelf : Knows s' i r')
    (hOthers : ∀ j r, j ≠ i → s.runs j = some r → Knows s j r → Knows s' j r) :
    s'.CreditedOnce :=
  ⟨hAtMostOne, hPaid, hRuns ▸ h.knows.update hSelf hOthers⟩

/-- While run `i` holds the lock, its step leaves every other run knowing
    nothing to lose. -/
theorem others_of_held (hHeld : s.hashLock = some i) (s' : InvoiceRuns) :
    ∀ j r, j ≠ i → s.runs j = some r → Knows s j r → Knows s' j r :=
  fun _ _ hji _ hk => hk.of_lock_ne (by rw [hHeld]; simpa using hji.symm) s'

/-- Every step of `updatePendingInvoice` run `i` keeps the invariant. -/
theorem CreditedOnce.updateStep (h : s.CreditedOnce) {before : WalletInvoice}
    {step : UpdateStep} (hi : s.runs i = some (.update before step)) {a : UpdateAction}
    {s' : InvoiceRuns} (hStep : s.updateStep i before step a = some s') : s'.CreditedOnce := by
  obtain ⟨hLock, hFresh, hMarked⟩ := h.knows i _ hi
  cases a with
  | lookupInvoice =>
    simp only [InvoiceRuns.updateStep] at hStep
    split at hStep
    · cases hStep
      -- outside the lock only the run's own step moves
      refine h.update rfl h.atMostOne h.paid (knows_of_not_holdsLock before _ ?_ _ i)
        fun _ _ _ _ hk => hk.setRun i _
      split
      · rfl
      · cases s.lnd <;> rfl
    · cases hStep
  | acquire =>
    simp only [InvoiceRuns.updateStep] at hStep
    split at hStep
    · split at hStep
      · rename_i hFree
        cases hStep
        -- the lock was free, so no other run was inside it
        refine h.update rfl h.atMostOne h.paid ⟨fun _ => rfl, fun hf => absurd hf (by simp [UpdateStep.fresh]),
          fun hm => by cases hm⟩ fun _ _ _ _ hk => hk.of_lock_ne (by simp [hFree]) _
      · cases hStep
    · cases hStep
  | findByPaymentHash =>
    simp only [InvoiceRuns.updateStep] at hStep
    split at hStep
    · rename_i settled
      have hHeld := hLock rfl
      split at hStep
      · cases hStep
        exact h.update (by simp) (by simpa using h.atMostOne) (by simpa using h.paid)
          (knows_of_not_holdsLock before (.processed (processedResult s.walletInvoice)) rfl _ i)
          (others_of_held hHeld _)
      · rename_i hUnprocessed
        cases hStep
        -- the invoice is not processed, so not paid, so nothing is recorded yet
        have hNone : s.journals = [] := by
          by_contra hSome
          have hPaid := h.paid hSome
          rw [hPaid] at hUnprocessed
          exact hUnprocessed rfl
        exact h.update rfl h.atMostOne h.paid ⟨fun _ => hHeld, fun _ => hNone, fun hm => by cases hm⟩
          (others_of_held hHeld _)
    · cases hStep
  | settleInvoice =>
    simp only [InvoiceRuns.updateStep] at hStep
    split at hStep
    · rename_i settled
      have hHeld := hLock rfl
      have hNone := hFresh rfl
      have hSettled : Knows (s.setRun i (.update before .settledInLnd)) i (.update before .settledInLnd) :=
        ⟨fun _ => hHeld, fun _ => hNone, fun hm => by cases hm⟩
      split at hStep
      · cases hStep
        exact h.update rfl h.atMostOne h.paid hSettled (others_of_held hHeld _)
      · split at hStep
        · cases hStep
          exact h.update rfl h.atMostOne h.paid (hSettled.setLnd _) (others_of_held hHeld _)
        · cases hStep
          exact h.update rfl h.atMostOne h.paid (hSettled.setLnd _) (others_of_held hHeld _)
        · cases hStep
          exact h.update (by simp) (by simpa using h.atMostOne) (by simpa using h.paid)
            (knows_of_not_holdsLock before (.processed .Error) rfl _ i) (others_of_held hHeld _)
    · cases hStep
  | markAsPaid =>
    simp only [InvoiceRuns.updateStep] at hStep
    split at hStep
    · rename_i hSettled
      subst hSettled
      cases hStep
      have hHeld := hLock rfl
      exact h.update rfl h.atMostOne (fun _ => rfl) ⟨fun _ => hHeld, fun _ => hFresh rfl, fun _ => rfl⟩
        (others_of_held hHeld _)
    · cases hStep
  | recordReceiveOffChain =>
    simp only [InvoiceRuns.updateStep] at hStep
    split at hStep
    · rename_i hMarkedPaid
      subst hMarkedPaid
      cases hStep
      -- the one receipt: the lock holder found no journal and has marked the invoice paid
      have hHeld := hLock rfl
      have hNone := hFresh rfl
      exact h.update (by simp) (by simp [hNone]) (fun _ => by simpa using hMarked rfl)
        (knows_of_not_holdsLock before (.processed .MarkProcessedAsPaid) rfl _ i)
        (others_of_held hHeld _)
    · cases hStep
  | finish =>
    simp only [InvoiceRuns.updateStep] at hStep
    split at hStep
    · have hOthers : ∀ j r, j ≠ i → s.runs j = some r → Knows s j r →
          Knows (s.setRun i (.update before .finished)) j r :=
        fun _ _ _ _ hk => hk.setRun i _
      have hSelf := knows_of_not_holdsLock before .finished rfl
      split at hStep
      · cases hStep
        exact h.update rfl h.atMostOne h.paid (hSelf _ i) hOthers
      · split at hStep
        · cases hStep
          exact h.update rfl h.atMostOne
            (fun hSome => markAsProcessingCompleted_of_paid _ (h.paid hSome)) (hSelf _ i)
            fun j r hji hj hk => (hOthers j r hji hj hk).markAsProcessingCompleted
        · cases hStep
          exact h.update rfl h.atMostOne (fun _ => rfl) (hSelf _ i)
            fun j r hji hj hk => (hOthers j r hji hj hk).markAsPaid
        · cases hStep
          exact h.update rfl h.atMostOne h.paid (hSelf _ i) hOthers
    · cases hStep

/-- Every step of the system without on-us payments keeps the invariant. -/
theorem CreditedOnce.nextUpdatesOnly (h : s.CreditedOnce) {lndCancel : LndCancel}
    {a : InvoiceAction} {s' : InvoiceRuns}
    (hStep : restrict (InvoiceRuns.next lndCancel) InvoiceRuns.updatesOnly s a = some s') :
    s'.CreditedOnce := by
  obtain ⟨hAllowed, hStep⟩ := restrict_eq_some hStep
  cases a with
  | startUpdate i =>
    simp only [InvoiceRuns.next] at hStep
    split at hStep
    · cases hStep
      exact h.update rfl h.atMostOne h.paid (knows_of_not_holdsLock s.walletInvoice .started rfl _ i)
        fun _ _ _ _ hk => hk.setRun i _
    · cases hStep
  | update i a =>
    simp only [InvoiceRuns.next] at hStep
    split at hStep
    · rename_i before step hi
      exact h.updateStep hi hStep
    · cases hStep
  | startOnUs i senderWalletId => simp [InvoiceRuns.updatesOnly] at hAllowed
  | onUs i a =>
    simp only [InvoiceRuns.next] at hStep
    split at hStep
    · rename_i senderWalletId step hi
      exact (h.knows i _ hi).elim
    · cases hStep
  | crash i =>
    simp only [InvoiceRuns.next] at hStep
    obtain ⟨r, hi, rfl⟩ := Option.map_eq_some_iff.mp hStep
    cases r with
    | update before step =>
      -- the run ends; if it held the lock, its lease expires
      exact h.update (by simp [InvoiceRuns.crashRun]) (by simpa [InvoiceRuns.crashRun] using h.atMostOne)
        (by simpa [InvoiceRuns.crashRun] using h.paid)
        (knows_of_not_holdsLock before .finished rfl _ i)
        fun j r hji _ hk => (hk.setRun i _).releaseHash hji
    | onUs senderWalletId step => exact (h.knows i _ hi).elim
  | htlcHeld =>
    simp only [InvoiceRuns.next] at hStep
    split at hStep
    · cases hStep
      exact ⟨h.atMostOne, h.paid, h.knows.mono fun _ _ _ hk => hk.setLnd _⟩
    · cases hStep
  | expire =>
    simp only [InvoiceRuns.next] at hStep
    split at hStep
    · cases hStep
      exact ⟨h.atMostOne, h.paid, h.knows.mono fun _ _ _ hk => hk.setLnd _⟩
    · cases hStep

end Steps

end InvoiceRuns

open InvoiceRuns in
/-- `updatePendingInvoice` runs on their own, over every interleaving and crash,
    record at most one journal for the invoice, and only for a paid invoice. -/
theorem InvoiceRuns.creditedOnce_of_updatesOnly {lndCancel : LndCancel} {s : InvoiceRuns}
    (h : Reachable (restrict (next lndCancel) updatesOnly) initial s) :
    s.journals.length ≤ 1 ∧ (s.journals ≠ [] → s.walletInvoice.paid = true) := by
  have hs := Invariant.holds ⟨initial_creditedOnce, fun _ _ _ hs hStep => hs.nextUpdatesOnly hStep⟩ h
  exact ⟨hs.atMostOne, fun hSome => by rw [hs.paid hSome]⟩

open InvoiceRuns in
/-- Two update runs look the held invoice up before either takes the payment
    hash lock; the first settles and credits it, the second finds it processed. -/
theorem twoUpdates_credited_once :
    ∃ s, run (restrict (next ⟨fun _ => .ok .Canceled⟩) updatesOnly) initial
        [.htlcHeld, .startUpdate 0, .startUpdate 1, .update 0 .lookupInvoice,
          .update 1 .lookupInvoice, .update 0 .acquire, .update 0 .findByPaymentHash,
          .update 0 .settleInvoice, .update 0 .markAsPaid, .update 0 .recordReceiveOffChain,
          .update 1 .acquire, .update 1 .findByPaymentHash, .update 0 .finish,
          .update 1 .finish] = some s ∧
      s.journals = [.receipt] ∧ s.journals.length ≤ 1 ∧
      (s.journals ≠ [] → s.walletInvoice.paid = true) := by
  obtain ⟨s, hRun⟩ : ∃ s, run (restrict (next ⟨fun _ => .ok .Canceled⟩) updatesOnly) initial
      [.htlcHeld, .startUpdate 0, .startUpdate 1, .update 0 .lookupInvoice,
        .update 1 .lookupInvoice, .update 0 .acquire, .update 0 .findByPaymentHash,
        .update 0 .settleInvoice, .update 0 .markAsPaid, .update 0 .recordReceiveOffChain,
        .update 1 .acquire, .update 1 .findByPaymentHash, .update 0 .finish,
        .update 1 .finish] = some s := ⟨_, rfl⟩
  have hJournals : s.journals = [.receipt] := by
    rw [Option.some.inj hRun.symm]
    rfl
  exact ⟨s, hRun, hJournals, creditedOnce_of_updatesOnly (reachable_of_run hRun)⟩

namespace InvoiceRuns

/-- Two on-us payments of the invoice, from the wallets `alice` and `bob`, each
    inside its own wallet lock. -/
def twoSenders : List InvoiceAction :=
  [.startOnUs 0 "alice", .startOnUs 1 "bob", .onUs 0 .acquire, .onUs 1 .acquire,
    .onUs 0 .isLnTxRecorded, .onUs 1 .isLnTxRecorded, .onUs 0 .recordIntraledger,
    .onUs 1 .recordIntraledger]

/-- LND cancels the expired invoice and a run marks it processed; then an on-us
    payment from `alice` records its credit. -/
def senderAfterExpiry : List InvoiceAction :=
  [.startUpdate 0, .expire, .update 0 .lookupInvoice, .update 0 .finish, .startOnUs 1 "alice",
    .onUs 1 .acquire, .onUs 1 .isLnTxRecorded, .onUs 1 .recordIntraledger]

end InvoiceRuns

open InvoiceRuns in
/-- Both senders pass the `paid` check and `isLnTxRecorded` before either
    records, and the recipient is credited twice; and a credit is recorded for an
    invoice marked `processingCompleted` but not paid. -/
theorem onUs_credits_unguarded (lndCancel : LndCancel) :
    (∃ s, run (next lndCancel) initial twoSenders = some s ∧
      s.journals = [.intraledger "alice", .intraledger "bob"]) ∧
    (∃ s, run (next lndCancel) initial senderAfterExpiry = some s ∧
      s.journals = [.intraledger "alice"] ∧ s.walletInvoice = ⟨false, true⟩) :=
  ⟨⟨_, rfl, rfl⟩, ⟨_, rfl, rfl, rfl⟩⟩

end Galoy
