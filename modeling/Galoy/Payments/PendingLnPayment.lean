/-
  Galoy.Payments.PendingLnPayment

  How the journals of an outgoing Lightning payment with hash `h` are settled
  (`app/payments/send-lightning.ts`, `app/payments/update-pending-payments.ts`,
  `app/payments/reimburse-fee.ts`, `app/payments/reimburse-failed-usd.ts`,
  `services/ledger/facade/offchain-send.ts`, `services/ledger/index.ts`,
  `services/lock/index.ts`).

  A send attempt, `lockedPaymentViaLnSteps`, runs under the lock of the sender's
  wallet.  It turns away while a transaction with the hash is pending, records
  the pending send journal and pays.  After an error from lnd it settles and
  voids the journal; after a payment it settles and reimburses the unspent fee
  unless the route was known in advance; a payment still in flight is left
  pending.  An update run, `updatePendingPayment`, takes one pending
  transaction from `listPendingPayments` and looks the payment up in lnd; then,
  under the wallet lock, `lockedPendingPaymentSteps` checks `isLnTxRecorded`,
  finds the payment flow and settles.  A payment that failed or paid another
  amount is then voided for a BTC sender and reimbursed to a USD sender; a
  confirmed one has its fee reimbursed unless it was known in advance.

  The ledger is kept as medici keeps it: journals, and transactions that each
  carry their journal and a `pending` flag.  `settlePendingLnSend` is one
  `Transaction.updateMany({ hash }, { pending: false })`, and the run goes on
  only if it modified a transaction.  The update takes one step per
  transaction, so other runs step in between; it reaches every transaction
  there when it began, and may or may not reach those written since.  A
  journal's transactions are written in one step.  medici's `MainBook.void` is
  a parameter: `MediciVoid.Lawful` says what a `void` that returns has written.

  The wallet lock is a lease (`LockService().lockWalletId`, redlock): a run
  takes it when it enters its locked section and gives it back when it leaves,
  unless the lease ran out and another run holds it.
-/

import Galoy.Ledger.FeeReimbursement
import Galoy.Payments.LnSendLedger

namespace Galoy

-- ============================================================================
-- The journals and transactions of the payment hash
-- ============================================================================

/-- What a journal with the payment hash records. -/
inductive LnJournalKind where
  /-- `recordSendOffChain`: the sender is debited the amount and the fee -/
  | send
  /-- `MainBook.void` of the journal `original`: its transactions reversed -/
  | revert (original : ℕ)
  /-- `reimburseFailedUsdPayment` for the journal `original` -/
  | failedUsdReimbursement (original : ℕ)
  /-- `reimburseFee` for the journal `original` -/
  | feeReimbursement (original : ℕ) (feeDifference : PaymentAmountInAllCurrencies)
  deriving DecidableEq, Repr

namespace LnJournalKind

def isSend : LnJournalKind → Bool
  | .send => true
  | _ => false

/-- The send journal that a revert or a reimbursement resolves. -/
def resolves : LnJournalKind → Option ℕ
  | .send => none
  | .revert original | .failedUsdReimbursement original | .feeReimbursement original _ =>
    some original

end LnJournalKind

/-- A journal with the payment hash: medici's `voided` flag, the
    `feeKnownInAdvance` metadata of its transactions, and the sender's wallet,
    in whose account `listPendingPayments` finds them. -/
structure LnJournal where
  kind : LnJournalKind
  voided : Bool
  feeKnownInAdvance : Bool
  walletId : String
  deriving DecidableEq, Repr

/-- A medici transaction with the payment hash: its journal and its `pending`
    flag. -/
structure LnTxn where
  journalId : ℕ
  pending : Bool
  deriving DecidableEq, Repr

/-- The journals with the payment hash, by id, and their transactions in the
    order they were written. -/
structure LnLedger where
  journals : List LnJournal
  txns : List LnTxn
  deriving DecidableEq, Repr

namespace LnLedger

/-- A journal written with `rows` transactions, each with the flag `pending`. -/
def record (ledger : LnLedger) (journal : LnJournal) (rows : ℕ) (pending : Bool) : LnLedger :=
  ⟨ledger.journals ++ [journal],
    ledger.txns ++ List.replicate rows ⟨ledger.journals.length, pending⟩⟩

/-- One document of `updateMany({ hash }, { pending: false })`: the
    transaction `txn` at position `k` is settled. -/
def settleTxn (ledger : LnLedger) (k : ℕ) (txn : LnTxn) : LnLedger :=
  { ledger with txns := ledger.txns.set k { txn with pending := false } }

/-- What medici documents that `void` writes: the journal `journal` at
    `journalId` is marked voided, and a new journal reverses it, with the
    original's metadata and one transaction for each of the original's,
    pending where that one is. -/
def reverse (ledger : LnLedger) (journalId : ℕ) (journal : LnJournal) : LnLedger :=
  ⟨ledger.journals.set journalId { journal with voided := true } ++
      [⟨.revert journalId, false, journal.feeKnownInAdvance, journal.walletId⟩],
    ledger.txns ++ (ledger.txns.filter (·.journalId == journalId)).map
      fun txn => ⟨ledger.journals.length, txn.pending⟩⟩

/-- `isLnTxRecorded`: some transaction with the hash is settled and none is
    pending (`MainBook.ledger` counts transactions). -/
def isLnTxRecorded (ledger : LnLedger) : Bool :=
  0 < ledger.txns.countP (fun txn => !txn.pending) && ledger.txns.countP (·.pending) = 0

end LnLedger

/-- The errors of the ledger calls below. -/
inductive LedgerServiceError where
  | NoTransactionToSettleError
  /-- what medici throws, wrapped -/
  | UnknownLedgerError
  deriving DecidableEq, Repr

/-- `MainBook.void(journalId, reason)`, which medici implements; its error is
    what it throws, wrapped. -/
structure MediciVoid where
  void : LnLedger → ℕ → Except LedgerServiceError LnLedger

/-- What medici documents of a `void` that returns: the journal was there, and
    it has been voided and reversed. -/
structure MediciVoid.Lawful (mediciVoid : MediciVoid) : Prop where
  void_eq_ok : ∀ ledger journalId ledger', mediciVoid.void ledger journalId = .ok ledger' →
    ∃ journal, ledger.journals[journalId]? = some journal ∧
      ledger' = ledger.reverse journalId journal

namespace MediciVoid

/-- A `void` that throws for a journal that is not there or already voided. -/
def reversing : MediciVoid where
  void ledger journalId :=
    match ledger.journals[journalId]? with
    | none => .error .UnknownLedgerError
    | some journal =>
      if journal.voided then .error .UnknownLedgerError
      else .ok (ledger.reverse journalId journal)

theorem reversing_lawful : reversing.Lawful where
  void_eq_ok ledger journalId ledger' h := by
    simp only [reversing] at h
    split at h
    · cases h
    · rename_i journal hJournal
      split at h
      · cases h
      · cases h
        exact ⟨journal, hJournal, rfl⟩

end MediciVoid

/-- The fee difference `reimburseFee` records for the flow and the fee lnd
    reports: nothing when the flow has no price ratio, when the fee is above the
    prepaid one, or when no sat is left over. -/
def reimburseFee (paymentFlow : PaymentFlow) (actualFee : BtcPaymentAmount) :
    Option PaymentAmountInAllCurrencies :=
  match WalletPriceRatio.of paymentFlow.usdPaymentAmount paymentFlow.btcPaymentAmount with
  | .error _ => none
  | .ok priceRatio =>
    match FeeReimbursement.getReimbursement
        ⟨paymentFlow.btcProtocolAndBankFee, paymentFlow.usdProtocolAndBankFee⟩ priceRatio
        actualFee with
    | .error _ => none
    | .ok feeDifference => if feeDifference.btc.amount = 0 then none else some feeDifference

-- ============================================================================
-- Send attempts and update runs
-- ============================================================================

/-- What `payInvoiceViaRoutes` or `payInvoiceViaPaymentDetails` returns. -/
inductive PayInvoiceResult where
  /-- `LnPaymentPendingError` -/
  | pending
  /-- any other error, `LnAlreadyPaidError` and a refused `verifyMaxFee` among them -/
  | error
  | paid (roundedUpFee : BtcPaymentAmount)
  deriving DecidableEq, Repr

/-- Where an `updateMany({ hash }, { pending: false })` stands: the position of
    the next transaction it comes to, how many there were when it began (it
    reaches at least those), and whether it has modified one. -/
structure UpdateMany where
  position : ℕ
  total : ℕ
  modified : Bool
  deriving DecidableEq, Repr

/-- Where a send attempt, `lockedPaymentViaLnSteps`, stands. -/
inductive LnSendStep where
  /-- waits for the wallet lock -/
  | started
  /-- no transaction with the hash was pending, and the balance covers the send -/
  | checked
  | recorded (journalId : ℕ)
  | failed (journalId : ℕ)
  | succeeded (journalId : ℕ) (roundedUpFee : BtcPaymentAmount)
  /-- in `settlePendingLnSend`, after an error from lnd (`paid = none`) or a payment -/
  | settling (journalId : ℕ) (paid : Option BtcPaymentAmount) (updateMany : UpdateMany)
  /-- has settled after an error from lnd: voids the journal next -/
  | settledFailed (journalId : ℕ)
  /-- has settled after the payment: reimburses the fee next -/
  | settledSucceeded (journalId : ℕ) (roundedUpFee : BtcPaymentAmount)
  | finished
  deriving DecidableEq, Repr

/-- What `lookupPayment` finds in lnd; a settled payment comes with its
    `roundedUpAmount` and the `roundedUpFee` of its `confirmedDetails`. -/
inductive LnPaymentLookup where
  | Pending
  | Failed
  | Settled (roundedUpAmount roundedUpFee : ℤ)
  deriving DecidableEq, Repr

/-- Where an update run, `updatePendingPayment` of one pending transaction, stands. -/
inductive PendingPaymentStep where
  | listed
  | lookedUp (lnPaymentLookup : LnPaymentLookup)
  /-- under the wallet lock, `isLnTxRecorded` was false -/
  | unrecorded (lnPaymentLookup : LnPaymentLookup)
  | withFlow (lnPaymentLookup : LnPaymentLookup) (paymentFlow : PaymentFlow)
  /-- in `settlePendingLnSend` -/
  | settling (lnPaymentLookup : LnPaymentLookup) (paymentFlow : PaymentFlow)
      (updateMany : UpdateMany)
  /-- has settled a failed payment, or one paid for another amount -/
  | settledFailed (paymentFlow : PaymentFlow)
  /-- has settled a confirmed payment whose fee was not known in advance -/
  | settledConfirmed (paymentFlow : PaymentFlow) (roundedUpFee : BtcPaymentAmount)
  | finished
  deriving DecidableEq, Repr

/-- Where `lockedPendingPaymentSteps` goes once it has settled: a failed
    payment, or one lnd paid for another amount than the flow's, is reverted; a
    confirmed one returns if its fee was known in advance, and is reimbursed its
    fee otherwise. -/
def afterSettle (feeKnownInAdvance : Bool) (paymentFlow : PaymentFlow) :
    LnPaymentLookup → PendingPaymentStep
  | .Settled roundedUpAmount roundedUpFee =>
    if roundedUpAmount - roundedUpFee ≠ paymentFlow.btcPaymentAmount.amount then
      .settledFailed paymentFlow
    else if feeKnownInAdvance then .finished
    else .settledConfirmed paymentFlow ⟨roundedUpFee⟩
  -- a pending lookup has returned before the lock
  | .Failed | .Pending => .settledFailed paymentFlow

/-- A send attempt, with its flow and whether `routeDetails` gave a raw route,
    or an update run of the journal `journalId` of the wallet `walletId`. -/
inductive LnRun where
  | send (paymentFlow : PaymentFlow) (rawRoute : Bool) (step : LnSendStep)
  | update (walletId : String) (journalId : ℕ) (feeKnownInAdvance : Bool)
      (step : PendingPaymentStep)
  deriving DecidableEq, Repr

namespace LnRun

/-- The wallet whose lock the run takes. -/
def walletId : LnRun → String
  | .send paymentFlow _ _ => paymentFlow.senderWalletId
  | .update walletId _ _ _ => walletId

/-- The run once it has returned. -/
def finish : LnRun → LnRun
  | .send paymentFlow rawRoute _ => .send paymentFlow rawRoute .finished
  | .update walletId journalId feeKnownInAdvance _ =>
    .update walletId journalId feeKnownInAdvance .finished

/-- The journal the run works on. -/
def journalId : LnRun → Option ℕ
  | .send _ _ (.recorded journalId) | .send _ _ (.failed journalId)
  | .send _ _ (.succeeded journalId _) | .send _ _ (.settling journalId _ _)
  | .send _ _ (.settledFailed journalId)
  | .send _ _ (.settledSucceeded journalId _) => some journalId
  | .send _ _ _ => none
  | .update _ journalId _ _ => some journalId

/-- The run is in its locked section: a send attempt from its first check on,
    an update run from `isLnTxRecorded` on, until it returns. -/
def locked : LnRun → Bool
  | .send _ _ .started | .send _ _ .finished => false
  | .send _ _ _ => true
  | .update _ _ _ .listed | .update _ _ _ (.lookedUp _) | .update _ _ _ .finished => false
  | .update _ _ _ _ => true

/-- The run's `updateMany` under way. -/
def updateMany : LnRun → Option UpdateMany
  | .send _ _ (.settling _ _ updateMany) | .update _ _ _ (.settling _ _ updateMany) =>
    some updateMany
  | _ => none

/-- The run has won `settlePendingLnSend` and not yet written what follows. -/
def settled : LnRun → Bool
  | .send _ _ (.settledFailed _) | .send _ _ (.settledSucceeded _ _) => true
  | .update _ _ _ (.settledFailed _) | .update _ _ _ (.settledConfirmed _ _) => true
  | _ => false

/-- The run with its `updateMany` at `updateMany`. -/
def withUpdateMany (updateMany : UpdateMany) : LnRun → LnRun
  | .send paymentFlow rawRoute (.settling journalId paid _) =>
    .send paymentFlow rawRoute (.settling journalId paid updateMany)
  | .update walletId journalId feeKnownInAdvance (.settling lnPaymentLookup paymentFlow _) =>
    .update walletId journalId feeKnownInAdvance (.settling lnPaymentLookup paymentFlow updateMany)
  | r => r

/-- Where the run goes once its `updateMany` has modified a transaction: a send
    attempt voids after an error from lnd, and after a payment reimburses the
    fee unless the route was known in advance; an update run goes on as
    `afterSettle` says. -/
def afterUpdateMany : LnRun → LnRun
  | .send paymentFlow rawRoute (.settling journalId none _) =>
    .send paymentFlow rawRoute (.settledFailed journalId)
  | .send paymentFlow rawRoute (.settling journalId (some roundedUpFee) _) =>
    .send paymentFlow rawRoute
      (if rawRoute then .finished else .settledSucceeded journalId roundedUpFee)
  | .update walletId journalId feeKnownInAdvance (.settling lnPaymentLookup paymentFlow _) =>
    .update walletId journalId feeKnownInAdvance
      (afterSettle feeKnownInAdvance paymentFlow lnPaymentLookup)
  | r => r

end LnRun

/-- The ledger of the payment hash, the runs started so far by id, and the run
    holding each wallet's lock while its lease lasts. -/
structure LnPayment where
  ledger : LnLedger
  runs : List LnRun
  locks : String → Option ℕ

inductive LnSendAction where
  | getTransactionsByHash
  /-- `recordSendOffChain`, whose entry has `rows` transactions -/
  | recordSendOffChain (rows : ℕ)
  | pay (result : PayInvoiceResult)
  /-- `settlePendingLnSend` calls `updateMany` -/
  | settlePendingLnSend
  | recordLnSendRevert
  /-- `reimburseFee`, whose entry has `rows` transactions -/
  | reimburseFee (rows : ℕ)
  deriving DecidableEq, Repr

inductive PendingPaymentAction where
  | lookupPayment (lnPaymentLookup : LnPaymentLookup)
  | isLnTxRecorded
  /-- `markLightningPaymentFlowNotPending`, or `reconstructPendingPaymentFlow` -/
  | findPaymentFlow (paymentFlow : PaymentFlow)
  /-- `settlePendingLnSend` calls `updateMany` -/
  | settlePendingLnSend
  /-- `revertLightningPayment`, or `reimburseFailedUsdPayment` with `rows` transactions -/
  | revert (rows : ℕ)
  /-- `reimburseFee`, whose entry has `rows` transactions -/
  | reimburseFee (rows : ℕ)
  deriving DecidableEq, Repr

inductive LnPaymentAction where
  | startSend (paymentFlow : PaymentFlow) (rawRoute : Bool)
  | send (i : ℕ) (a : LnSendAction)
  /-- `listPendingPayments` lists the pending transaction `txnId` -/
  | startUpdate (txnId : ℕ)
  | update (i : ℕ) (a : PendingPaymentAction)
  /-- the `updateMany` of run `i` settles the transaction at its position -/
  | updateOne (i : ℕ)
  /-- the `updateMany` of run `i` returns -/
  | updated (i : ℕ)
  /-- an await of run `i` fails, and the run returns -/
  | crash (i : ℕ)
  /-- the lease on the wallet's lock runs out -/
  | loseLease (walletId : String)
  deriving DecidableEq, Repr

namespace LnPayment

def initial : LnPayment := ⟨⟨[], []⟩, [], fun _ => none⟩

/-- Run `i` moves to `r`; a run that has left its locked section gives back the
    lock if it still holds it. -/
def setRun (s : LnPayment) (i : ℕ) (r : LnRun) : LnPayment :=
  { s with
    runs := s.runs.set i r
    locks :=
      if !r.locked && s.locks r.walletId == some i then Function.update s.locks r.walletId none
      else s.locks }

/-- Run `i` takes the lock of the wallet `walletId`. -/
def acquire (s : LnPayment) (walletId : String) (i : ℕ) : LnPayment :=
  { s with locks := Function.update s.locks walletId (some i) }

/-- A new `updateMany`, which reaches at least the transactions there now. -/
def beginUpdateMany (s : LnPayment) : UpdateMany := ⟨0, s.ledger.txns.length, false⟩

/-- `void`, whose error the caller returns. -/
def voidJournal (mediciVoid : MediciVoid) (s : LnPayment) (journalId : ℕ) : LnPayment :=
  match mediciVoid.void s.ledger journalId with
  | .ok ledger => { s with ledger := ledger }
  | .error _ => s

/-- `reimburseFee` of the journal `journalId` of the wallet `walletId`, its
    entry with `rows` transactions. -/
def recordFeeReimbursement (s : LnPayment) (walletId : String) (journalId : ℕ)
    (paymentFlow : PaymentFlow) (roundedUpFee : BtcPaymentAmount) (rows : ℕ) : LnPayment :=
  match reimburseFee paymentFlow roundedUpFee with
  | some feeDifference =>
    { s with
      ledger :=
        s.ledger.record ⟨.feeReimbursement journalId feeDifference, false, false, walletId⟩ rows
          false }
  | none => s

/-- One step of the send attempt `i`. -/
def sendStep (mediciVoid : MediciVoid) (s : LnPayment) (i : ℕ) (paymentFlow : PaymentFlow)
    (rawRoute : Bool) (step : LnSendStep) : LnSendAction → Option LnPayment
  | .getTransactionsByHash =>
    -- the attempt takes the wallet lock; a pending transaction with the hash:
    -- `LnPaymentRequestInTransitError`
    if step = .started ∧ s.locks paymentFlow.senderWalletId = none then
      some ((s.acquire paymentFlow.senderWalletId i).setRun i (.send paymentFlow rawRoute
        (if s.ledger.txns.any (·.pending) then .finished else .checked)))
    else none
  | .recordSendOffChain rows =>
    if step = .checked then
      some { s.setRun i (.send paymentFlow rawRoute (.recorded s.ledger.journals.length)) with
        ledger := s.ledger.record ⟨.send, false, rawRoute, paymentFlow.senderWalletId⟩ rows true }
    else none
  | .pay result =>
    match step with
    | .recorded journalId =>
      some (s.setRun i (.send paymentFlow rawRoute
        (match result with
          | .pending => .finished
          | .error => .failed journalId
          | .paid roundedUpFee => .succeeded journalId roundedUpFee)))
    | _ => none
  | .settlePendingLnSend =>
    match step with
    | .failed journalId =>
      some (s.setRun i (.send paymentFlow rawRoute (.settling journalId none s.beginUpdateMany)))
    | .succeeded journalId roundedUpFee =>
      some (s.setRun i (.send paymentFlow rawRoute
        (.settling journalId (some roundedUpFee) s.beginUpdateMany)))
    | _ => none
  | .recordLnSendRevert =>
    match step with
    | .settledFailed journalId =>
      some ((s.setRun i (.send paymentFlow rawRoute .finished)).voidJournal mediciVoid journalId)
    | _ => none
  | .reimburseFee rows =>
    match step with
    | .settledSucceeded journalId roundedUpFee =>
      some ((s.setRun i (.send paymentFlow rawRoute .finished)).recordFeeReimbursement
        paymentFlow.senderWalletId journalId paymentFlow roundedUpFee rows)
    | _ => none

/-- One step of the update run `i` of the journal `journalId` of the wallet
    `walletId`. -/
def updateStep (mediciVoid : MediciVoid) (s : LnPayment) (i : ℕ) (walletId : String)
    (journalId : ℕ) (feeKnownInAdvance : Bool) (step : PendingPaymentStep) :
    PendingPaymentAction → Option LnPayment
  | .lookupPayment lnPaymentLookup =>
    if step = .listed then
      some (s.setRun i (.update walletId journalId feeKnownInAdvance
        (if lnPaymentLookup = .Pending then .finished else .lookedUp lnPaymentLookup)))
    else none
  | .isLnTxRecorded =>
    -- the run takes the wallet lock
    match step with
    | .lookedUp lnPaymentLookup =>
      if s.locks walletId = none then
        some ((s.acquire walletId i).setRun i (.update walletId journalId feeKnownInAdvance
          (if s.ledger.isLnTxRecorded then .finished else .unrecorded lnPaymentLookup)))
      else none
    | _ => none
  | .findPaymentFlow paymentFlow =>
    match step with
    | .unrecorded lnPaymentLookup =>
      some (s.setRun i (.update walletId journalId feeKnownInAdvance
        (.withFlow lnPaymentLookup paymentFlow)))
    | _ => none
  | .settlePendingLnSend =>
    match step with
    | .withFlow lnPaymentLookup paymentFlow =>
      some (s.setRun i (.update walletId journalId feeKnownInAdvance
        (.settling lnPaymentLookup paymentFlow s.beginUpdateMany)))
    | _ => none
  | .revert rows =>
    match step with
    | .settledFailed paymentFlow =>
      let s' := s.setRun i (.update walletId journalId feeKnownInAdvance .finished)
      some (if paymentFlow.senderWalletCurrency = .Btc then s'.voidJournal mediciVoid journalId
        else { s' with
          ledger :=
            s'.ledger.record ⟨.failedUsdReimbursement journalId, false, false, walletId⟩ rows
              false })
    | _ => none
  | .reimburseFee rows =>
    match step with
    | .settledConfirmed paymentFlow roundedUpFee =>
      some ((s.setRun i (.update walletId journalId feeKnownInAdvance .finished)).recordFeeReimbursement
        walletId journalId paymentFlow roundedUpFee rows)
    | _ => none

def next (mediciVoid : MediciVoid) (s : LnPayment) : LnPaymentAction → Option LnPayment
  | .startSend paymentFlow rawRoute =>
    some { s with runs := s.runs ++ [.send paymentFlow rawRoute .started] }
  | .send i a =>
    match s.runs[i]? with
    | some (.send paymentFlow rawRoute step) =>
      s.sendStep mediciVoid i paymentFlow rawRoute step a
    | _ => none
  | .startUpdate txnId =>
    match s.ledger.txns[txnId]? with
    | some txn =>
      if txn.pending then
        s.ledger.journals[txn.journalId]?.map fun journal =>
          { s with
            runs := s.runs ++
              [.update journal.walletId txn.journalId journal.feeKnownInAdvance .listed] }
      else none
    | none => none
  | .update i a =>
    match s.runs[i]? with
    | some (.update walletId journalId feeKnownInAdvance step) =>
      s.updateStep mediciVoid i walletId journalId feeKnownInAdvance step a
    | _ => none
  | .updateOne i =>
    match s.runs[i]? with
    | some r =>
      match r.updateMany with
      | some updateMany =>
        s.ledger.txns[updateMany.position]?.map fun txn =>
          { s.setRun i (r.withUpdateMany
              ⟨updateMany.position + 1, updateMany.total, updateMany.modified || txn.pending⟩) with
            ledger := s.ledger.settleTxn updateMany.position txn }
      | none => none
    | none => none
  | .updated i =>
    -- `modifiedCount > 0`, or `NoTransactionToSettleError`
    match s.runs[i]? with
    | some r =>
      match r.updateMany with
      | some updateMany =>
        if updateMany.total ≤ updateMany.position then
          some (s.setRun i (if updateMany.modified then r.afterUpdateMany else r.finish))
        else none
      | none => none
    | none => none
  | .crash i => s.runs[i]?.map fun r => s.setRun i r.finish
  | .loseLease walletId => some { s with locks := Function.update s.locks walletId none }

/-- No lease runs out. -/
def leaseHeld (_ : LnPayment) : LnPaymentAction → Bool
  | .loseLease _ => false
  | _ => true

/-- Every send attempt is from the wallet `walletId`, and no lease runs out. -/
def singleWallet (walletId : String) (s : LnPayment) : LnPaymentAction → Bool
  | .startSend paymentFlow _ => paymentFlow.senderWalletId == walletId
  | a => leaseHeld s a

end LnPayment

-- ============================================================================
-- What a step does
-- ============================================================================

namespace LnRun

variable {r : LnRun} {u u' : UpdateMany}

@[simp] theorem walletId_finish (r : LnRun) : r.finish.walletId = r.walletId := by
  cases r <;> rfl

@[simp] theorem settled_finish (r : LnRun) : r.finish.settled = false := by
  cases r <;> rfl

@[simp] theorem locked_finish (r : LnRun) : r.finish.locked = false := by
  cases r <;> rfl

@[simp] theorem updateMany_finish (r : LnRun) : r.finish.updateMany = none := by
  cases r <;> rfl

theorem journalId_finish (r : LnRun) :
    r.finish.journalId = none ∨ r.finish.journalId = r.journalId := by
  cases r with
  | send => exact Or.inl rfl
  | update => exact Or.inr rfl

/-- A run in its `updateMany` is a send attempt or an update run settling. -/
theorem updateMany_eq_some (h : r.updateMany = some u) :
    (∃ paymentFlow rawRoute journalId paid,
      r = .send paymentFlow rawRoute (.settling journalId paid u)) ∨
    ∃ walletId journalId feeKnownInAdvance lnPaymentLookup paymentFlow,
      r = .update walletId journalId feeKnownInAdvance
        (.settling lnPaymentLookup paymentFlow u) := by
  rcases r with ⟨paymentFlow, rawRoute, _ | _ | _ | _ | _ | ⟨journalId, paid, u⟩ | _ | _ | _⟩ |
    ⟨walletId, journalId, feeKnownInAdvance,
      _ | _ | _ | _ | ⟨lnPaymentLookup, paymentFlow, u⟩ | _ | _ | _⟩ <;>
    simp only [LnRun.updateMany, reduceCtorEq, Option.some.injEq] at h
  · exact .inl ⟨paymentFlow, rawRoute, journalId, paid, by rw [h]⟩
  · exact .inr ⟨walletId, journalId, feeKnownInAdvance, lnPaymentLookup, paymentFlow, by rw [h]⟩

theorem locked_of_updateMany (h : r.updateMany = some u) : r.locked = true := by
  rcases updateMany_eq_some h with ⟨_, _, _, _, rfl⟩ | ⟨_, _, _, _, _, rfl⟩ <;> rfl

theorem settled_of_updateMany (h : r.updateMany = some u) : r.settled = false := by
  rcases updateMany_eq_some h with ⟨_, _, _, _, rfl⟩ | ⟨_, _, _, _, _, rfl⟩ <;> rfl

theorem locked_of_settled (h : r.settled = true) : r.locked = true := by
  rcases r with ⟨_, _, _ | _ | _ | _ | _ | _ | _ | _ | _⟩ |
    ⟨_, _, _, _ | _ | _ | _ | _ | _ | _ | _⟩ <;> first | rfl | cases h

/-- Moving a run's `updateMany` on keeps everything else of the run. -/
theorem withUpdateMany_of_updateMany (h : r.updateMany = some u) (u' : UpdateMany) :
    (r.withUpdateMany u').updateMany = some u' ∧
      (r.withUpdateMany u').walletId = r.walletId ∧
      (r.withUpdateMany u').journalId = r.journalId := by
  rcases updateMany_eq_some h with ⟨_, _, _, _, rfl⟩ | ⟨_, _, _, _, _, rfl⟩ <;>
    exact ⟨rfl, rfl, rfl⟩

/-- Where a run goes after its `updateMany`: the same wallet, the same journal
    unless it has returned, and no `updateMany` under way. -/
theorem afterUpdateMany_of_updateMany (h : r.updateMany = some u) :
    r.afterUpdateMany.updateMany = none ∧ r.afterUpdateMany.walletId = r.walletId ∧
      (r.afterUpdateMany.journalId = none ∨ r.afterUpdateMany.journalId = r.journalId) := by
  rcases updateMany_eq_some h with ⟨_, rawRoute, _, paid, rfl⟩ | ⟨_, _, _, lookup, paymentFlow, rfl⟩
  · rcases paid with _ | _
    · exact ⟨rfl, rfl, .inr rfl⟩
    · cases rawRoute
      · exact ⟨rfl, rfl, .inr rfl⟩
      · exact ⟨rfl, rfl, .inl rfl⟩
  · refine ⟨?_, rfl, .inr rfl⟩
    -- every step `afterSettle` goes to is past the `updateMany`
    cases lookup with
    | Settled roundedUpAmount roundedUpFee =>
      simp only [afterUpdateMany, afterSettle]
      split
      · rfl
      · split <;> rfl
    | Failed | Pending => rfl

end LnRun

namespace LnPayment

section Fields

variable (s : LnPayment) (i : ℕ) (r : LnRun) (walletId : String)

@[simp] theorem setRun_ledger : (s.setRun i r).ledger = s.ledger := rfl
@[simp] theorem setRun_runs : (s.setRun i r).runs = s.runs.set i r := rfl
@[simp] theorem acquire_ledger : (s.acquire walletId i).ledger = s.ledger := rfl
@[simp] theorem acquire_runs : (s.acquire walletId i).runs = s.runs := rfl

end Fields

/-- What a settled run writes for the journal `journalId` it resolves, with
    the wallet `walletId` on a receipt. -/
inductive Resolution (mediciVoid : MediciVoid) (ledger : LnLedger) (walletId : String)
    (journalId : ℕ) : LnLedger → Prop
  | nothing : Resolution mediciVoid ledger walletId journalId ledger
  | receipt (kind : LnJournalKind) (hKind : kind.resolves = some journalId) (rows : ℕ) :
      Resolution mediciVoid ledger walletId journalId
        (ledger.record ⟨kind, false, false, walletId⟩ rows false)
  | voided {ledger' : LnLedger} (hVoid : mediciVoid.void ledger journalId = .ok ledger') :
      Resolution mediciVoid ledger walletId journalId ledger'

/-- What one step `a` does: to the ledger, to the run that takes it, and to the
    locks. -/
inductive Move (mediciVoid : MediciVoid) (s : LnPayment) : LnPaymentAction → LnPayment → Prop
  | startSend (paymentFlow : PaymentFlow) (rawRoute : Bool) :
      Move mediciVoid s (.startSend paymentFlow rawRoute)
        { s with runs := s.runs ++ [.send paymentFlow rawRoute .started] }
  /-- an update run starts on the journal of a pending transaction -/
  | startUpdate {a : LnPaymentAction} (txn : LnTxn) (hTxn : txn ∈ s.ledger.txns)
      (hPending : txn.pending = true) (journal : LnJournal)
      (hJournal : s.ledger.journals[txn.journalId]? = some journal) :
      Move mediciVoid s a
        { s with
          runs := s.runs ++
            [.update journal.walletId txn.journalId journal.feeKnownInAdvance .listed] }
  /-- a run moves on, or returns, and writes nothing -/
  | advance {a : LnPaymentAction} (i : ℕ) (r r' : LnRun) (hi : s.runs[i]? = some r)
      (hWallet : r'.walletId = r.walletId) (hLocked : r'.locked = true → r.locked = true)
      (hSettled : r'.settled = false) (hScan : r'.updateMany = none)
      (hJournal : r'.journalId = none ∨ r'.journalId = r.journalId) :
      Move mediciVoid s a (s.setRun i r')
  /-- a run takes its wallet's lock, which no run holds, and moves on -/
  | enter {a : LnPaymentAction} (i : ℕ) (r r' : LnRun) (hi : s.runs[i]? = some r)
      (hWallet : r'.walletId = r.walletId) (hFree : s.locks r.walletId = none)
      (hSettled : r'.settled = false) (hScan : r'.updateMany = none)
      (hJournal : r'.journalId = r.journalId) :
      Move mediciVoid s a ((s.acquire r.walletId i).setRun i r')
  /-- `recordSendOffChain` -/
  | recordSend {a : LnPaymentAction} (i : ℕ) (r r' : LnRun) (hi : s.runs[i]? = some r)
      (hWallet : r'.walletId = r.walletId) (hLocked : r.locked = true)
      (hLocked' : r'.locked = true) (hSettled : r'.settled = false)
      (hScan : r'.updateMany = none) (hJournal : r'.journalId = some s.ledger.journals.length)
      (feeKnownInAdvance : Bool) (rows : ℕ) :
      Move mediciVoid s a
        { s.setRun i r' with
          ledger := s.ledger.record ⟨.send, false, feeKnownInAdvance, r.walletId⟩ rows true }
  /-- `settlePendingLnSend` calls `updateMany` -/
  | beginScan {a : LnPaymentAction} (i : ℕ) (r r' : LnRun) (hi : s.runs[i]? = some r)
      (hWallet : r'.walletId = r.walletId) (hLocked : r.locked = true)
      (hSettled : r.settled = false) (hWasScan : r.updateMany = none)
      (hScan : r'.updateMany = some s.beginUpdateMany) (hJournal : r'.journalId = r.journalId) :
      Move mediciVoid s a (s.setRun i r')
  /-- the `updateMany` settles the transaction at its position -/
  | updateOne {a : LnPaymentAction} (i : ℕ) (r : LnRun) (hi : s.runs[i]? = some r)
      (updateMany : UpdateMany) (hScan : r.updateMany = some updateMany) (txn : LnTxn)
      (hTxn : s.ledger.txns[updateMany.position]? = some txn) :
      Move mediciVoid s a
        { s.setRun i (r.withUpdateMany
            ⟨updateMany.position + 1, updateMany.total, updateMany.modified || txn.pending⟩) with
          ledger := s.ledger.settleTxn updateMany.position txn }
  /-- the `updateMany` returns, past the transactions it began with -/
  | updated {a : LnPaymentAction} (i : ℕ) (r : LnRun) (hi : s.runs[i]? = some r)
      (updateMany : UpdateMany) (hScan : r.updateMany = some updateMany)
      (hEnd : updateMany.total ≤ updateMany.position) :
      Move mediciVoid s a
        (s.setRun i (if updateMany.modified then r.afterUpdateMany else r.finish))
  /-- a settled run writes what resolves its journal, or nothing, and returns -/
  | resolve {a : LnPaymentAction} (i : ℕ) (r : LnRun) (hi : s.runs[i]? = some r)
      (hSettled : r.settled = true) (journalId : ℕ) (hJournal : r.journalId = some journalId)
      {ledger' : LnLedger} (hResolution : Resolution mediciVoid s.ledger r.walletId journalId ledger') :
      Move mediciVoid s a { s.setRun i r.finish with ledger := ledger' }
  | loseLease (walletId : String) :
      Move mediciVoid s (.loseLease walletId)
        { s with locks := Function.update s.locks walletId none }

section Moves

variable {mediciVoid : MediciVoid} {s : LnPayment} {i : ℕ} {r : LnRun} {a : LnPaymentAction}

theorem voidJournal_move (hi : s.runs[i]? = some r) (hSettled : r.settled = true)
    {journalId : ℕ} (hJournal : r.journalId = some journalId) :
    Move mediciVoid s a ((s.setRun i r.finish).voidJournal mediciVoid journalId) := by
  unfold voidJournal
  split
  · rename_i ledger hVoid
    exact .resolve i r hi hSettled journalId hJournal (.voided hVoid)
  · exact .resolve i r hi hSettled journalId hJournal .nothing

theorem recordFeeReimbursement_move (hi : s.runs[i]? = some r) (hSettled : r.settled = true)
    {journalId : ℕ} (hJournal : r.journalId = some journalId) (paymentFlow : PaymentFlow)
    (roundedUpFee : BtcPaymentAmount) (rows : ℕ) :
    Move mediciVoid s a ((s.setRun i r.finish).recordFeeReimbursement r.walletId journalId
      paymentFlow roundedUpFee rows) := by
  unfold recordFeeReimbursement
  split
  · exact .resolve i r hi hSettled journalId hJournal (.receipt _ rfl rows)
  · exact .resolve i r hi hSettled journalId hJournal .nothing

/-- Every step of a send attempt is one of the moves. -/
theorem sendStep_move {paymentFlow : PaymentFlow} {rawRoute : Bool} {step : LnSendStep}
    (hi : s.runs[i]? = some (.send paymentFlow rawRoute step)) {a' : LnSendAction}
    {s' : LnPayment} (hStep : s.sendStep mediciVoid i paymentFlow rawRoute step a' = some s') :
    Move mediciVoid s a s' := by
  cases a' with
  | getTransactionsByHash =>
    simp only [sendStep] at hStep
    split at hStep
    · rename_i hStarted
      obtain ⟨rfl, hFree⟩ := hStarted
      cases hStep
      exact .enter i _ _ hi rfl hFree (by split <;> rfl) (by split <;> rfl) (by split <;> rfl)
    · cases hStep
  | recordSendOffChain rows =>
    simp only [sendStep] at hStep
    split at hStep
    · rename_i hChecked
      subst hChecked
      cases hStep
      exact .recordSend i _ (.send paymentFlow rawRoute (.recorded s.ledger.journals.length)) hi rfl
        rfl rfl rfl rfl rfl rawRoute rows
    · cases hStep
  | pay result =>
    simp only [sendStep] at hStep
    split at hStep
    · cases hStep
      -- the journal stays the one just recorded, unless the payment is left in flight
      exact .advance i _ _ hi rfl (fun _ => rfl) (by cases result <;> rfl)
        (by cases result <;> rfl) (by cases result <;> simp [LnRun.journalId])
    · cases hStep
  | settlePendingLnSend =>
    simp only [sendStep] at hStep
    split at hStep
    · cases hStep
      exact .beginScan i _ _ hi rfl rfl rfl rfl rfl rfl
    · cases hStep
      exact .beginScan i _ _ hi rfl rfl rfl rfl rfl rfl
    · cases hStep
  | recordLnSendRevert =>
    simp only [sendStep] at hStep
    split at hStep
    · cases hStep
      exact voidJournal_move hi rfl rfl
    · cases hStep
  | reimburseFee rows =>
    simp only [sendStep] at hStep
    split at hStep
    · cases hStep
      exact recordFeeReimbursement_move hi rfl rfl _ _ rows
    · cases hStep

/-- Every step of an update run is one of the moves. -/
theorem updateStep_move {walletId : String} {journalId : ℕ} {feeKnownInAdvance : Bool}
    {step : PendingPaymentStep}
    (hi : s.runs[i]? = some (.update walletId journalId feeKnownInAdvance step))
    {a' : PendingPaymentAction} {s' : LnPayment}
    (hStep : s.updateStep mediciVoid i walletId journalId feeKnownInAdvance step a' = some s') :
    Move mediciVoid s a s' := by
  cases a' with
  | lookupPayment lnPaymentLookup =>
    simp only [updateStep] at hStep
    split at hStep
    · rename_i hListed
      subst hListed
      cases hStep
      exact .advance i _ _ hi rfl (by split <;> simp [LnRun.locked]) (by split <;> rfl)
        (by split <;> rfl) (Or.inr rfl)
    · cases hStep
  | isLnTxRecorded =>
    simp only [updateStep] at hStep
    split at hStep
    · split at hStep
      · rename_i hFree
        cases hStep
        exact .enter i _ _ hi rfl hFree (by split <;> rfl) (by split <;> rfl) rfl
      · cases hStep
    · cases hStep
  | findPaymentFlow paymentFlow =>
    simp only [updateStep] at hStep
    split at hStep
    · cases hStep
      exact .advance i _ _ hi rfl (fun _ => rfl) rfl rfl (Or.inr rfl)
    · cases hStep
  | settlePendingLnSend =>
    simp only [updateStep] at hStep
    split at hStep
    · cases hStep
      exact .beginScan i _ _ hi rfl rfl rfl rfl rfl rfl
    · cases hStep
  | revert rows =>
    simp only [updateStep] at hStep
    split at hStep
    · cases hStep
      split
      · exact voidJournal_move hi rfl rfl
      -- a USD sender is reimbursed instead
      · exact .resolve i _ hi rfl journalId rfl (.receipt _ rfl rows)
    · cases hStep
  | reimburseFee rows =>
    simp only [updateStep] at hStep
    split at hStep
    · cases hStep
      exact recordFeeReimbursement_move hi rfl rfl _ _ rows
    · cases hStep

/-- Every step of the system is one of the moves. -/
theorem next_move {s' : LnPayment} (hStep : s.next mediciVoid a = some s') :
    Move mediciVoid s a s' := by
  cases a with
  | startSend paymentFlow rawRoute =>
    cases hStep
    exact .startSend paymentFlow rawRoute
  | send i a =>
    simp only [next] at hStep
    split at hStep
    · rename_i hi
      exact sendStep_move hi hStep
    · cases hStep
  | startUpdate txnId =>
    simp only [next] at hStep
    split at hStep
    · rename_i txn hTxn
      split at hStep
      · rename_i hPending
        obtain ⟨journal, hJournal, rfl⟩ := Option.map_eq_some_iff.mp hStep
        exact .startUpdate txn (List.mem_of_getElem? hTxn) hPending journal hJournal
      · cases hStep
    · cases hStep
  | update i a =>
    simp only [next] at hStep
    split at hStep
    · rename_i hi
      exact updateStep_move hi hStep
    · cases hStep
  | updateOne i =>
    simp only [next] at hStep
    split at hStep
    · rename_i r hi
      split at hStep
      · rename_i updateMany hScan
        obtain ⟨txn, hTxn, rfl⟩ := Option.map_eq_some_iff.mp hStep
        exact .updateOne i r hi updateMany hScan txn hTxn
      · cases hStep
    · cases hStep
  | updated i =>
    simp only [next] at hStep
    split at hStep
    · rename_i r hi
      split at hStep
      · rename_i updateMany hScan
        split at hStep
        · rename_i hEnd
          cases hStep
          exact .updated i r hi updateMany hScan hEnd
        · cases hStep
      · cases hStep
    · cases hStep
  | crash i =>
    simp only [next] at hStep
    obtain ⟨r, hi, rfl⟩ := Option.map_eq_some_iff.mp hStep
    exact .advance i r r.finish hi (LnRun.walletId_finish r) (by simp) (LnRun.settled_finish r)
      (LnRun.updateMany_finish r) (LnRun.journalId_finish r)
  | loseLease walletId =>
    cases hStep
    exact .loseLease walletId

end Moves

end LnPayment

end Galoy
