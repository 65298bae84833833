/-
  Galoy.Ledger.LnPaymentState

  The state of a Lightning payment read off its ledger rows
  (`domain/ledger/ln-payment-state.ts`) and the status the transaction history
  shows for it (`statusFromTxn`, `domain/wallets/tx-history.ts`).

  `LnPaymentStateDeterminator.determine` checks the row types, sorts the rows
  newest-first, drops the `Invoice` rows of a self payment and then infers the
  lifecycle from counts and parities.  The error it returns carries the `msg` of
  `bundleErrMsg`; the rows that message serialises next to it are not modelled.

  The second half states what a bundle written by a payment of `k` attempts
  looks like (`LnPaymentLifecycle`) and proves that `determine` reads back the
  right state from it, whatever order the rows come in.
-/

import Galoy.Ledger.Transaction
import Galoy.Lib.SortDesc

namespace Galoy

/-- `InvalidLnPaymentTxnsBundleError`, with the message it is built from. -/
structure InvalidLnPaymentTxnsBundleError where
  msg : String
  deriving DecidableEq, Repr

/-- `TxStatus` of `domain/wallets/tx-status.ts`. -/
inductive TxStatus where
  | Pending
  | Success
  | Failure
  deriving DecidableEq, Repr

-- ============================================================================
-- The determinator
-- ============================================================================

namespace LnPaymentStateDeterminator

/-- `isDebit`: `(txn.debit || 0) > 0`. -/
def isDebit (txn : LedgerTransaction) : Bool := decide (0 < txn.debit)

def validTypes : List LedgerTransactionType :=
  [.Payment, .LnFeeReimbursement, .Invoice]

/-- `checkTxns`: the first row of another type is an error, then so is an empty bundle. -/
def checkTxns (txns : List LedgerTransaction) : Except InvalidLnPaymentTxnsBundleError Unit :=
  match txns.find? (fun txn => txn.type ∉ validTypes) with
  | some txn => .error ⟨"Invalid '" ++ txn.type.value ++ "' type found"⟩
  | none => if txns.length = 0 then .error ⟨"No txns in bundle"⟩ else .ok ()

/-- `filterSelfPayments`: drop the `Invoice` rows of a self payment routed
    through an external node; invoices alone are an error. -/
def filterSelfPayments (txns : List LedgerTransaction) :
    Except InvalidLnPaymentTxnsBundleError (List LedgerTransaction) :=
  let invoiceTxns := txns.filter (fun tx => tx.type = .Invoice)
  let paymentTxns := txns.filter (fun tx => tx.type = .Payment)
  if invoiceTxns.length > 0 ∧ paymentTxns.length = 0 then
    .error ⟨"Invalid '" ++ LedgerTransactionType.Invoice.value ++
      "' type found with no corresponding payments"⟩
  else .ok (txns.filter (fun tx => tx.type ≠ .Invoice))

/-- `sortTxnsByTimestampDesc`: `txns.sort((txA, txB) => txB.timestamp - txA.timestamp)`. -/
def sortTxnsByTimestampDesc (txns : List LedgerTransaction) : List LedgerTransaction :=
  SortDesc.sortDesc LedgerTransaction.timestamp txns

/-- The pending block of `determine`. -/
def pendingState (txns pendingTxns : List LedgerTransaction) :
    Except InvalidLnPaymentTxnsBundleError LnPaymentState :=
  if txns.length = 1 then .ok .Pending
  else if txns.length % 2 = 1 ∧ pendingTxns.length = 1 then .ok .PendingAfterRetry
  else .error ⟨"There should be only 1 pending txn"⟩

/-- The `LnFeeReimbursement` block of `determine`; `reimburseTxn` is `reimburseTxns[0]`. -/
def reimbursedState (txns reimburseTxns : List LedgerTransaction)
    (reimburseTxn : LedgerTransaction) : Except InvalidLnPaymentTxnsBundleError LnPaymentState :=
  let paymentTypeTxns := txns.filter (fun tx => tx.type = .Payment)
  let txnsAfterReimburse := txns.filter (fun tx => tx.timestamp > reimburseTxn.timestamp)
  if paymentTypeTxns.length = 1 then .ok .SuccessWithReimbursement
  else if txnsAfterReimburse.length ≠ 0 then .ok .FailedAfterSuccessWithReimbursement
  else if paymentTypeTxns.length > 1 ∧ reimburseTxns.length = 1 then
    .ok .SuccessWithReimbursementAfterRetry
  else .error ⟨"There should be payment txns and only 1 reimbursement txn"⟩

/-- The block of `determine` for pure success and fail rows. -/
def settledState (txns : List LedgerTransaction) :
    Except InvalidLnPaymentTxnsBundleError LnPaymentState :=
  if txns.length = 1 then .ok .Success
  else if txns.length = 2 then .ok .Failed
  -- `txns[0]` exists whenever the length is odd
  else if txns.length % 2 = 1 ∧ txns.head?.any isDebit = true then .ok .SuccessAfterRetry
  else if txns.length % 2 = 1 then .ok .FailedAfterSuccess
  else if txns.length % 2 = 0 then .ok .FailedAfterRetry
  else .error ⟨"Impossible state"⟩

/-- `determine` after sorting and filtering: the three blocks in order. -/
def stateOfSortedTxns (txns : List LedgerTransaction) :
    Except InvalidLnPaymentTxnsBundleError LnPaymentState :=
  let pendingTxns := txns.filter (fun tx => tx.pendingConfirmation)
  if pendingTxns.length ≠ 0 then pendingState txns pendingTxns
  else
    let reimburseTxns := txns.filter (fun tx => tx.type = .LnFeeReimbursement)
    match reimburseTxns with
    | reimburseTxn :: _ => reimbursedState txns reimburseTxns reimburseTxn
    | [] => settledState txns

/-- `LnPaymentStateDeterminator(unsortedTxns).determine()`. -/
def determine (unsortedTxns : List LedgerTransaction) :
    Except InvalidLnPaymentTxnsBundleError LnPaymentState := do
  checkTxns unsortedTxns
  let unfilteredTxns := sortTxnsByTimestampDesc unsortedTxns
  let txns ← filterSelfPayments unfilteredTxns
  stateOfSortedTxns txns

end LnPaymentStateDeterminator

/-- `statusFromTxn` of `domain/wallets/tx-history.ts`. -/
def statusFromTxn (txn : LedgerTransaction) : TxStatus :=
  match txn.lnPaymentState with
  | none => if txn.pendingConfirmation then .Pending else .Success
  | some .Pending | some .PendingAfterRetry => .Pending
  | some .Success | some .SuccessAfterRetry | some .SuccessWithReimbursement
  | some .SuccessWithReimbursementAfterRetry => .Success
  | some .Failed | some .FailedAfterRetry | some .FailedAfterSuccess
  | some .FailedAfterSuccessWithReimbursement => .Failure

-- ============================================================================
-- The blocks of determine on the rows of a lifecycle
-- ============================================================================

namespace LnPaymentStateDeterminator

section OlderRows

/-! `older` stands for the rows of the retried attempts, newest first: settled
    `Payment` rows, two per attempt. -/

variable {older : List LedgerTransaction}
  (hOlder : ∀ t ∈ older, t.type = .Payment ∧ t.pendingConfirmation = false)
  (hEven : older.length % 2 = 0)

include hOlder

theorem filter_pending_older : older.filter (fun tx => tx.pendingConfirmation) = [] :=
  List.filter_eq_nil_iff.mpr fun t ht => by simp [(hOlder t ht).2]

theorem filter_reimbursement_older :
    older.filter (fun tx => tx.type = .LnFeeReimbursement) = [] :=
  List.filter_eq_nil_iff.mpr fun t ht => by simp [(hOlder t ht).1]

theorem filter_payment_older : older.filter (fun tx => tx.type = .Payment) = older :=
  List.filter_eq_self.mpr fun t ht => by simp [(hOlder t ht).1]

/-- (c) A settled debit and its fee reimbursement, the newest row. -/
theorem stateOfSortedTxns_reimbursedDebit {d r : LedgerTransaction}
    (hd : d.type = .Payment ∧ d.pendingConfirmation = false)
    (hr : r.type = .LnFeeReimbursement ∧ r.pendingConfirmation = false)
    (hNewest : ∀ t ∈ d :: older, t.timestamp < r.timestamp) :
    stateOfSortedTxns (r :: d :: older) =
      .ok (if older = [] then .SuccessWithReimbursement
        else .SuccessWithReimbursementAfterRetry) := by
  have hpending : (r :: d :: older).filter (fun tx => tx.pendingConfirmation) = [] := by
    simp [hd.2, hr.2, filter_pending_older hOlder]
  have hreimb : (r :: d :: older).filter (fun tx => tx.type = .LnFeeReimbursement) = [r] := by
    simp [hd.1, hr.1, filter_reimbursement_older hOlder]
  have hpayment : (r :: d :: older).filter (fun tx => tx.type = .Payment) = d :: older := by
    simp [hd.1, hr.1, filter_payment_older hOlder]
  -- nothing is newer than the reimbursement
  have hafter : (r :: d :: older).filter (fun tx => tx.timestamp > r.timestamp) = [] := by
    refine List.filter_eq_nil_iff.mpr fun t ht => ?_
    rcases List.mem_cons.mp ht with rfl | ht
    · simp
    · simpa using (hNewest t ht).le
  simp only [stateOfSortedTxns, hpending, hreimb, reimbursedState, hpayment, hafter,
    List.length_cons, List.length_nil]
  by_cases hnil : older = []
  · subst hnil
    simp
  · simp [hnil]

/-- (d) with a fee reimbursement between the debit and the reverting credit. -/
theorem stateOfSortedTxns_reimbursedRevertedDebit {d r c : LedgerTransaction}
    (hd : d.type = .Payment ∧ d.pendingConfirmation = false)
    (hr : r.type = .LnFeeReimbursement ∧ r.pendingConfirmation = false)
    (hc : c.type = .Payment ∧ c.pendingConfirmation = false)
    (hLater : r.timestamp < c.timestamp) :
    stateOfSortedTxns (c :: r :: d :: older) = .ok .FailedAfterSuccessWithReimbursement := by
  have hpending : (c :: r :: d :: older).filter (fun tx => tx.pendingConfirmation) = [] := by
    simp [hd.2, hr.2, hc.2, filter_pending_older hOlder]
  have hreimb :
      (c :: r :: d :: older).filter (fun tx => tx.type = .LnFeeReimbursement) = [r] := by
    simp [hd.1, hr.1, hc.1, filter_reimbursement_older hOlder]
  have hpayment :
      (c :: r :: d :: older).filter (fun tx => tx.type = .Payment) = c :: d :: older := by
    simp [hd.1, hr.1, hc.1, filter_payment_older hOlder]
  -- the reverting credit is newer than the reimbursement
  have hafter : (c :: r :: d :: older).filter (fun tx => tx.timestamp > r.timestamp) ≠ [] := by
    simp [hLater]
  simp only [stateOfSortedTxns, hpending, hreimb, reimbursedState, hpayment, List.length_cons]
  have hlen : ((c :: r :: d :: older).filter (fun tx => tx.timestamp > r.timestamp)).length ≠ 0 :=
    fun h => hafter (List.eq_nil_of_length_eq_zero h)
  simp [hlen]

include hEven

/-- (a) A pending debit on top of the retried attempts. -/
theorem stateOfSortedTxns_pendingDebit {d : LedgerTransaction}
    (hd : d.type = .Payment ∧ d.pendingConfirmation = true) :
    stateOfSortedTxns (d :: older) =
      .ok (if older = [] then .Pending else .PendingAfterRetry) := by
  have hpending : (d :: older).filter (fun tx => tx.pendingConfirmation) = [d] := by
    simp [hd.2, filter_pending_older hOlder]
  simp only [stateOfSortedTxns, hpending, pendingState, List.length_cons]
  by_cases hnil : older = []
  · subst hnil
    simp
  · have hpos : 0 < older.length := List.length_pos_of_ne_nil hnil
    simp [hnil]
    omega

/-- (b) A settled debit on top of the retried attempts. -/
theorem stateOfSortedTxns_settledDebit {d : LedgerTransaction}
    (hd : d.type = .Payment ∧ d.pendingConfirmation = false ∧ 0 < d.debit) :
    stateOfSortedTxns (d :: older) =
      .ok (if older = [] then .Success else .SuccessAfterRetry) := by
  obtain ⟨hType, hPending, hDebit⟩ := hd
  have hpending : (d :: older).filter (fun tx => tx.pendingConfirmation) = [] := by
    simp [hPending, filter_pending_older hOlder]
  have hreimb : (d :: older).filter (fun tx => tx.type = .LnFeeReimbursement) = [] := by
    simp [hType, filter_reimbursement_older hOlder]
  have hnewest : (d :: older).head?.any isDebit = true := by simp [isDebit, hDebit]
  simp only [stateOfSortedTxns, hpending, hreimb, settledState, hnewest, List.length_cons]
  by_cases hnil : older = []
  · subst hnil
    simp
  · have hpos : 0 < older.length := List.length_pos_of_ne_nil hnil
    have hne1 : older.length ≠ 1 := by omega
    have hodd : (older.length + 1) % 2 = 1 := by omega
    simp [hnil, hne1, hodd]

/-- (d) A settled debit and the credit that reverted it. -/
theorem stateOfSortedTxns_revertedDebit {d c : LedgerTransaction}
    (hd : d.type = .Payment ∧ d.pendingConfirmation = false)
    (hc : c.type = .Payment ∧ c.pendingConfirmation = false) :
    stateOfSortedTxns (c :: d :: older) =
      .ok (if older = [] then .Failed else .FailedAfterRetry) := by
  have hpending : (c :: d :: older).filter (fun tx => tx.pendingConfirmation) = [] := by
    simp [hd.2, hc.2, filter_pending_older hOlder]
  have hreimb : (c :: d :: older).filter (fun tx => tx.type = .LnFeeReimbursement) = [] := by
    simp [hd.1, hc.1, filter_reimbursement_older hOlder]
  simp only [stateOfSortedTxns, hpending, hreimb, settledState, List.length_cons]
  by_cases hnil : older = []
  · subst hnil
    simp
  · have hpos : 0 < older.length := List.length_pos_of_ne_nil hnil
    have heven : (older.length + 1 + 1) % 2 = 0 := by omega
    simp [hnil, heven]

end OlderRows

theorem checkTxns_ok {txns : List LedgerTransaction}
    (hValid : ∀ t ∈ txns, t.type ∈ validTypes) (hne : txns ≠ []) : checkTxns txns = .ok () := by
  have hfind : txns.find? (fun txn => txn.type ∉ validTypes) = none := by
    rw [List.find?_eq_none]
    intro t ht
    simp [hValid t ht]
  rw [checkTxns, hfind]
  simp [hne]

theorem filterSelfPayments_ok {txns : List LedgerTransaction}
    (hPayment : ∃ t ∈ txns, t.type = .Payment) :
    filterSelfPayments txns = .ok (txns.filter (fun tx => tx.type ≠ .Invoice)) := by
  obtain ⟨t, ht, hType⟩ := hPayment
  have hlen : (txns.filter (fun tx => tx.type = .Payment)).length ≠ 0 := by
    rw [Ne, List.length_eq_zero_iff, List.filter_eq_nil_iff]
    exact fun h => h t ht (by simp [hType])
  simp [filterSelfPayments, hlen]

/-- `determine` reads only the rows that are not invoices, newest first: for a
    bundle that is a time-ordered run of payment and reimbursement rows, with a
    payment among them, plus invoices in any order. -/
theorem determine_eq_of_perm {rows invoices txns : List LedgerTransaction}
    (hPerm : txns.Perm (rows ++ invoices))
    (hRows : ∀ t ∈ rows, t.type = .Payment ∨ t.type = .LnFeeReimbursement)
    (hInvoices : ∀ t ∈ invoices, t.type = .Invoice)
    (hPayment : ∃ t ∈ rows, t.type = .Payment)
    (hIncreasing : rows.Pairwise (fun a b => a.timestamp < b.timestamp)) :
    determine txns = stateOfSortedTxns rows.reverse := by
  have hValid : ∀ t ∈ txns, t.type ∈ validTypes := by
    intro t ht
    rcases List.mem_append.mp (hPerm.subset ht) with ht | ht
    · rcases hRows t ht with h | h <;> simp [validTypes, h]
    · simp [validTypes, hInvoices t ht]
  have hne : txns ≠ [] := by
    obtain ⟨t, ht, -⟩ := hPayment
    exact List.ne_nil_of_mem (hPerm.symm.subset (List.mem_append_left invoices ht))
  -- sorting then dropping the invoices leaves `rows`, newest first
  have hSorted : (sortTxnsByTimestampDesc txns).filter (fun tx => tx.type ≠ .Invoice) =
      rows.reverse := by
    refine SortDesc.sortDesc_filter_eq_reverse _ _ hPerm ?_ ?_ hIncreasing
    · intro t ht
      rcases hRows t ht with h | h <;> simp [h]
    · intro t ht
      simp [hInvoices t ht]
  have hSortedPayment : ∃ t ∈ sortTxnsByTimestampDesc txns, t.type = .Payment := by
    obtain ⟨t, ht, hType⟩ := hPayment
    exact ⟨t, (SortDesc.sortDesc_perm _ txns).symm.subset
      (hPerm.symm.subset (List.mem_append_left invoices ht)), hType⟩
  simp only [determine, checkTxns_ok hValid hne, filterSelfPayments_ok hSortedPayment, hSorted]
  rfl

end LnPaymentStateDeterminator

-- ============================================================================
-- Bundles written by a payment lifecycle
-- ============================================================================

/-- The kinds of ledger row one payment attempt writes. -/
inductive AttemptRow where
  | pendingDebit
  | settledDebit
  | revertCredit
  | reimbursementCredit
  deriving DecidableEq, Repr

/-- A ledger row of the given kind. -/
def AttemptRow.Fits : AttemptRow → LedgerTransaction → Prop
  | .pendingDebit, t => t.type = .Payment ∧ t.pendingConfirmation = true ∧ 0 < t.debit
  | .settledDebit, t => t.type = .Payment ∧ t.pendingConfirmation = false ∧ 0 < t.debit
  | .revertCredit, t =>
    t.type = .Payment ∧ t.pendingConfirmation = false ∧ t.debit = 0 ∧ 0 < t.credit
  | .reimbursementCredit, t =>
    t.type = .LnFeeReimbursement ∧ t.pendingConfirmation = false ∧ t.debit = 0 ∧ 0 < t.credit

theorem AttemptRow.Fits.type {k : AttemptRow} {t : LedgerTransaction} (h : k.Fits t) :
    t.type = .Payment ∨ t.type = .LnFeeReimbursement := by
  cases k with
  | pendingDebit => exact .inl h.1
  | settledDebit => exact .inl h.1
  | revertCredit => exact .inl h.1
  | reimbursementCredit => exact .inr h.1

theorem AttemptRow.type_of_forall₂ {ks : List AttemptRow} {rows : List LedgerTransaction}
    (h : List.Forall₂ AttemptRow.Fits ks rows) :
    ∀ t ∈ rows, t.type = .Payment ∨ t.type = .LnFeeReimbursement := by
  induction h with
  | nil => simp
  | cons hFit _ ih =>
    intro t ht
    rcases List.mem_cons.mp ht with rfl | ht
    · exact hFit.type
    · exact ih t ht

/-- How the last attempt of a payment stands. -/
inductive FinalAttempt where
  /-- its debit is still pending -/
  | pending
  /-- its debit settled -/
  | settled
  /-- its debit settled and part of the fee came back -/
  | settledWithReimbursement
  /-- its debit was reverted -/
  | reverted
  /-- its debit was reverted after part of the fee came back -/
  | revertedWithReimbursement
  deriving DecidableEq, Repr

namespace FinalAttempt

/-- The rows the last attempt writes, oldest first. -/
def rows : FinalAttempt → List AttemptRow
  | .pending => [.pendingDebit]
  | .settled => [.settledDebit]
  | .settledWithReimbursement => [.settledDebit, .reimbursementCredit]
  | .reverted => [.settledDebit, .revertCredit]
  | .revertedWithReimbursement => [.settledDebit, .reimbursementCredit, .revertCredit]

/-- The status the payment should show. -/
def status : FinalAttempt → TxStatus
  | .pending => .Pending
  | .settled | .settledWithReimbursement => .Success
  | .reverted | .revertedWithReimbursement => .Failure

/-- The state a payment of `attempts` attempts should be found in. -/
def state (attempts : ℕ) : FinalAttempt → LnPaymentState
  | .pending => if attempts = 1 then .Pending else .PendingAfterRetry
  | .settled => if attempts = 1 then .Success else .SuccessAfterRetry
  | .settledWithReimbursement =>
    if attempts = 1 then .SuccessWithReimbursement else .SuccessWithReimbursementAfterRetry
  | .reverted => if attempts = 1 then .Failed else .FailedAfterRetry
  | .revertedWithReimbursement => .FailedAfterSuccessWithReimbursement

end FinalAttempt

/-- The four `...AfterRetry` states. -/
def LnPaymentState.isAfterRetry : LnPaymentState → Bool
  | .PendingAfterRetry | .SuccessAfterRetry | .SuccessWithReimbursementAfterRetry
  | .FailedAfterRetry => true
  | _ => false

/-- The rows of the retried attempts, oldest first: a settled debit and the
    credit that reverted it, for each. -/
def retriedRows (retried : List (LedgerTransaction × LedgerTransaction)) :
    List LedgerTransaction :=
  retried.flatMap fun attempt => [attempt.1, attempt.2]

theorem length_retriedRows (retried : List (LedgerTransaction × LedgerTransaction)) :
    (retriedRows retried).length = 2 * retried.length := by
  induction retried with
  | nil => rfl
  | cons attempt retried ih =>
    simp only [retriedRows, List.flatMap_cons, List.length_append, List.length_cons,
      List.length_nil] at ih ⊢
    omega

/-- The ledger rows of a Lightning payment of `retried.length + 1` attempts at
    strictly increasing times. -/
structure LnPaymentLifecycle where
  retried : List (LedgerTransaction × LedgerTransaction)
  final : FinalAttempt
  finalRows : List LedgerTransaction
  retried_fit : ∀ attempt ∈ retried,
    AttemptRow.settledDebit.Fits attempt.1 ∧ AttemptRow.revertCredit.Fits attempt.2
  final_fit : List.Forall₂ AttemptRow.Fits final.rows finalRows
  increasing : (retriedRows retried ++ finalRows).Pairwise (fun a b => a.timestamp < b.timestamp)

namespace LnPaymentLifecycle

variable (lc : LnPaymentLifecycle)

def rows : List LedgerTransaction := retriedRows lc.retried ++ lc.finalRows

def attempts : ℕ := lc.retried.length + 1

theorem retriedRows_settled :
    ∀ t ∈ retriedRows lc.retried, t.type = .Payment ∧ t.pendingConfirmation = false := by
  intro t ht
  obtain ⟨attempt, hmem, ht⟩ := List.mem_flatMap.mp ht
  obtain ⟨⟨hdType, hdPending, -⟩, ⟨hcType, hcPending, -⟩⟩ := lc.retried_fit attempt hmem
  rcases List.mem_pair.mp ht with rfl | rfl
  · exact ⟨hdType, hdPending⟩
  · exact ⟨hcType, hcPending⟩

theorem rows_type : ∀ t ∈ lc.rows, t.type = .Payment ∨ t.type = .LnFeeReimbursement := by
  intro t ht
  rcases List.mem_append.mp ht with ht | ht
  · exact .inl (lc.retriedRows_settled t ht).1
  · exact AttemptRow.type_of_forall₂ lc.final_fit t ht

/-- Every last attempt starts with its `Payment` debit. -/
theorem exists_payment : ∃ t ∈ lc.rows, t.type = .Payment := by
  have hFirst : ∃ d rest, lc.finalRows = d :: rest ∧ d.type = .Payment := by
    have hFit := lc.final_fit
    generalize lc.finalRows = finalRows at hFit
    cases hf : lc.final <;> rw [hf] at hFit <;> cases hFit with
    | cons hd _ => exact ⟨_, _, rfl, hd.1⟩
  obtain ⟨d, rest, hRows, hType⟩ := hFirst
  exact ⟨d, List.mem_append_right _ (hRows ▸ List.mem_cons_self), hType⟩

open LnPaymentStateDeterminator in
/-- `determine` finds the state of the last attempt, plain after one attempt and
    `...AfterRetry` after several, whatever order the rows and invoices come in. -/
theorem determine_eq {invoices txns : List LedgerTransaction}
    (hInvoices : ∀ t ∈ invoices, t.type = .Invoice) (hPerm : txns.Perm (lc.rows ++ invoices)) :
    determine txns = .ok (lc.final.state lc.attempts) := by
  rw [determine_eq_of_perm hPerm lc.rows_type hInvoices lc.exists_payment lc.increasing]
  -- the retried rows, newest first, lie under those of the last attempt
  have hOlder : ∀ t ∈ (retriedRows lc.retried).reverse,
      t.type = .Payment ∧ t.pendingConfirmation = false :=
    fun t ht => lc.retriedRows_settled t (List.mem_reverse.mp ht)
  have hEven : (retriedRows lc.retried).reverse.length % 2 = 0 := by
    simp [length_retriedRows]
  have hFirst : (retriedRows lc.retried).reverse = [] ↔ lc.attempts = 1 := by
    rw [← List.length_eq_zero_iff]
    simp [length_retriedRows, attempts]
  have hIncreasing := lc.increasing
  have hFit := lc.final_fit
  rw [rows, List.reverse_append]
  generalize lc.finalRows = finalRows at hFit hIncreasing ⊢
  rw [List.pairwise_append] at hIncreasing
  obtain ⟨-, hFinalIncreasing, hOlderEarlier⟩ := hIncreasing
  cases hf : lc.final with
  | pending =>
    rw [hf] at hFit
    obtain ⟨d, hd⟩ : ∃ d, finalRows = [d] ∧ AttemptRow.pendingDebit.Fits d := by
      cases hFit with | cons hd hNil => cases hNil; exact ⟨_, rfl, hd⟩
    obtain ⟨rfl, hdType, hdPending, -⟩ := hd
    rw [List.reverse_singleton, List.singleton_append,
      stateOfSortedTxns_pendingDebit hOlder hEven ⟨hdType, hdPending⟩]
    simp [FinalAttempt.state, hFirst]
  | settled =>
    rw [hf] at hFit
    obtain ⟨d, hd⟩ : ∃ d, finalRows = [d] ∧ AttemptRow.settledDebit.Fits d := by
      cases hFit with | cons hd hNil => cases hNil; exact ⟨_, rfl, hd⟩
    obtain ⟨rfl, hdFit⟩ := hd
    rw [List.reverse_singleton, List.singleton_append,
      stateOfSortedTxns_settledDebit hOlder hEven hdFit]
    simp [FinalAttempt.state, hFirst]
  | settledWithReimbursement =>
    rw [hf] at hFit
    obtain ⟨d, r, hdr⟩ : ∃ d r, finalRows = [d, r] ∧ AttemptRow.settledDebit.Fits d ∧
        AttemptRow.reimbursementCredit.Fits r := by
      cases hFit with
      | cons hd hRest => cases hRest with
        | cons hr hNil => cases hNil; exact ⟨_, _, rfl, hd, hr⟩
    obtain ⟨rfl, ⟨hdType, hdPending, -⟩, ⟨hrType, hrPending, -⟩⟩ := hdr
    -- the reimbursement is the newest row
    have hNewest : ∀ t ∈ d :: (retriedRows lc.retried).reverse, t.timestamp < r.timestamp := by
      intro t ht
      rcases List.mem_cons.mp ht with rfl | ht
      · simpa using hFinalIncreasing
      · exact hOlderEarlier t (List.mem_reverse.mp ht) r (by simp)
    have hRows : [d, r].reverse ++ (retriedRows lc.retried).reverse =
        r :: d :: (retriedRows lc.retried).reverse := rfl
    rw [hRows, stateOfSortedTxns_reimbursedDebit hOlder ⟨hdType, hdPending⟩
      ⟨hrType, hrPending⟩ hNewest]
    simp [FinalAttempt.state, hFirst]
  | reverted =>
    rw [hf] at hFit
    obtain ⟨d, c, hdc⟩ : ∃ d c, finalRows = [d, c] ∧ AttemptRow.settledDebit.Fits d ∧
        AttemptRow.revertCredit.Fits c := by
      cases hFit with
      | cons hd hRest => cases hRest with
        | cons hc hNil => cases hNil; exact ⟨_, _, rfl, hd, hc⟩
    obtain ⟨rfl, ⟨hdType, hdPending, -⟩, ⟨hcType, hcPending, -⟩⟩ := hdc
    have hRows : [d, c].reverse ++ (retriedRows lc.retried).reverse =
        c :: d :: (retriedRows lc.retried).reverse := rfl
    rw [hRows, stateOfSortedTxns_revertedDebit hOlder hEven ⟨hdType, hdPending⟩
      ⟨hcType, hcPending⟩]
    simp [FinalAttempt.state, hFirst]
  | revertedWithReimbursement =>
    rw [hf] at hFit
    obtain ⟨d, r, c, hdrc⟩ : ∃ d r c, finalRows = [d, r, c] ∧ AttemptRow.settledDebit.Fits d ∧
        AttemptRow.reimbursementCredit.Fits r ∧ AttemptRow.revertCredit.Fits c := by
      cases hFit with
      | cons hd hRest => cases hRest with
        | cons hr hRest => cases hRest with
          | cons hc hNil => cases hNil; exact ⟨_, _, _, rfl, hd, hr, hc⟩
    obtain ⟨rfl, ⟨hdType, hdPending, -⟩, ⟨hrType, hrPending, -⟩, ⟨hcType, hcPending, -⟩⟩ :=
      hdrc
    -- the reverting credit comes after the reimbursement
    have hLater : r.timestamp < c.timestamp := by
      simp only [List.pairwise_cons, List.mem_cons, List.not_mem_nil] at hFinalIncreasing
      exact hFinalIncreasing.2.1 c (.inl rfl)
    have hRows : [d, r, c].reverse ++ (retriedRows lc.retried).reverse =
        c :: r :: d :: (retriedRows lc.retried).reverse := rfl
    rw [hRows, stateOfSortedTxns_reimbursedRevertedDebit hOlder ⟨hdType, hdPending⟩
      ⟨hrType, hrPending⟩ ⟨hcType, hcPending⟩ hLater]
    rfl

end LnPaymentLifecycle

namespace FinalAttempt

/-- The history shows the status of the last attempt. -/
theorem statusFromTxn_state (f : FinalAttempt) (attempts : ℕ) {txn : LedgerTransaction}
    (h : txn.lnPaymentState = some (f.state attempts)) : statusFromTxn txn = f.status := by
  unfold statusFromTxn
  rw [h]
  cases f <;> by_cases hk : attempts = 1 <;> simp [state, status, hk]

/-- Unless the payment failed, the state is an `...AfterRetry` one exactly after a retry. -/
theorem isAfterRetry_state (f : FinalAttempt) (attempts : ℕ) (hf : f.status ≠ .Failure) :
    (f.state attempts).isAfterRetry = true ↔ attempts ≠ 1 := by
  cases f with
  | reverted | revertedWithReimbursement => exact absurd rfl hf
  | pending | settled | settledWithReimbursement =>
    by_cases hk : attempts = 1 <;> simp [state, hk, LnPaymentState.isAfterRetry]

end FinalAttempt

theorem LnPaymentLifecycle.determine_ok_status (lc : LnPaymentLifecycle)
    (invoices txns : List LedgerTransaction) (hInvoices : ∀ t ∈ invoices, t.type = .Invoice)
    (hPerm : txns.Perm (lc.rows ++ invoices)) :
    ∃ state, LnPaymentStateDeterminator.determine txns = .ok state ∧
      (∀ txn : LedgerTransaction, txn.lnPaymentState = some state →
        statusFromTxn txn = lc.final.status) ∧
      (lc.final.status ≠ .Failure → (state.isAfterRetry = true ↔ 1 < lc.attempts)) := by
  refine ⟨lc.final.state lc.attempts, lc.determine_eq hInvoices hPerm,
    fun txn h => lc.final.statusFromTxn_state lc.attempts h, fun hf => ?_⟩
  rw [lc.final.isAfterRetry_state lc.attempts hf]
  have hPos : 1 ≤ lc.attempts := Nat.le_add_left 1 _
  omega

/-- A row of a sender's Lightning bundle, with the fields `determine` reads. -/
def paymentBundleRow (id : String) (type : LedgerTransactionType) (pending : Bool)
    (debit credit : ℚ) (timestamp : ℤ) : LedgerTransaction where
  id := id
  walletId := some "sender"
  type := type
  debit := debit
  credit := credit
  currency := .Btc
  timestamp := timestamp
  pendingConfirmation := pending
  journalId := id
  externalId := none
  paymentHash := some "hash"
  pubkey := none
  feeKnownInAdvance := false
  lnPaymentState := none
  satsAmount := none
  centsAmount := none
  satsFee := none
  centsFee := none
  displayAmount := none
  displayFee := none
  displayCurrency := none

/-- A payment retried once whose second attempt settled with a fee reimbursement. -/
def retriedThenReimbursed : LnPaymentLifecycle where
  retried := [(paymentBundleRow "debit1" .Payment false 1000 0 1,
    paymentBundleRow "revert1" .Payment false 0 1000 2)]
  final := .settledWithReimbursement
  finalRows := [paymentBundleRow "debit2" .Payment false 1000 0 3,
    paymentBundleRow "reimburse2" .LnFeeReimbursement false 0 10 4]
  retried_fit := by simp [AttemptRow.Fits, paymentBundleRow]
  final_fit := by simp [FinalAttempt.rows, AttemptRow.Fits, paymentBundleRow]
  increasing := by simp [retriedRows, paymentBundleRow]

theorem determine_ok_status_retriedThenReimbursed :
    (∀ t ∈ [paymentBundleRow "invoice" .Invoice false 0 1000 5], t.type = .Invoice) ∧
    ([paymentBundleRow "reimburse2" .LnFeeReimbursement false 0 10 4,
        paymentBundleRow "invoice" .Invoice false 0 1000 5,
        paymentBundleRow "debit1" .Payment false 1000 0 1,
        paymentBundleRow "debit2" .Payment false 1000 0 3,
        paymentBundleRow "revert1" .Payment false 0 1000 2].Perm
      (retriedThenReimbursed.rows ++ [paymentBundleRow "invoice" .Invoice false 0 1000 5])) ∧
    ∃ state, LnPaymentStateDeterminator.determine
        [paymentBundleRow "reimburse2" .LnFeeReimbursement false 0 10 4,
          paymentBundleRow "invoice" .Invoice false 0 1000 5,
          paymentBundleRow "debit1" .Payment false 1000 0 1,
          paymentBundleRow "debit2" .Payment false 1000 0 3,
          paymentBundleRow "revert1" .Payment false 0 1000 2] = .ok state ∧
      (∀ txn : LedgerTransaction, txn.lnPaymentState = some state →
        statusFromTxn txn = retriedThenReimbursed.final.status) ∧
      (retriedThenReimbursed.final.status ≠ .Failure →
        (state.isAfterRetry = true ↔ 1 < retriedThenReimbursed.attempts)) := by
  have hInvoices : ∀ t ∈ [paymentBundleRow "invoice" .Invoice false 0 1000 5],
      t.type = .Invoice := by simp [paymentBundleRow]
  have hPerm : [paymentBundleRow "reimburse2" .LnFeeReimbursement false 0 10 4,
        paymentBundleRow "invoice" .Invoice false 0 1000 5,
        paymentBundleRow "debit1" .Payment false 1000 0 1,
        paymentBundleRow "debit2" .Payment false 1000 0 3,
        paymentBundleRow "revert1" .Payment false 0 1000 2].Perm
      (retriedThenReimbursed.rows ++ [paymentBundleRow "invoice" .Invoice false 0 1000 5]) := by
    decide
  exact ⟨hInvoices, hPerm, LnPaymentLifecycle.determine_ok_status retriedThenReimbursed _ _
    hInvoices hPerm⟩

end Galoy
