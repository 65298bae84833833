/-
  Galoy.Ledger.Transaction

  Saved ledger rows and their domain view.

  `ILedgerTransaction.save` is the mongoose schema of `services/ledger/schema.ts`
  applied to an entry's transaction when medici commits it: `type`, `pending`
  and `currency` are required, `satsFee`, `centsFee` and `displayFee` default to
  0 and `displayCurrency` to "USD", and medici and MongoDB add `_id`, `_journal`
  and `timestamp`.  `translateToLedgerTx` (`services/ledger/translate.ts`) turns
  a saved row into a `LedgerTransaction`, reading the wallet id back out of the
  account path with `toWalletId` (`domain/ledger/index.ts`).
-/

import Galoy.Ledger.EntryBuilder

namespace Galoy

/-- A saved ledger transaction (`ILedgerTransaction`). -/
structure ILedgerTransaction where
  _id : String
  _journal : String
  timestamp : ℤ
  accounts : String
  debit : ℚ
  credit : ℚ
  external_id : Option String
  hash : Option String
  type : LedgerTransactionType
  pending : Bool
  bundle_completion_state : Option LnPaymentState
  currency : WalletCurrency
  feeKnownInAdvance : Option Bool
  memoPayer : Option String
  pubkey : Option String
  satsAmount : Option ℚ
  centsAmount : Option ℚ
  satsFee : ℚ
  centsFee : ℚ
  displayAmount : Option ℚ
  displayFee : ℚ
  displayCurrency : String
  deriving DecidableEq, Repr

/-- Saving an entry's transaction: the schema's required fields and defaults.
    A transaction without `type`, `pending` or `currency` fails validation. -/
def ILedgerTransaction.save (txn : MediciTxn) (_id _journal : String) (timestamp : ℤ) :
    Option ILedgerTransaction := do
  let type ← txn.metadata.type
  let pending ← txn.metadata.pending
  let currency ← txn.metadata.currency
  pure {
    _id, _journal, timestamp
    accounts := txn.accounts
    debit := txn.debit
    credit := txn.credit
    external_id := txn.metadata.external_id
    hash := txn.metadata.hash
    type, pending
    bundle_completion_state := none
    currency
    feeKnownInAdvance := txn.metadata.feeKnownInAdvance
    memoPayer := txn.metadata.memoPayer
    pubkey := txn.metadata.pubkey
    satsAmount := txn.metadata.satsAmount
    centsAmount := txn.metadata.centsAmount
    satsFee := txn.metadata.satsFee.getD 0
    centsFee := txn.metadata.centsFee.getD 0
    displayAmount := txn.metadata.displayAmount
    displayFee := txn.metadata.displayFee.getD 0
    displayCurrency := txn.metadata.displayCurrency.getD "USD" }

/-- The domain ledger transaction `LedgerTransaction<S>`. -/
structure LedgerTransaction where
  id : String
  walletId : Option String
  type : LedgerTransactionType
  debit : ℚ
  credit : ℚ
  currency : WalletCurrency
  timestamp : ℤ
  pendingConfirmation : Bool
  journalId : String
  externalId : Option String
  paymentHash : Option String
  pubkey : Option String
  feeKnownInAdvance : Bool
  lnPaymentState : Option LnPaymentState
  satsAmount : Option ℚ
  centsAmount : Option ℚ
  satsFee : Option ℚ
  centsFee : Option ℚ
  displayAmount : Option ℚ
  displayFee : Option ℚ
  displayCurrency : Option String
  deriving DecidableEq, Repr

/-- `(s as T) || undefined`: the empty string is falsy. -/
def orUndefined : Option String → Option String
  | some s => if s = "" then none else some s
  | none => none

/-- `s.split(sep)` for a one-character separator, as a split of the characters. -/
def jsSplit (s : String) (sep : Char) : List String :=
  (s.toList.splitOn sep).map String.ofList

/-- `toWalletId`: the wallet id of a `Liabilities:<walletId>` path. -/
def toWalletId (walletIdPath : String) : Option String :=
  match jsSplit walletIdPath ':' with
  | [first, second] =>
    if first = liabilitiesMainAccount ∧ second ≠ "" then some second else none
  | _ => none

def translateToLedgerTx (tx : ILedgerTransaction) : LedgerTransaction where
  id := tx._id
  walletId := toWalletId tx.accounts
  externalId := orUndefined tx.external_id
  type := tx.type
  -- `toSats` and `toCents` are both `Number(...)`
  debit := tx.debit
  credit := tx.credit
  currency := tx.currency
  timestamp := tx.timestamp
  pendingConfirmation := tx.pending
  lnPaymentState := tx.bundle_completion_state
  journalId := tx._journal
  paymentHash := orUndefined tx.hash
  pubkey := orUndefined tx.pubkey
  feeKnownInAdvance := tx.feeKnownInAdvance.getD false
  satsAmount := tx.satsAmount
  centsAmount := tx.centsAmount
  satsFee := some tx.satsFee
  centsFee := some tx.centsFee
  displayAmount := tx.displayAmount
  displayFee := some tx.displayFee
  displayCurrency := some tx.displayCurrency

/-- Errors of `inputAmountFromLedgerTransaction`. -/
inductive InputAmountError where
  | InvalidLedgerTransactionStateError
  | conversion (e : ValidationError)
  deriving DecidableEq, Repr

/-- `inputAmountFromLedgerTransaction`: the debit less the fee of the row's
    currency. -/
def inputAmountFromLedgerTransaction (txn : LedgerTransaction) : Except InputAmountError ℤ :=
  let fee := if txn.currency = .Usd then txn.centsFee else txn.satsFee
  match fee with
  | none => .error .InvalidLedgerTransactionStateError
  | some fee => (safeBigInt (txn.debit - fee)).mapError .conversion

/-- `toWalletId` inverts `toLedgerAccountId` on every non-empty id without `:`. -/
theorem toWalletId_toLedgerAccountId (walletId : String) (hne : walletId ≠ "")
    (hcolon : ':' ∉ walletId.toList) :
    toWalletId (toLedgerAccountId walletId) = some walletId := by
  have hmain : ':' ∉ liabilitiesMainAccount.toList := by decide
  have hsplit : jsSplit (toLedgerAccountId walletId) ':' = [liabilitiesMainAccount, walletId] := by
    simp only [jsSplit, toLedgerAccountId, String.toList_append]
    rw [show liabilitiesMainAccount.toList ++ ":".toList ++ walletId.toList =
        liabilitiesMainAccount.toList ++ ':' :: walletId.toList by simp,
      List.splitOn_append_cons_self_of_not_mem hmain, List.splitOn_eq_singleton hcolon]
    simp
  simp [toWalletId, hsplit, hne]

end Galoy
