/-
  Galoy.Ledger.Medici

  Ledger transactions as the builders hand them to medici
  (`services/ledger/domain/entry-builder.ts`, `domain/ledger/index.ts`).

  The builders hand a medici `Entry` object literals such as
  `{ ...metadata, ...additionalMetadata, currency, external_id }`.  Those
  literals are `TxMetadata` values: one optional field per key the modelled
  code writes, `spread a b` for `{ ...a, ...b }` (a key of `b` wins), and a
  structure update for the explicit trailing keys.  A key written with the
  value `undefined` is modelled as absent; no modelled call site spreads such a
  key over a defined one.

  medici itself is a dependency and is not part of the repository.  The four
  `Entry` operations the builders call are the record `MediciEntryOps`, and
  `MediciEntryOps.Lawful` states their documented behaviour: `debit` and
  `credit` push one transaction carrying the amount on their side and `0` on
  the other, and assigning `transactions` replaces the list.
-/

import Galoy.Shared.Amount

namespace Galoy

/-- `LedgerTransactionType` of `domain/ledger/index.ts`. -/
inductive LedgerTransactionType where
  | Invoice
  | Payment
  | LnFeeReimbursement
  | OnchainReceipt
  | OnchainPayment
  | IntraLedger
  | LnIntraLedger
  | OnchainIntraLedger
  | WalletIdTradeIntraAccount
  | LnTradeIntraAccount
  | OnChainTradeIntraAccount
  | Fee
  | ToColdStorage
  | ToHotWallet
  | Escrow
  | RoutingRevenue
  | Reconciliation
  deriving DecidableEq, Repr

/-- The string each `LedgerTransactionType` stands for. -/
def LedgerTransactionType.value : LedgerTransactionType → String
  | .Invoice => "invoice"
  | .Payment => "payment"
  | .LnFeeReimbursement => "fee_reimbursement"
  | .OnchainReceipt => "onchain_receipt"
  | .OnchainPayment => "onchain_payment"
  | .IntraLedger => "on_us"
  | .LnIntraLedger => "ln_on_us"
  | .OnchainIntraLedger => "onchain_on_us"
  | .WalletIdTradeIntraAccount => "self_trade"
  | .LnTradeIntraAccount => "ln_self_trade"
  | .OnChainTradeIntraAccount => "onchain_self_trade"
  | .Fee => "fee"
  | .ToColdStorage => "to_cold_storage"
  | .ToHotWallet => "to_hot_wallet"
  | .Escrow => "escrow"
  | .RoutingRevenue => "routing_fee"
  | .Reconciliation => "reconciliation"

/-- `LnPaymentState` of `domain/ledger/ln-payment-state.ts`. -/
inductive LnPaymentState where
  | Pending
  | PendingAfterRetry
  | Success
  | SuccessWithReimbursement
  | SuccessAfterRetry
  | SuccessWithReimbursementAfterRetry
  | Failed
  | FailedAfterRetry
  | FailedAfterSuccess
  | FailedAfterSuccessWithReimbursement
  deriving DecidableEq, Repr

-- ============================================================================
-- Transaction metadata literals
-- ============================================================================

/-- The keys of a ledger-transaction literal that the modelled builders write. -/
structure TxMetadata where
  type : Option LedgerTransactionType := none
  pending : Option Bool := none
  hash : Option String := none
  pubkey : Option String := none
  feeKnownInAdvance : Option Bool := none
  memoPayer : Option String := none
  username : Option String := none
  satsAmount : Option ℚ := none
  satsFee : Option ℚ := none
  centsAmount : Option ℚ := none
  centsFee : Option ℚ := none
  displayAmount : Option ℚ := none
  displayFee : Option ℚ := none
  displayCurrency : Option String := none
  currency : Option WalletCurrency := none
  external_id : Option String := none
  deriving DecidableEq, Repr

namespace TxMetadata

/-- `{ ...a, ...b }`: every key `b` sets overrides `a`. -/
def spread (a b : TxMetadata) : TxMetadata where
  type := b.type <|> a.type
  pending := b.pending <|> a.pending
  hash := b.hash <|> a.hash
  pubkey := b.pubkey <|> a.pubkey
  feeKnownInAdvance := b.feeKnownInAdvance <|> a.feeKnownInAdvance
  memoPayer := b.memoPayer <|> a.memoPayer
  username := b.username <|> a.username
  satsAmount := b.satsAmount <|> a.satsAmount
  satsFee := b.satsFee <|> a.satsFee
  centsAmount := b.centsAmount <|> a.centsAmount
  centsFee := b.centsFee <|> a.centsFee
  displayAmount := b.displayAmount <|> a.displayAmount
  displayFee := b.displayFee <|> a.displayFee
  displayCurrency := b.displayCurrency <|> a.displayCurrency
  currency := b.currency <|> a.currency
  external_id := b.external_id <|> a.external_id

/-- `{ ...a, ...(b ? b : {}) }` for an optional object `b`. -/
def spreadOpt (a : TxMetadata) : Option TxMetadata → TxMetadata
  | none => a
  | some b => a.spread b

variable (a b : TxMetadata)

end TxMetadata

-- ============================================================================
-- medici transactions and entries
-- ============================================================================

/-- A transaction of a medici `Entry` before it is saved: the account path, the
    two sides, and the literal's keys, which medici stores as top-level fields. -/
structure MediciTxn where
  accounts : String
  debit : ℚ
  credit : ℚ
  metadata : TxMetadata
  deriving DecidableEq, Repr

/-- The operations of a medici `Entry` that the ledger builders call. -/
structure MediciEntryOps (E : Type) where
  transactions : E → List MediciTxn
  debit : E → String → ℚ → TxMetadata → E
  credit : E → String → ℚ → TxMetadata → E
  setTransactions : E → List MediciTxn → E

/-- medici's documented behaviour of those operations. -/
structure MediciEntryOps.Lawful {E : Type} (ops : MediciEntryOps E) : Prop where
  /-- `entry.debit(account, amount, meta)` pushes `{ debit: amount, credit: 0, ...meta }`. -/
  transactions_debit : ∀ e account amount metadata,
    ops.transactions (ops.debit e account amount metadata) =
      ops.transactions e ++ [⟨account, amount, 0, metadata⟩]
  /-- `entry.credit(account, amount, meta)` pushes `{ debit: 0, credit: amount, ...meta }`. -/
  transactions_credit : ∀ e account amount metadata,
    ops.transactions (ops.credit e account amount metadata) =
      ops.transactions e ++ [⟨account, 0, amount, metadata⟩]
  /-- `entry.transactions = ts` replaces the list. -/
  transactions_setTransactions : ∀ e ts, ops.transactions (ops.setTransactions e ts) = ts

/-- An entry that is nothing but its list of transactions. -/
def MediciEntryOps.ofList : MediciEntryOps (List MediciTxn) where
  transactions e := e
  debit e account amount metadata := e ++ [⟨account, amount, 0, metadata⟩]
  credit e account amount metadata := e ++ [⟨account, 0, amount, metadata⟩]
  setTransactions _ ts := ts

theorem MediciEntryOps.ofList_lawful : MediciEntryOps.ofList.Lawful where
  transactions_debit _ _ _ _ := rfl
  transactions_credit _ _ _ _ := rfl
  transactions_setTransactions _ _ := rfl

end Galoy
