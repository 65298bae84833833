/-
  Galoy.Payments.LnSendLedger

  The pending Lightning send, and the payment flow read back from it.

  Before it pays, `lockedPaymentViaLnSteps` (`app/payments/send-lightning.ts`)
  records the send with `recordSendOffChain`
  (`services/ledger/facade/offchain-send.ts`): the sender is debited the
  amount plus fee of its currency, under the metadata of `LnSendLedgerMetadata`
  (`services/ledger/facade/tx-metadata.ts`).  A later attempt reads that debit
  row back through `translateToLedgerTx`, and `PaymentFlowFromLedgerTransaction`
  (`app/payments/translations.ts`) rebuilds the flow from it.

  The round trip is split at the ledger transaction: `LedgerTransaction.CarriesSend`
  says what a row must hold, the readers are proved against it, and the
  recorded row is shown to satisfy it.  The wallet id only survives the
  account path when `toWalletId` can read it back: an empty id does not.
-/

import Galoy.Ledger.EntryBalance
import Galoy.Ledger.Transaction
import Galoy.Payments.FlowBuilder

namespace Galoy

open AmountCalculator

-- ============================================================================
-- Ledger metadata of a Lightning send
-- ============================================================================

/-- `UsdDisplayCurrency` of `domain/fiat`. -/
def UsdDisplayCurrency : String := "USD"

/-- `DisplayTxnAmounts`. -/
structure DisplayTxnAmounts where
  displayAmount : ℚ
  displayFee : ℚ
  displayCurrency : String
  deriving DecidableEq, Repr

/-- The metadata keys a `DisplayTxnAmounts` object sets when it is spread. -/
def DisplayTxnAmounts.toTxMetadata (amounts : DisplayTxnAmounts) : TxMetadata :=
  { displayAmount := some amounts.displayAmount
    displayFee := some amounts.displayFee
    displayCurrency := some amounts.displayCurrency }

/-- `internalMetadataAmounts`: the wallet cents, shown in USD. -/
def internalMetadataAmounts (centsAmount centsFee : ℤ) : DisplayTxnAmounts :=
  ⟨centsAmount, centsFee, UsdDisplayCurrency⟩

/-- The result of `debitOrCreditMetadataAmounts`. -/
structure DebitOrCreditMetadataAmounts where
  debitOrCreditAdditionalMetadata : DisplayTxnAmounts
  internalAccountsAdditionalMetadata : DisplayTxnAmounts
  deriving DecidableEq, Repr

/-- `debitOrCreditMetadataAmounts`: a USD display currency shows the wallet
    cents instead of the converted display amounts. -/
def debitOrCreditMetadataAmounts (centsAmount centsFee : ℤ) (display : DisplayTxnAmounts) :
    DebitOrCreditMetadataAmounts :=
  let walletUsdAmount : ℚ := centsAmount
  let walletUsdFee : ℚ := centsFee
  let resultDisplayAmount :=
    if display.displayCurrency = UsdDisplayCurrency then walletUsdAmount else display.displayAmount
  let resultDisplayFee :=
    if display.displayCurrency = UsdDisplayCurrency then walletUsdFee else display.displayFee
  { debitOrCreditAdditionalMetadata :=
      ⟨resultDisplayAmount, resultDisplayFee, display.displayCurrency⟩
    internalAccountsAdditionalMetadata := internalMetadataAmounts centsAmount centsFee }

/-- The result of `LnSendLedgerMetadata`. -/
structure LnSendLedgerMetadataResult where
  metadata : TxMetadata
  debitAccountAdditionalMetadata : DisplayTxnAmounts
  internalAccountsAdditionalMetadata : DisplayTxnAmounts
  deriving DecidableEq, Repr

/-- `LnSendLedgerMetadata`.  `toSats` and `toCents` are `Number(...)`. -/
def LnSendLedgerMetadata (paymentHash pubkey : String) (paymentAmounts : AmountsAndFees)
    (feeDisplayCurrency amountDisplayCurrency : ℚ) (displayCurrency : String)
    (feeKnownInAdvance : Bool) (memoOfPayer : Option String) : LnSendLedgerMetadataResult :=
  let satsAmount := paymentAmounts.btcPaymentAmount.amount
  let centsAmount := paymentAmounts.usdPaymentAmount.amount
  let satsFee := paymentAmounts.btcProtocolAndBankFee.amount
  let centsFee := paymentAmounts.usdProtocolAndBankFee.amount
  let metadata : TxMetadata :=
    { type := some .Payment
      pending := some true
      hash := some paymentHash
      pubkey := some pubkey
      feeKnownInAdvance := some feeKnownInAdvance
      memoPayer := memoOfPayer
      satsAmount := some (satsAmount : ℚ)
      satsFee := some (satsFee : ℚ)
      centsAmount := some (centsAmount : ℚ)
      centsFee := some (centsFee : ℚ) }
  let amounts := debitOrCreditMetadataAmounts centsAmount centsFee
    ⟨amountDisplayCurrency, feeDisplayCurrency, displayCurrency⟩
  { metadata
    debitAccountAdditionalMetadata := amounts.debitOrCreditAdditionalMetadata
    internalAccountsAdditionalMetadata := amounts.internalAccountsAdditionalMetadata }

-- ============================================================================
-- Recording the send
-- ============================================================================

/-- `RecordSendArgs`, without the entry's description: no transaction of the
    entry carries it. -/
structure RecordSendArgs where
  senderWalletDescriptor : WalletDescriptor
  amountToDebitSender : PaymentAmountInAllCurrencies
  bankFee : Option PaymentAmountInAllCurrencies
  metadata : TxMetadata
  additionalDebitMetadata : TxMetadata
  additionalInternalMetadata : TxMetadata

variable {E : Type} (ops : MediciEntryOps E)

/-- `recordSendOffChain`: the entry it hands to `persistAndReturnEntry`.
    `entry` is `MainBook.entry(description)` and `accountIds` what
    `staticAccountIds()` returned. -/
def recordSendOffChain (accountIds : StaticAccountIds) (entry : E) (args : RecordSendArgs) : E :=
  -- `bankFee || {...}`: an object is truthy, so only an absent fee defaults
  let actualFee := args.bankFee.getD ⟨ZERO_SATS, ZERO_CENTS⟩
  let builder : EntryBuilderConfig E :=
    { staticAccountIds := accountIds
      externalId := none
      entry
      metadata := args.metadata
      additionalInternalMetadata := args.additionalInternalMetadata }
  EntryBuilderCredit.creditOffChain ops
    (EntryBuilderDebit.debitAccount ops
      (EntryBuilderFee.withBankFee ops
        (EntryBuilder.withTotalAmount builder args.amountToDebitSender.usd
          args.amountToDebitSender.btc)
        actualFee.btc actualFee.usd)
      (toLedgerAccountDescriptor args.senderWalletDescriptor) (some args.additionalDebitMetadata))

/-- The arguments `lockedPaymentViaLnSteps` passes to `recordSendOffChain`: the
    flow's sender, its amount plus fee in each currency, no bank fee, and the
    metadata of `LnSendLedgerMetadata` for the flow's amounts. -/
def lnSendRecordArgs (paymentFlow : PaymentFlow) (paymentHash pubkey : String)
    (displayAmount displayFee : ℚ) (senderDisplayCurrency : String) (feeKnownInAdvance : Bool)
    (memoOfPayer : Option String) : RecordSendArgs :=
  let ledgerMetadata := LnSendLedgerMetadata paymentHash pubkey
    ⟨paymentFlow.btcPaymentAmount, paymentFlow.btcProtocolAndBankFee,
      paymentFlow.usdPaymentAmount, paymentFlow.usdProtocolAndBankFee⟩
    displayFee displayAmount senderDisplayCurrency feeKnownInAdvance memoOfPayer
  { senderWalletDescriptor := paymentFlow.senderWalletDescriptor
    amountToDebitSender :=
      ⟨⟨paymentFlow.btcPaymentAmount.amount + paymentFlow.btcProtocolAndBankFee.amount⟩,
        ⟨paymentFlow.usdPaymentAmount.amount + paymentFlow.usdProtocolAndBankFee.amount⟩⟩
    bankFee := none
    metadata := ledgerMetadata.metadata
    additionalDebitMetadata := ledgerMetadata.debitAccountAdditionalMetadata.toTxMetadata
    additionalInternalMetadata := ledgerMetadata.internalAccountsAdditionalMetadata.toTxMetadata }

-- ============================================================================
-- Reading the flow back
-- ============================================================================

/-- `PaymentFlowFromLedgerTransaction`.  A saved row always has a currency and a
    timestamp, so of the source's `undefined` checks only those of the optional
    fields remain. -/
def PaymentFlowFromLedgerTransaction (ledgerTxn : LedgerTransaction) (senderAccountId : String) :
    Except PaymentFlowError PaymentFlow :=
  if ledgerTxn.type ≠ .Payment then .error .NonLnPaymentTransactionForPaymentFlowError
  else
    match ledgerTxn.walletId, ledgerTxn.paymentHash, ledgerTxn.satsAmount,
        ledgerTxn.centsAmount, ledgerTxn.satsFee, ledgerTxn.centsFee with
    | some senderWalletId, some paymentHash, some satsAmount, some centsAmount, some satsFee,
        some centsFee => do
      let btcPaymentAmount ← (paymentAmountFromNumber satsAmount .Btc).mapError .validation
      let usdPaymentAmount ← (paymentAmountFromNumber centsAmount .Usd).mapError .validation
      let btcProtocolAndBankFee ← (paymentAmountFromNumber satsFee .Btc).mapError .validation
      let usdProtocolAndBankFee ← (paymentAmountFromNumber centsFee .Usd).mapError .validation
      pure
        { senderWalletId
          senderWalletCurrency := ledgerTxn.currency
          senderAccountId
          settlementMethod := .Lightning
          paymentInitiationMethod := .Lightning
          paymentHash := some paymentHash
          intraLedgerHash := none
          descriptionFromInvoice := ""
          skipProbeForDestination := false
          createdAt := ledgerTxn.timestamp
          paymentSentAndPending := true
          btcPaymentAmount
          usdPaymentAmount
          inputAmount :=
            if ledgerTxn.currency = .Usd then usdPaymentAmount.amount else btcPaymentAmount.amount
          btcProtocolAndBankFee
          usdProtocolAndBankFee }
    | _, _, _, _, _, _ => .error .MissingPropsInTransactionForPaymentFlowError

-- ============================================================================
-- What a row of a send carries, and what the readers make of it
-- ============================================================================

/-- A ledger transaction that holds a flow's sender, hash and amounts as the
    pending send records them: the debit is the amount plus fee of the sender's
    currency. -/
structure LedgerTransaction.CarriesSend (txn : LedgerTransaction) (paymentFlow : PaymentFlow)
    (paymentHash : String) : Prop where
  type : txn.type = .Payment
  walletId : txn.walletId = some paymentFlow.senderWalletId
  currency : txn.currency = paymentFlow.senderWalletCurrency
  paymentHash : txn.paymentHash = some paymentHash
  satsAmount : txn.satsAmount = some (paymentFlow.btcPaymentAmount.amount : ℚ)
  centsAmount : txn.centsAmount = some (paymentFlow.usdPaymentAmount.amount : ℚ)
  satsFee : txn.satsFee = some (paymentFlow.btcProtocolAndBankFee.amount : ℚ)
  centsFee : txn.centsFee = some (paymentFlow.usdProtocolAndBankFee.amount : ℚ)
  debit : txn.debit = (amountIn paymentFlow.senderWalletCurrency
    paymentFlow.totalAmountsForPayment.btc paymentFlow.totalAmountsForPayment.usd : ℚ)

/-- Two flows of one send: the same sender, hash, amounts and fees. -/
structure PaymentFlow.SameSend (flow paymentFlow : PaymentFlow) : Prop where
  senderWalletId : flow.senderWalletId = paymentFlow.senderWalletId
  senderWalletCurrency : flow.senderWalletCurrency = paymentFlow.senderWalletCurrency
  paymentHash : flow.paymentHash = paymentFlow.paymentHash
  btcPaymentAmount : flow.btcPaymentAmount = paymentFlow.btcPaymentAmount
  usdPaymentAmount : flow.usdPaymentAmount = paymentFlow.usdPaymentAmount
  btcProtocolAndBankFee : flow.btcProtocolAndBankFee = paymentFlow.btcProtocolAndBankFee
  usdProtocolAndBankFee : flow.usdProtocolAndBankFee = paymentFlow.usdProtocolAndBankFee

namespace LedgerTransaction.CarriesSend

variable {txn : LedgerTransaction} {paymentFlow : PaymentFlow} {paymentHash : String}

/-- The debit less the fee of the row's currency is the flow's amount. -/
theorem inputAmountFromLedgerTransaction_eq (h : txn.CarriesSend paymentFlow paymentHash) :
    inputAmountFromLedgerTransaction txn =
      .ok (amountIn paymentFlow.senderWalletCurrency paymentFlow.btcPaymentAmount
        paymentFlow.usdPaymentAmount) := by
  unfold inputAmountFromLedgerTransaction
  rw [h.debit, h.currency]
  cases paymentFlow.senderWalletCurrency with
  | Btc => simp [h.satsFee, PaymentFlow.totalAmountsForPayment,
      PaymentFlowCommonState.totalAmountsForPayment, PaymentFlow.common, Except.mapError]
  | Usd => simp [h.centsFee, PaymentFlow.totalAmountsForPayment,
      PaymentFlowCommonState.totalAmountsForPayment, PaymentFlow.common, Except.mapError]

/-- The flow rebuilt from the row is the flow of the send. -/
theorem paymentFlowFromLedgerTransaction_ok (h : txn.CarriesSend paymentFlow paymentHash)
    (hHash : paymentFlow.paymentHash = some paymentHash) (senderAccountId : String) :
    ∃ flow, PaymentFlowFromLedgerTransaction txn senderAccountId = .ok flow ∧
      flow.SameSend paymentFlow := by
  unfold PaymentFlowFromLedgerTransaction
  rw [if_neg (not_not_intro h.type), h.walletId, h.paymentHash, h.satsAmount, h.centsAmount,
    h.satsFee, h.centsFee]
  simp only [paymentAmountFromNumber_intCast]
  exact ⟨_, rfl, ⟨rfl, h.currency, hHash.symm, rfl, rfl, rfl, rfl⟩⟩

end LedgerTransaction.CarriesSend

-- ============================================================================
-- The recorded debit row
-- ============================================================================

/-- The row `debitAccount` writes for the sender in `recordSendOffChain`. -/
def RecordSendArgs.senderDebitRow (args : RecordSendArgs) : MediciTxn :=
  ⟨toLedgerAccountId args.senderWalletDescriptor.id,
    (amountIn args.senderWalletDescriptor.currency args.amountToDebitSender.btc
      args.amountToDebitSender.usd : ℚ), 0,
    withCurrency (args.metadata.spreadOpt (some args.additionalDebitMetadata))
      args.senderWalletDescriptor.currency none⟩

/-- The sender's debit row is in the recorded entry unless it debits nothing,
    in which case `removeZeroAmountEntries` drops it. -/
theorem senderDebitRow_mem (hops : ops.Lawful) (accountIds : StaticAccountIds) (entry : E)
    (args : RecordSendArgs)
    (hDebit : amountIn args.senderWalletDescriptor.currency args.amountToDebitSender.btc
      args.amountToDebitSender.usd ≠ 0) :
    args.senderDebitRow ∈ ops.transactions (recordSendOffChain ops accountIds entry args) := by
  -- the send is one chain of the builder: `debitAccount` of the sender, `creditOffChain`
  rw [show recordSendOffChain ops accountIds entry args =
      CreditMethod.creditOffChain.call ops
        ((DebitMethod.debitAccount (toLedgerAccountDescriptor args.senderWalletDescriptor)
          (some args.additionalDebitMetadata)).call ops _) from rfl,
    transactions_chain ops hops]
  have hNonZero : Journal.nonZero args.senderDebitRow = true := by
    simp [Journal.nonZero, RecordSendArgs.senderDebitRow, hDebit]
  refine List.mem_filter.mpr ⟨?_, hNonZero⟩
  simp only [entryLegs, List.mem_append, List.mem_singleton]
  exact .inr (.inl (.inl (.inr rfl)))

section RoundTrip

variable {paymentFlow : PaymentFlow} {paymentHash : String}

/-- Saving the sender's row of a Lightning send and translating it gives a
    ledger transaction that carries the send. -/
theorem lnSendRecordArgs_senderDebitRow_carriesSend (hHash : paymentHash ≠ "")
    (hId : paymentFlow.senderWalletId ≠ "") (hColon : ':' ∉ paymentFlow.senderWalletId.toList)
    (pubkey : String) (displayAmount displayFee : ℚ) (senderDisplayCurrency : String)
    (feeKnownInAdvance : Bool) (memoOfPayer : Option String)
    (txnId journalId : String) (timestamp : ℤ) :
    ∃ saved, ILedgerTransaction.save
        (lnSendRecordArgs paymentFlow paymentHash pubkey displayAmount displayFee
          senderDisplayCurrency feeKnownInAdvance memoOfPayer).senderDebitRow
        txnId journalId timestamp = some saved ∧
      (translateToLedgerTx saved).CarriesSend paymentFlow paymentHash := by
  refine ⟨_, rfl, ⟨rfl, ?_, rfl, ?_, rfl, rfl, rfl, rfl, rfl⟩⟩
  · exact toWalletId_toLedgerAccountId _ hId hColon
  · show orUndefined (some paymentHash) = some paymentHash
    simp [orUndefined, hHash]

/-- The sender's row of a recorded Lightning send reads back as the flow that
    was sent: the input amount is the flow's amount, and the flow rebuilt from
    the row has the same sender, hash, amounts and fees. -/
theorem lnSendRecord_roundTrip (hops : ops.Lawful)
    (hHash : paymentFlow.paymentHashForFlow = .ok paymentHash)
    (hId : paymentFlow.senderWalletId ≠ "") (hColon : ':' ∉ paymentFlow.senderWalletId.toList)
    (hDebit : amountIn paymentFlow.senderWalletCurrency paymentFlow.totalAmountsForPayment.btc
      paymentFlow.totalAmountsForPayment.usd ≠ 0)
    (accountIds : StaticAccountIds) (entry : E) (pubkey : String) (displayAmount displayFee : ℚ)
    (senderDisplayCurrency : String) (feeKnownInAdvance : Bool) (memoOfPayer : Option String)
    (senderAccountId : String) :
    ∃ row ∈ ops.transactions (recordSendOffChain ops accountIds entry
        (lnSendRecordArgs paymentFlow paymentHash pubkey displayAmount displayFee
          senderDisplayCurrency feeKnownInAdvance memoOfPayer)),
      row.accounts = toLedgerAccountId paymentFlow.senderWalletId ∧ row.credit = 0 ∧
      ∀ txnId journalId timestamp, ∃ saved,
        ILedgerTransaction.save row txnId journalId timestamp = some saved ∧
        inputAmountFromLedgerTransaction (translateToLedgerTx saved) =
          .ok (amountIn paymentFlow.senderWalletCurrency paymentFlow.btcPaymentAmount
            paymentFlow.usdPaymentAmount) ∧
        ∃ flow, PaymentFlowFromLedgerTransaction (translateToLedgerTx saved) senderAccountId =
          .ok flow ∧ flow.SameSend paymentFlow := by
  obtain ⟨hNonEmpty, hFlowHash⟩ := PaymentFlow.paymentHashForFlow_ok paymentFlow hHash
  refine ⟨_, senderDebitRow_mem ops hops accountIds entry _ hDebit, rfl, rfl, ?_⟩
  intro txnId journalId timestamp
  obtain ⟨saved, hSave, hCarries⟩ := lnSendRecordArgs_senderDebitRow_carriesSend hNonEmpty hId
    hColon pubkey displayAmount displayFee senderDisplayCurrency feeKnownInAdvance memoOfPayer
    txnId journalId timestamp
  exact ⟨saved, hSave, hCarries.inputAmountFromLedgerTransaction_eq,
    hCarries.paymentFlowFromLedgerTransaction_ok hFlowHash senderAccountId⟩

/-- The bank's accounts in the examples below. -/
def exampleAccountIds : StaticAccountIds := ⟨"Liabilities:bank", "Liabilities:dealer-btc",
  "Liabilities:dealer-usd"⟩

/-- A pending Lightning send of 1000 sats and a 5 sat fee from a BTC wallet. -/
def btcLnSendFlow (senderWalletId : String) : PaymentFlow where
  paymentHash := some "ln-hash"
  intraLedgerHash := none
  senderWalletId
  senderWalletCurrency := .Btc
  senderAccountId := "sender-account"
  settlementMethod := .Lightning
  paymentInitiationMethod := .Lightning
  descriptionFromInvoice := "coffee"
  skipProbeForDestination := false
  createdAt := 0
  paymentSentAndPending := false
  btcPaymentAmount := ⟨1000⟩
  usdPaymentAmount := ⟨2000⟩
  inputAmount := 1000
  btcProtocolAndBankFee := ⟨5⟩
  usdProtocolAndBankFee := ⟨10⟩

theorem lnSendRecord_roundTrip_btcWallet :
    ∃ row ∈ MediciEntryOps.ofList.transactions (recordSendOffChain MediciEntryOps.ofList
        exampleAccountIds [] (lnSendRecordArgs (btcLnSendFlow "sender-btc") "ln-hash" "node"
          0 0 "EUR" false none)),
      row.accounts = toLedgerAccountId "sender-btc" ∧ row.credit = 0 ∧
      ∀ txnId journalId timestamp, ∃ saved,
        ILedgerTransaction.save row txnId journalId timestamp = some saved ∧
        inputAmountFromLedgerTransaction (translateToLedgerTx saved) = .ok 1000 ∧
        ∃ flow, PaymentFlowFromLedgerTransaction (translateToLedgerTx saved) "sender-account" =
          .ok flow ∧ flow.SameSend (btcLnSendFlow "sender-btc") :=
  lnSendRecord_roundTrip MediciEntryOps.ofList MediciEntryOps.ofList_lawful rfl (by decide)
    (by decide) (by decide) exampleAccountIds [] "node" 0 0 "EUR" false none "sender-account"

/-- An empty wallet id has no `:` but does not survive the account path:
    `toWalletId "Liabilities:"` is undefined, and the flow cannot be rebuilt. -/
theorem lnSendRecord_emptyWalletId :
    ∃ row ∈ MediciEntryOps.ofList.transactions (recordSendOffChain MediciEntryOps.ofList
        exampleAccountIds [] (lnSendRecordArgs (btcLnSendFlow "") "ln-hash" "node"
          0 0 "EUR" false none)),
      row.accounts = toLedgerAccountId "" ∧ row.credit = 0 ∧
      ∀ txnId journalId timestamp saved,
        ILedgerTransaction.save row txnId journalId timestamp = some saved →
        PaymentFlowFromLedgerTransaction (translateToLedgerTx saved) "sender-account" =
          .error .MissingPropsInTransactionForPaymentFlowError := by
  refine ⟨_, senderDebitRow_mem MediciEntryOps.ofList MediciEntryOps.ofList_lawful
    exampleAccountIds [] _ (by decide), rfl, rfl, ?_⟩
  intro txnId journalId timestamp saved hSave
  cases hSave
  -- `"Liabilities:".split(":")` is `["Liabilities", ""]`, and `""` is falsy
  have hWallet : toWalletId (lnSendRecordArgs (btcLnSendFlow "") "ln-hash" "node" 0 0 "EUR" false
      none).senderDebitRow.accounts = none := by decide
  simp [PaymentFlowFromLedgerTransaction, translateToLedgerTx, hWallet]

end RoundTrip

end Galoy
