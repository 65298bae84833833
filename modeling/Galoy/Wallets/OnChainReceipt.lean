/-
  Galoy.Wallets.OnChainReceipt

  What an incoming on-chain output credits
  (`app/wallets/add-pending-on-chain-transaction.ts`,
  `app/wallets/add-settled-on-chain-transaction.ts`,
  `domain/wallet-on-chain/wallet-address-receiver.ts`,
  `domain/wallets/deposit-fee-calculator.ts`,
  `services/ledger/facade/onchain-receive.ts`, `servers/event-handlers/bria.ts`).

  Bria delivers `utxo_detected` and `utxo_settled` for an output, each any number
  of times and concurrently.  `addPendingTransaction` and `addSettledTransaction`
  drop an output below the dust threshold; otherwise they take
  `lockOnChainTxHashAndVout`, ask the ledger whether the wallet's receipt of the
  output is recorded (`isOnChainReceiptTxRecordedForWallet`, which also counts an
  older receipt row without an output), and only if not price the output with
  `WalletAddressReceiver` and write: the pending record, or the receipt journal.
  The settled path removes the pending record after the lock.  Every write is
  atomic, the lock excludes the other runs of the output, and a run may crash
  after any step.  The output pays a wallet's address: for an address of no
  wallet both handlers write nothing.

  Over every interleaving the output is credited at most once, and not at all if
  the ledger already had its receipt; once a settled run has removed the pending
  record, no run writes it again (`settledUtxo_credited_at_most_once`).  Each
  receipt credits the sats net of the deposit fee, positive in both currencies,
  and its journal balances, debits the on-chain asset account every sat and
  credits the bank owner the fee (`settledUtxo_receipt_journal`); it was priced
  at a positive quote, since a quote of no cents or fewer leaves no cents to
  credit.
-/

import Galoy.Wallets.InvoiceReceive
import Galoy.Lib.Transition

namespace Galoy

open AmountCalculator Transition

-- ============================================================================
-- The deposit fee
-- ============================================================================

/-- The deposit part of `FeesConfig`, with the defaults of the config schema. -/
structure DepositFeesConfig where
  depositDefaultMin : BtcPaymentAmount := ⟨3000⟩
  depositThreshold : BtcPaymentAmount := ⟨1000000⟩
  depositRatioAsBasisPoints : ℤ := 30

/-- `OnChainDepositFeeArgs`. -/
structure OnChainDepositFeeArgs where
  amount : BtcPaymentAmount
  minBankFee : BtcPaymentAmount
  minBankFeeThreshold : BtcPaymentAmount
  ratio : ℤ

/-- `DepositFeeCalculator().onChainDepositFee`, whose error branch is never
    taken. -/
def DepositFeeCalculator.onChainDepositFee (args : OnChainDepositFeeArgs) : BtcPaymentAmount :=
  if args.amount.amount < args.minBankFeeThreshold.amount then args.minBankFee
  else if args.ratio = 0 then ZERO_SATS
  else mulBasisPoints args.amount args.ratio

namespace DepositFeesConfig

/-- The fee both handlers charge on an output of `amount` sats. -/
def fee (config : DepositFeesConfig) (amount : BtcPaymentAmount) : BtcPaymentAmount :=
  DepositFeeCalculator.onChainDepositFee
    ⟨amount, config.depositDefaultMin, config.depositThreshold,
      config.depositRatioAsBasisPoints⟩

/-- No negative fee is configured. -/
structure Valid (config : DepositFeesConfig) : Prop where
  depositDefaultMin_nonneg : 0 ≤ config.depositDefaultMin.amount
  depositRatioAsBasisPoints_nonneg : 0 ≤ config.depositRatioAsBasisPoints

/-- A valid config charges no negative fee on an output. -/
theorem Valid.fee_nonneg {config : DepositFeesConfig} (hValid : config.Valid)
    {amount : BtcPaymentAmount} (hAmount : 0 ≤ amount.amount) :
    0 ≤ (config.fee amount).amount := by
  unfold fee DepositFeeCalculator.onChainDepositFee
  split_ifs
  · exact hValid.depositDefaultMin_nonneg
  · exact le_refl 0
  · -- the basis points of a non-negative amount, bounded below by those of zero
    have hMono := mulBasisPoints_mono (c := .Btc) hValid.depositRatioAsBasisPoints_nonneg
      (a := ZERO_SATS) (le_refl 0) hAmount
    have hZero : (mulBasisPoints ZERO_SATS config.depositRatioAsBasisPoints).amount = 0 := by
      simp [mulBasisPoints, divRound, ZERO_SATS]
    rw [hZero] at hMono
    exact hMono

end DepositFeesConfig

-- ============================================================================
-- Pricing the output
-- ============================================================================

/-- `AmountLessThanFeeError` and the errors `WalletAddressReceiver` passes on. -/
inductive WalletAddressReceiverError (E : Type) where
  | dealerPriceService (e : E)
  | invalidZeroAmountPriceRatioInput
  | amountLessThanFee (message : String)
  deriving DecidableEq, Repr

/-- `WalletAddressReceiver`: the credits and bank fees of a received output. -/
structure WalletAddressReceiver where
  btcToCreditReceiver : BtcPaymentAmount
  usdToCreditReceiver : UsdPaymentAmount
  usdBankFee : UsdPaymentAmount
  btcBankFee : BtcPaymentAmount
  deriving DecidableEq, Repr

/-- `settlementAmounts()` for a wallet of currency `c`: its credit and its bank
    fee. -/
def WalletAddressReceiver.settlementAmounts (r : WalletAddressReceiver) :
    (c : WalletCurrency) → PaymentAmount c × PaymentAmount c
  | .Btc => (r.btcToCreditReceiver, r.btcBankFee)
  | .Usd => (r.usdToCreditReceiver, r.usdBankFee)

@[simp] theorem WalletAddressReceiver.settlementAmounts_fst_amount (r : WalletAddressReceiver)
    (c : WalletCurrency) :
    (r.settlementAmounts c).1.amount = amountIn c r.btcToCreditReceiver r.usdToCreditReceiver := by
  cases c <;> rfl

section Receiver

variable {E : Type}

/-- `usdFromBtcFn`: the mid price for a BTC wallet, the dealer's for a USD one. -/
def usdFromBtcFn (recipientCurrency : WalletCurrency)
    (usdFromBtc usdFromBtcMidPrice : BtcPaymentAmount → Except E UsdPaymentAmount) :
    BtcPaymentAmount → Except E UsdPaymentAmount :=
  if recipientCurrency = .Btc then usdFromBtcMidPrice else usdFromBtc

/-- With one answer from both services, the quote is that answer. -/
@[simp] theorem usdFromBtcFn_const (recipientCurrency : WalletCurrency)
    (quote : Except E UsdPaymentAmount) (receivedBtc : BtcPaymentAmount) :
    usdFromBtcFn recipientCurrency (fun _ => quote) (fun _ => quote) receivedBtc = quote := by
  unfold usdFromBtcFn
  split <;> rfl

/-- `WalletAddressReceiver(...)`: the output priced at the mid price for a BTC
    wallet and at the dealer's for a USD one, refused when a credit net of the
    fee is not positive. -/
def walletAddressReceiver (recipientCurrency : WalletCurrency)
    (receivedBtc satsFee : BtcPaymentAmount)
    (usdFromBtc usdFromBtcMidPrice : BtcPaymentAmount → Except E UsdPaymentAmount) :
    Except (WalletAddressReceiverError E) WalletAddressReceiver :=
  match usdFromBtcFn recipientCurrency usdFromBtc usdFromBtcMidPrice receivedBtc with
  | .error e => .error (.dealerPriceService e)
  | .ok receivedUsd =>
    match WalletPriceRatio.of receivedUsd receivedBtc with
    | .error _ => .error .invalidZeroAmountPriceRatioInput
    | .ok priceRatio =>
      let usdBankFee := priceRatio.convertFromBtcToCeil satsFee
      let btcToCreditReceiver := sub receivedBtc satsFee
      let usdToCreditReceiver := sub receivedUsd usdBankFee
      if btcToCreditReceiver.amount ≤ 0 ∨ usdToCreditReceiver.amount ≤ 0 then
        .error (.amountLessThanFee (toString receivedBtc.amount))
      else .ok ⟨btcToCreditReceiver, usdToCreditReceiver, usdBankFee, satsFee⟩

/-- What an accepted output holds: the bank fee is the sats fee, the sats credit
    and fee add up to the output, both credits are positive, and the cents fee
    is non-negative, and positive on a positive sats fee. -/
structure WalletAddressReceiver.Sound (receivedBtc satsFee : BtcPaymentAmount)
    (r : WalletAddressReceiver) : Prop where
  btcBankFee_eq : r.btcBankFee = satsFee
  btc_add : r.btcToCreditReceiver.amount + r.btcBankFee.amount = receivedBtc.amount
  btc_pos : 0 < r.btcToCreditReceiver.amount
  usd_pos : 0 < r.usdToCreditReceiver.amount
  usdBankFee_nonneg : 0 ≤ r.usdBankFee.amount
  usdBankFee_pos : 0 < r.btcBankFee.amount → 0 < r.usdBankFee.amount

/-- `divCeil` rounds up, on a negative amount too. -/
theorem AmountCalculator.le_divCeil_mul {c : WalletCurrency} (a : PaymentAmount c) {b : ℤ}
    (hb : 0 < b) : a.amount ≤ (divCeil a b).amount * b := by
  have hDiv := Int.tmod_add_mul_tdiv a.amount b
  have hLt := Int.tmod_lt_of_pos a.amount hb
  by_cases hMod : 0 < a.amount.tmod b
  · -- a positive remainder moves the quotient up by one
    have hUp : (divCeil a b).amount = a.amount.tdiv b + 1 := by simp [divCeil, hMod]
    rw [hUp, add_mul, one_mul]
    linarith [mul_comm b (a.amount.tdiv b)]
  · have hDown : (divCeil a b).amount = a.amount.tdiv b := by simp [divCeil, hMod]
    rw [hDown]
    linarith [mul_comm b (a.amount.tdiv b)]

/-- A negative quote never leaves a positive cents credit: the fee, a part of
    the output, costs at least the whole quote. -/
theorem sub_convertFromBtcToCeil_nonpos {ratio : WalletPriceRatio}
    {receivedUsd : UsdPaymentAmount} {receivedBtc satsFee : BtcPaymentAmount}
    (hRatio : ratio.priceRatio.other = receivedUsd.amount ∧
      ratio.priceRatio.walletAmount = receivedBtc)
    (hUsd : receivedUsd.amount ≤ 0) (hBtc : 0 < receivedBtc.amount)
    (hFeeLe : satsFee.amount ≤ receivedBtc.amount) :
    receivedUsd.amount - (ratio.convertFromBtcToCeil satsFee).amount ≤ 0 := by
  obtain ⟨hOther, hWallet⟩ := hRatio
  have hCeil := le_divCeil_mul (c := .Btc) ⟨satsFee.amount * ratio.priceRatio.other⟩
    (b := ratio.priceRatio.walletAmount.amount) (hWallet ▸ hBtc)
  have hFeeUsd : (ratio.convertFromBtcToCeil satsFee).amount =
      (divCeil (c := .Btc) ⟨satsFee.amount * ratio.priceRatio.other⟩
        ratio.priceRatio.walletAmount.amount).amount := rfl
  rw [hOther, hWallet] at hCeil hFeeUsd
  rw [hFeeUsd]
  -- the fee's price times the output is at least the quote times the output
  have hScaled : receivedUsd.amount * receivedBtc.amount ≤ satsFee.amount * receivedUsd.amount :=
    by nlinarith
  nlinarith

section Accepted

variable {recipientCurrency : WalletCurrency} {receivedBtc satsFee : BtcPaymentAmount}
  {usdFromBtc usdFromBtcMidPrice : BtcPaymentAmount → Except E UsdPaymentAmount}
  {r : WalletAddressReceiver}

/-- What `walletAddressReceiver` accepts: the quote it asked for, the ratio of
    the quote and the output, and both credits net of the fee positive. -/
theorem walletAddressReceiver_ok
    (h : walletAddressReceiver recipientCurrency receivedBtc satsFee usdFromBtc
      usdFromBtcMidPrice = .ok r) :
    ∃ receivedUsd ratio,
      usdFromBtcFn recipientCurrency usdFromBtc usdFromBtcMidPrice receivedBtc = .ok receivedUsd ∧
      WalletPriceRatio.of receivedUsd receivedBtc = .ok ratio ∧
      0 < (sub receivedBtc satsFee).amount ∧
      0 < (sub receivedUsd (ratio.convertFromBtcToCeil satsFee)).amount ∧
      r = ⟨sub receivedBtc satsFee, sub receivedUsd (ratio.convertFromBtcToCeil satsFee),
        ratio.convertFromBtcToCeil satsFee, satsFee⟩ := by
  unfold walletAddressReceiver at h
  split at h
  · cases h
  · rename_i receivedUsd hQuote
    split at h
    · cases h
    · rename_i ratio hRatio
      dsimp only at h
      split_ifs at h with hGuard
      cases h
      simp only [not_or, not_le] at hGuard
      exact ⟨receivedUsd, ratio, hQuote, hRatio, hGuard.1, hGuard.2, rfl⟩

/-- An accepted output was priced at a positive quote: with a non-negative fee,
    a quote of no cents or fewer leaves no cents to credit. -/
theorem WalletAddressReceiver.quote_pos_of_eq_ok (hFee : 0 ≤ satsFee.amount)
    (h : walletAddressReceiver recipientCurrency receivedBtc satsFee usdFromBtc
      usdFromBtcMidPrice = .ok r) :
    ∃ receivedUsd,
      usdFromBtcFn recipientCurrency usdFromBtc usdFromBtcMidPrice receivedBtc = .ok receivedUsd ∧
      0 < receivedUsd.amount := by
  obtain ⟨receivedUsd, ratio, hQuote, hRatio, hBtcCredit, hUsdCredit, -⟩ :=
    walletAddressReceiver_ok h
  refine ⟨receivedUsd, hQuote, ?_⟩
  simp only [sub_amount] at hBtcCredit hUsdCredit
  have hBtc : 0 < receivedBtc.amount := by omega
  have hFeeLe : satsFee.amount ≤ receivedBtc.amount := by omega
  by_contra hNeg
  have hNonpos := sub_convertFromBtcToCeil_nonpos (WalletPriceRatio.of_ok hRatio)
    (not_lt.mp hNeg) hBtc hFeeLe
  omega

/-- Every output `walletAddressReceiver` accepts, with a non-negative fee. -/
theorem WalletAddressReceiver.sound_of_eq_ok (hFee : 0 ≤ satsFee.amount)
    (h : walletAddressReceiver recipientCurrency receivedBtc satsFee usdFromBtc
      usdFromBtcMidPrice = .ok r) :
    WalletAddressReceiver.Sound receivedBtc satsFee r := by
  obtain ⟨receivedUsd, hQuote, hUsd⟩ := WalletAddressReceiver.quote_pos_of_eq_ok hFee h
  obtain ⟨receivedUsd', ratio, hQuote', hRatio, hBtcCredit, hUsdCredit, rfl⟩ :=
    walletAddressReceiver_ok h
  -- both lemmas read the one quote
  have hSame : receivedUsd' = receivedUsd := Except.ok.inj (hQuote'.symm.trans hQuote)
  subst hSame
  have hBtc : 0 < receivedBtc.amount := by
    simp only [sub_amount] at hBtcCredit
    omega
  obtain ⟨hNonneg, hPos, -⟩ :=
    WalletPriceRatio.convertFromBtcToCeil_bounds (WalletPriceRatio.of_ok hRatio) hUsd hBtc hFee
  exact ⟨rfl, by simp [sub], hBtcCredit, hUsdCredit, hNonneg, hPos⟩

/-- `walletAddressReceiver` reads the price services only through the quote. -/
theorem walletAddressReceiver_congr_quote
    {usdFromBtc' usdFromBtcMidPrice' : BtcPaymentAmount → Except E UsdPaymentAmount}
    (hQuote : usdFromBtcFn recipientCurrency usdFromBtc usdFromBtcMidPrice receivedBtc =
      usdFromBtcFn recipientCurrency usdFromBtc' usdFromBtcMidPrice' receivedBtc) :
    walletAddressReceiver recipientCurrency receivedBtc satsFee usdFromBtc usdFromBtcMidPrice =
      walletAddressReceiver recipientCurrency receivedBtc satsFee usdFromBtc' usdFromBtcMidPrice' := by
  unfold walletAddressReceiver
  rw [hQuote]

end Accepted

end Receiver

-- ============================================================================
-- Recording the receipt
-- ============================================================================

section Recording

variable {Entry : Type} (ops : MediciEntryOps Entry)

/-- `recordReceiveOnChain`: the entry it hands to `persistAndReturnEntry`.
    Unlike the off-chain receipt, it gives the builder no external id. -/
def recordReceiveOnChain (accountIds : StaticAccountIds) (entry : Entry)
    (receiveArgs : RecordReceiveArgs) : Entry :=
  let actualFee := receiveArgs.bankFee.getD ⟨ZERO_SATS, ZERO_CENTS⟩
  let builder : EntryBuilderConfig Entry :=
    { staticAccountIds := accountIds
      externalId := none
      entry
      metadata := receiveArgs.metadata
      additionalInternalMetadata := receiveArgs.additionalInternalMetadata }
  let usdWithFees := add receiveArgs.amountToCreditReceiver.usd actualFee.usd
  let btcWithFees := add receiveArgs.amountToCreditReceiver.btc actualFee.btc
  EntryBuilderCredit.creditAccount ops
    (EntryBuilderDebit.debitOnChain ops
      (EntryBuilderFee.withBankFee ops
        (EntryBuilder.withTotalAmount builder usdWithFees btcWithFees) actualFee.btc actualFee.usd))
    (toLedgerAccountDescriptor receiveArgs.recipientWalletDescriptor)
    (some receiveArgs.additionalCreditMetadata)

/-- The arguments `addSettledTransactionBeforeFinally` passes for a priced
    output. -/
def onChainReceiveRecordArgs (wallet : WalletDescriptor) (r : WalletAddressReceiver)
    (metadata additionalCreditMetadata additionalInternalMetadata : TxMetadata) :
    RecordReceiveArgs where
  recipientWalletDescriptor := wallet
  amountToCreditReceiver := ⟨r.btcToCreditReceiver, r.usdToCreditReceiver⟩
  bankFee := some ⟨r.btcBankFee, r.usdBankFee⟩
  externalId := none
  metadata
  additionalCreditMetadata
  additionalInternalMetadata

/-- The journal of an on-chain receipt is the legs of one builder chain: the
    on-chain asset debited, the recipient credited. -/
theorem transactions_recordReceiveOnChain (hops : ops.Lawful) (accountIds : StaticAccountIds)
    (entry : Entry) (hfresh : ops.transactions entry = []) (receiveArgs : RecordReceiveArgs) :
    let actualFee := receiveArgs.bankFee.getD ⟨ZERO_SATS, ZERO_CENTS⟩
    ops.transactions (recordReceiveOnChain ops accountIds entry receiveArgs) =
      (entryLegs ⟨accountIds, none, entry, receiveArgs.metadata,
          receiveArgs.additionalInternalMetadata⟩
        (add receiveArgs.amountToCreditReceiver.usd actualFee.usd)
        (add receiveArgs.amountToCreditReceiver.btc actualFee.btc) actualFee.btc actualFee.usd
        (onChainLedgerAccountDescriptor, some receiveArgs.additionalInternalMetadata)
        (toLedgerAccountDescriptor receiveArgs.recipientWalletDescriptor,
          some receiveArgs.additionalCreditMetadata)).filter Journal.nonZero := by
  intro actualFee
  rw [show recordReceiveOnChain ops accountIds entry receiveArgs =
      (CreditMethod.creditAccount (toLedgerAccountDescriptor receiveArgs.recipientWalletDescriptor)
        (some receiveArgs.additionalCreditMetadata)).call ops
        (DebitMethod.debitOnChain.call ops _) from rfl,
    transactions_chain ops hops]
  simp only [hfresh, List.nil_append]
  rfl

open Journal in
/-- The journal of an accepted output: balanced, the on-chain asset debited
    every sat, the bank owner credited the sats fee, and the wallet credited its
    settlement amount, which is positive. -/
theorem onChainReceiptJournal_of_sound (hops : ops.Lawful) {accountIds : StaticAccountIds}
    {entry : Entry} (hfresh : ops.transactions entry = []) {wallet : WalletDescriptor}
    {receivedBtc satsFee : BtcPaymentAmount} {r : WalletAddressReceiver}
    (hSound : r.Sound receivedBtc satsFee) (hFee : 0 ≤ satsFee.amount)
    (hbankDealer : accountIds.bankOwnerAccountId ≠ accountIds.dealerBtcAccountId)
    (hbank : toLedgerAccountId wallet.id ≠ accountIds.bankOwnerAccountId)
    (hdealer : toLedgerAccountId wallet.id ≠ accountIds.dealerUsdAccountId)
    (metadata additionalCreditMetadata additionalInternalMetadata : TxMetadata) :
    let txns := ops.transactions (recordReceiveOnChain ops accountIds entry
      (onChainReceiveRecordArgs wallet r metadata additionalCreditMetadata
        additionalInternalMetadata))
    Balanced txns ∧
      total (atAccount onChainLedgerAccountId .Btc) (·.debit) txns = receivedBtc.amount ∧
      total (atAccount (toLedgerAccountId wallet.id) wallet.currency) (·.credit) txns =
        (r.settlementAmounts wallet.currency).1.amount ∧
      0 < (r.settlementAmounts wallet.currency).1.amount ∧
      total (atAccount accountIds.bankOwnerAccountId .Btc) (·.credit) txns = satsFee.amount := by
  intro txns
  obtain ⟨hBankFee, hBtcAdd, hBtcPos, hUsdPos, hNonneg, hPos⟩ := hSound
  have hTxns := transactions_recordReceiveOnChain ops hops accountIds entry hfresh
    (onChainReceiveRecordArgs wallet r metadata additionalCreditMetadata additionalInternalMetadata)
  simp only [onChainReceiveRecordArgs, Option.getD_some] at hTxns
  change txns = _ at hTxns
  obtain ⟨hBalanced, hOnChain, hCredit, hBank⟩ := receiptLegs_totals
    ⟨accountIds, none, entry, metadata, additionalInternalMetadata⟩
    (onChainLedgerAccountDescriptor, _) (toLedgerAccountDescriptor wallet, _) rfl
    (hBankFee ▸ hFee) hNonneg hPos hbankDealer hbank hdealer
  rw [← hTxns] at hBalanced hOnChain hCredit hBank
  refine ⟨hBalanced, ?_, ?_, ?_, ?_⟩
  · rw [show onChainLedgerAccountId = onChainLedgerAccountDescriptor.id from rfl, hOnChain,
      hBtcAdd]
  · rw [WalletAddressReceiver.settlementAmounts_fst_amount]
    exact hCredit
  · -- both credits are positive, so the wallet's is, in either currency
    rw [WalletAddressReceiver.settlementAmounts_fst_amount]
    cases wallet.currency
    · exact hBtcPos
    · exact hUsdPos
  · rw [hBank, hBankFee]

end Recording

-- ============================================================================
-- Runs of the bria handlers for one output
-- ============================================================================

/-- The output of a bria event (`txId`, `vout`, `satoshis`), with the wallet
    that `findByAddress` finds for its `address`. -/
structure OnChainUtxo where
  txHash : String
  vout : ℕ
  satoshis : BtcPaymentAmount
  wallet : WalletDescriptor
  /-- bria reports sats as an unsigned amount -/
  satoshis_nonneg : 0 ≤ satoshis.amount

/-- An on-chain receipt row of the ledger: the credited wallet, the hash of the
    transaction, and its output, which older rows lack. -/
structure OnChainReceiptRow where
  walletId : String
  hash : String
  vout : Option ℕ
  deriving DecidableEq, Repr

/-- `isOnChainReceiptTxRecordedForWallet`: a receipt row of the wallet with the
    hash, and with the output or with none. -/
def isOnChainReceiptTxRecordedForWallet (rows : List OnChainReceiptRow) (walletId txHash : String)
    (vout : ℕ) : Bool :=
  rows.any fun row =>
    row.walletId == walletId && row.hash == txHash && (row.vout.isNone || row.vout == some vout)

/-- `WalletOnChainPendingTransaction`, without its display amounts, its date
    and how it was initiated and settled. -/
structure WalletOnChainPendingTransaction where
  walletId : String
  settlementCurrency : WalletCurrency
  settlementAmount : PaymentAmount settlementCurrency
  settlementFee : PaymentAmount settlementCurrency

/-- The pending record `addPendingTransaction` persists for a priced output. -/
def pendingTransaction (wallet : WalletDescriptor) (r : WalletAddressReceiver) :
    WalletOnChainPendingTransaction :=
  ⟨wallet.id, wallet.currency, (r.settlementAmounts wallet.currency).1,
    (r.settlementAmounts wallet.currency).2⟩

/-- The row `recordReceiveOnChain` writes for the output. -/
def OnChainUtxo.receiptRow (utxo : OnChainUtxo) : OnChainReceiptRow :=
  ⟨utxo.wallet.id, utxo.txHash, some utxo.vout⟩

/-- The two handlers of an output's events. -/
inductive DepositHandler where
  /-- `addPendingTransaction`, for `utxo_detected` -/
  | addPendingTransaction
  /-- `addSettledTransaction`, for `utxo_settled` -/
  | addSettledTransaction
  deriving DecidableEq, Repr

/-- Where a handler's run stands. -/
inductive DepositStep where
  | started
  /-- inside `lockOnChainTxHashAndVout` -/
  | locked
  /-- the ledger has no receipt of the output -/
  | unrecorded
  /-- `addSettledTransactionBeforeFinally` has returned, the receipt recorded -/
  | returned
  /-- the pending record is removed and the handler returns `true` -/
  | done
  | finished
  deriving DecidableEq, Repr

/-- The steps inside the lock. -/
def DepositStep.holdsLock : DepositStep → Bool
  | .locked | .unrecorded => true
  | _ => false

structure DepositRun where
  handler : DepositHandler
  step : DepositStep
  deriving DecidableEq, Repr

/-- The ledger's on-chain receipt rows, the receipts the runs recorded, the
    output's pending record, its lock, and the runs started so far. -/
structure DepositRuns where
  rows : List OnChainReceiptRow
  receipts : List WalletAddressReceiver
  pending : Option WalletOnChainPendingTransaction
  lock : Option ℕ
  runs : ℕ → Option DepositRun

/-- The next call of one run. -/
inductive DepositRunAction (E : Type) where
  /-- the dust check, then `lockOnChainTxHashAndVout` -/
  | lock
  | isOnChainReceiptTxRecordedForWallet
  /-- `WalletAddressReceiver` with the price services' answers, then the write -/
  | receive (usdFromBtc usdFromBtcMidPrice : Except E UsdPaymentAmount)
  /-- `WalletOnChainPendingReceiveRepository().remove` after the lock -/
  | remove

inductive DepositAction (E : Type) where
  /-- bria delivers an event of the output -/
  | start (i : ℕ) (handler : DepositHandler)
  | step (i : ℕ) (a : DepositRunAction E)
  | crash (i : ℕ)

namespace DepositRuns

/-- No event delivered yet, over a ledger with on-chain receipt rows `rows`. -/
def initial (rows : List OnChainReceiptRow) : DepositRuns :=
  ⟨rows, [], none, none, fun _ => none⟩

def setRun (s : DepositRuns) (i : ℕ) (run : DepositRun) : DepositRuns :=
  { s with runs := Function.update s.runs i (some run) }

/-- The lock is released only by its holder. -/
def release (s : DepositRuns) (i : ℕ) : DepositRuns :=
  if s.lock = some i then { s with lock := none } else s

/-- `recordReceiveOnChain`: the receipt and its row. -/
def record (s : DepositRuns) (row : OnChainReceiptRow) (r : WalletAddressReceiver) : DepositRuns :=
  { s with rows := s.rows ++ [row], receipts := s.receipts ++ [r] }

section Step

variable {E : Type} (dustThreshold : ℤ) (fees : DepositFeesConfig) (utxo : OnChainUtxo)

/-- What `isOnChainReceiptTxRecordedForWallet` answers for the output. -/
def recorded (s : DepositRuns) : Bool :=
  isOnChainReceiptTxRecordedForWallet s.rows utxo.wallet.id utxo.txHash utxo.vout

/-- The dust check: an output below the threshold ends the run, which the bria
    handler takes as done; otherwise the run waits for the lock. -/
def lockRun (s : DepositRuns) (i : ℕ) (handler : DepositHandler) : Option DepositRuns :=
  if utxo.satoshis.amount < dustThreshold then some (s.setRun i ⟨handler, .finished⟩)
  else if s.lock = none then some { s.setRun i ⟨handler, .locked⟩ with lock := some i }
  else none

/-- The ledger read inside the lock.  A recorded output ends a pending run,
    which removes the pending record, and returns from a settled one. -/
def checkRun (s : DepositRuns) (i : ℕ) : DepositHandler → DepositRuns
  | .addPendingTransaction =>
    if recorded utxo s then
      ({ s with pending := none }.setRun i ⟨.addPendingTransaction, .finished⟩).release i
    else s.setRun i ⟨.addPendingTransaction, .unrecorded⟩
  | .addSettledTransaction =>
    if recorded utxo s then (s.setRun i ⟨.addSettledTransaction, .returned⟩).release i
    else s.setRun i ⟨.addSettledTransaction, .unrecorded⟩

/-- `WalletAddressReceiver` and the write, each run's last step inside the lock.
    `persistNew` keeps a pending record already there (a duplicate key). -/
def receiveRun (s : DepositRuns) (i : ℕ) (handler : DepositHandler)
    (usdFromBtc usdFromBtcMidPrice : Except E UsdPaymentAmount) : DepositRuns :=
  match walletAddressReceiver utxo.wallet.currency utxo.satoshis (fees.fee utxo.satoshis)
      (fun _ => usdFromBtc) (fun _ => usdFromBtcMidPrice), handler with
  | .error _, handler => (s.setRun i ⟨handler, .finished⟩).release i
  | .ok r, .addPendingTransaction =>
    ({ s with pending := some (s.pending.getD (pendingTransaction utxo.wallet r)) }.setRun i
      ⟨.addPendingTransaction, .finished⟩).release i
  | .ok r, .addSettledTransaction =>
    ((s.record utxo.receiptRow r).setRun i ⟨.addSettledTransaction, .returned⟩).release i

/-- The pending record removed after the lock. -/
def removeRun (s : DepositRuns) (i : ℕ) : DepositRuns :=
  { s.setRun i ⟨.addSettledTransaction, .done⟩ with pending := none }

/-- A run that crashes ends, and the lease of the lock it holds expires. -/
def crashRun (s : DepositRuns) (i : ℕ) (run : DepositRun) : DepositRuns :=
  (s.setRun i ⟨run.handler, .finished⟩).release i

/-- One step of run `i`. -/
def runStep (s : DepositRuns) (i : ℕ) (run : DepositRun) :
    DepositRunAction E → Option DepositRuns
  | .lock => if run.step = .started then lockRun dustThreshold utxo s i run.handler else none
  | .isOnChainReceiptTxRecordedForWallet =>
    if run.step = .locked then some (checkRun utxo s i run.handler) else none
  | .receive usdFromBtc usdFromBtcMidPrice =>
    if run.step = .unrecorded then
      some (receiveRun fees utxo s i run.handler usdFromBtc usdFromBtcMidPrice)
    else none
  | .remove =>
    if run = ⟨.addSettledTransaction, .returned⟩ then some (s.removeRun i) else none

def next (s : DepositRuns) : DepositAction E → Option DepositRuns
  | .start i handler => if s.runs i = none then some (s.setRun i ⟨handler, .started⟩) else none
  | .step i a =>
    match s.runs i with
    | some run => runStep dustThreshold fees utxo s i run a
    | none => none
  | .crash i => (s.runs i).map (s.crashRun i)

end Step

-- ============================================================================
-- Field lemmas
-- ============================================================================

section Fields

variable (s : DepositRuns) (i : ℕ) (run : DepositRun) (row : OnChainReceiptRow)
  (r : WalletAddressReceiver)

@[simp] theorem setRun_rows : (s.setRun i run).rows = s.rows := rfl
@[simp] theorem setRun_receipts : (s.setRun i run).receipts = s.receipts := rfl
@[simp] theorem setRun_pending : (s.setRun i run).pending = s.pending := rfl
@[simp] theorem setRun_lock : (s.setRun i run).lock = s.lock := rfl
@[simp] theorem setRun_runs : (s.setRun i run).runs = Function.update s.runs i (some run) := rfl

@[simp] theorem release_rows : (s.release i).rows = s.rows := by
  unfold release; split <;> rfl
@[simp] theorem release_receipts : (s.release i).receipts = s.receipts := by
  unfold release; split <;> rfl
@[simp] theorem release_pending : (s.release i).pending = s.pending := by
  unfold release; split <;> rfl
@[simp] theorem release_runs : (s.release i).runs = s.runs := by
  unfold release; split <;> rfl

theorem release_lock : (s.release i).lock = if s.lock = some i then none else s.lock := by
  unfold release; split <;> rfl

variable (utxo : OnChainUtxo)

@[simp] theorem recorded_setRun : recorded utxo (s.setRun i run) = recorded utxo s := rfl
@[simp] theorem recorded_release : recorded utxo (s.release i) = recorded utxo s := by
  simp [recorded]

@[simp] theorem record_rows : (s.record row r).rows = s.rows ++ [row] := rfl
@[simp] theorem record_receipts : (s.record row r).receipts = s.receipts ++ [r] := rfl
@[simp] theorem record_pending : (s.record row r).pending = s.pending := rfl
@[simp] theorem record_lock : (s.record row r).lock = s.lock := rfl
@[simp] theorem record_runs : (s.record row r).runs = s.runs := rfl

/-- A run of the updated map is the new one, or an old one of another index. -/
theorem runs_setRun_eq_some {j : ℕ} {run' : DepositRun}
    (h : (s.setRun i run).runs j = some run') :
    (j = i ∧ run' = run) ∨ (j ≠ i ∧ s.runs j = some run') := by
  by_cases hji : j = i
  · subst hji
    rw [setRun_runs, Function.update_self, Option.some.injEq] at h
    exact .inl ⟨rfl, h.symm⟩
  · rw [setRun_runs, Function.update_of_ne hji] at h
    exact .inr ⟨hji, h⟩

end Fields

-- ============================================================================
-- The invariant
-- ============================================================================

section Safety

variable {E : Type} (fees : DepositFeesConfig) (utxo : OnChainUtxo)

/-- A receipt `walletAddressReceiver` made for the output, at some answers of the
    price services. -/
def Priced (r : WalletAddressReceiver) : Prop :=
  ∃ usdFromBtc usdFromBtcMidPrice : Except E UsdPaymentAmount,
    walletAddressReceiver utxo.wallet.currency utxo.satoshis (fees.fee utxo.satoshis)
      (fun _ => usdFromBtc) (fun _ => usdFromBtcMidPrice) = .ok r

variable (E) (rows₀ : List OnChainReceiptRow)

/-- What holds in every state the runs reach from a ledger with rows `rows₀`. -/
structure Safe (s : DepositRuns) : Prop where
  /-- a run inside the lock holds it -/
  lock_holder : ∀ i run, s.runs i = some run → run.step.holdsLock → s.lock = some i
  /-- a run that found no receipt still finds none -/
  unrecorded : ∀ i run, s.runs i = some run → run.step = .unrecorded → recorded utxo s = false
  returned : ∀ i run, s.runs i = some run → run.step = .returned → recorded utxo s = true
  done : ∀ i run, s.runs i = some run → run.step = .done →
    recorded utxo s = true ∧ s.pending = none
  /-- each receipt added the output's row -/
  rows_eq : s.rows = rows₀ ++ s.receipts.map fun _ => utxo.receiptRow
  receipts_le : s.receipts.length ≤ 1
  receipts_nil :
    isOnChainReceiptTxRecordedForWallet rows₀ utxo.wallet.id utxo.txHash utxo.vout →
      s.receipts = []
  receipt_priced : ∀ r ∈ s.receipts, Priced (E := E) fees utxo r

variable {E fees utxo rows₀} {s : DepositRuns} {i : ℕ}

theorem safe_initial : Safe E fees utxo rows₀ (initial rows₀) where
  lock_holder _ _ h := by cases h
  unrecorded _ _ h := by cases h
  returned _ _ h := by cases h
  done _ _ h := by cases h
  rows_eq := by simp [initial]
  receipts_le := by simp [initial]
  receipts_nil _ := rfl
  receipt_priced _ h := by cases h

/-- The output's own row answers the ledger read. -/
theorem recorded_receiptRow (rows : List OnChainReceiptRow) :
    isOnChainReceiptTxRecordedForWallet (rows ++ [utxo.receiptRow]) utxo.wallet.id utxo.txHash
      utxo.vout = true := by
  simp [isOnChainReceiptTxRecordedForWallet, OnChainUtxo.receiptRow]

/-- While the ledger has no receipt of the output, no run has recorded one. -/
theorem Safe.receipts_eq_nil (hs : Safe E fees utxo rows₀ s) (hRec : recorded utxo s = false) :
    s.receipts = [] ∧
      isOnChainReceiptTxRecordedForWallet rows₀ utxo.wallet.id utxo.txHash utxo.vout = false := by
  unfold recorded at hRec
  rw [hs.rows_eq] at hRec
  cases hReceipts : s.receipts with
  | nil =>
    simp only [hReceipts, List.map_nil, List.append_nil] at hRec
    exact ⟨rfl, hRec⟩
  | cons r rest =>
    -- the row of the first receipt is found
    simp [isOnChainReceiptTxRecordedForWallet, hReceipts, OnChainUtxo.receiptRow] at hRec

/-- Setting a run to a step outside the lock with nothing to witness. -/
theorem Safe.setRun_idle (hs : Safe E fees utxo rows₀ s) {run : DepositRun}
    (hIdle : run.step = .started ∨ run.step = .finished) :
    Safe E fees utxo rows₀ (s.setRun i run) := by
  have hNot : run.step.holdsLock = false ∧ run.step ≠ .unrecorded ∧ run.step ≠ .returned ∧
      run.step ≠ .done := by
    rcases hIdle with h | h <;> simp [h, DepositStep.holdsLock]
  refine ⟨fun j run' h hLock => ?_, fun j run' h hStep => ?_, fun j run' h hStep => ?_,
    fun j run' h hStep => ?_, hs.rows_eq, hs.receipts_le, hs.receipts_nil, hs.receipt_priced⟩ <;>
  rcases runs_setRun_eq_some s i run h with ⟨-, rfl⟩ | ⟨-, hj⟩
  · simp [hNot.1] at hLock
  · exact hs.lock_holder j run' hj hLock
  · exact absurd hStep hNot.2.1
  · exact hs.unrecorded j run' hj hStep
  · exact absurd hStep hNot.2.2.1
  · exact hs.returned j run' hj hStep
  · exact absurd hStep hNot.2.2.2
  · exact hs.done j run' hj hStep

/-- Releasing the lock of a run outside it. -/
theorem Safe.release (hs : Safe E fees utxo rows₀ s)
    (hOut : ∀ run, s.runs i = some run → run.step.holdsLock = false) :
    Safe E fees utxo rows₀ (s.release i) := by
  refine ⟨fun j run h hLock => ?_, fun j run h hStep => ?_, fun j run h hStep => ?_,
    fun j run h hStep => ?_, by simpa using hs.rows_eq, by simpa using hs.receipts_le,
    by simpa using hs.receipts_nil, by simpa using hs.receipt_priced⟩
  · rw [release_runs] at h
    have hHeld := hs.lock_holder j run h hLock
    -- the holder is `j`, which is not `i`
    have hji : j ≠ i := by
      rintro rfl
      rw [hOut run h] at hLock
      cases hLock
    rw [release_lock, hHeld, if_neg (by simp [hji])]
  · simpa using hs.unrecorded j run (by simpa using h) hStep
  · simpa using hs.returned j run (by simpa using h) hStep
  · simpa using hs.done j run (by simpa using h) hStep

/-- Removing the pending record. -/
theorem Safe.clearPending (hs : Safe E fees utxo rows₀ s) :
    Safe E fees utxo rows₀ { s with pending := none } where
  lock_holder := hs.lock_holder
  unrecorded := hs.unrecorded
  returned := hs.returned
  done j run h hStep := ⟨(hs.done j run h hStep).1, rfl⟩
  rows_eq := hs.rows_eq
  receipts_le := hs.receipts_le
  receipts_nil := hs.receipts_nil
  receipt_priced := hs.receipt_priced

/-- Taking the free lock. -/
theorem Safe.acquire (hs : Safe E fees utxo rows₀ s) (hFree : s.lock = none)
    (handler : DepositHandler) :
    Safe E fees utxo rows₀ { s.setRun i ⟨handler, .locked⟩ with lock := some i } := by
  refine ⟨fun j run h hLock => ?_, fun j run h hStep => ?_, fun j run h hStep => ?_,
    fun j run h hStep => ?_, hs.rows_eq, hs.receipts_le, hs.receipts_nil, hs.receipt_priced⟩ <;>
  rcases runs_setRun_eq_some s i _ h with ⟨rfl, rfl⟩ | ⟨-, hj⟩
  · rfl
  · -- no other run held the free lock
    have := hs.lock_holder j run hj hLock
    rw [hFree] at this
    cases this
  · cases hStep
  · exact hs.unrecorded j run hj hStep
  · cases hStep
  · exact hs.returned j run hj hStep
  · cases hStep
  · exact hs.done j run hj hStep

/-- The holder of the lock finds no receipt. -/
theorem Safe.setRun_unrecorded (hs : Safe E fees utxo rows₀ s) (hLock : s.lock = some i)
    (hRec : recorded utxo s = false) (handler : DepositHandler) :
    Safe E fees utxo rows₀ (s.setRun i ⟨handler, .unrecorded⟩) := by
  refine ⟨fun j run h hHolds => ?_, fun j run h hStep => ?_, fun j run h hStep => ?_,
    fun j run h hStep => ?_, hs.rows_eq, hs.receipts_le, hs.receipts_nil, hs.receipt_priced⟩ <;>
  rcases runs_setRun_eq_some s i _ h with ⟨rfl, rfl⟩ | ⟨-, hj⟩
  · exact hLock
  · exact hs.lock_holder j run hj hHolds
  · exact hRec
  · exact hs.unrecorded j run hj hStep
  · cases hStep
  · exact hs.returned j run hj hStep
  · cases hStep
  · exact hs.done j run hj hStep

/-- A run returns once the receipt is recorded. -/
theorem Safe.setRun_returned (hs : Safe E fees utxo rows₀ s) (hRec : recorded utxo s = true)
    (handler : DepositHandler) :
    Safe E fees utxo rows₀ (s.setRun i ⟨handler, .returned⟩) := by
  refine ⟨fun j run h hHolds => ?_, fun j run h hStep => ?_, fun j run h hStep => ?_,
    fun j run h hStep => ?_, hs.rows_eq, hs.receipts_le, hs.receipts_nil, hs.receipt_priced⟩ <;>
  rcases runs_setRun_eq_some s i _ h with ⟨rfl, rfl⟩ | ⟨-, hj⟩
  · cases hHolds
  · exact hs.lock_holder j run hj hHolds
  · cases hStep
  · exact hs.unrecorded j run hj hStep
  · exact hRec
  · exact hs.returned j run hj hStep
  · cases hStep
  · exact hs.done j run hj hStep

/-- `persistNew` of a pending record, while no receipt is recorded. -/
theorem Safe.persist (hs : Safe E fees utxo rows₀ s) (hRec : recorded utxo s = false)
    {r : WalletAddressReceiver} :
    Safe E fees utxo rows₀
      { s with pending := some (s.pending.getD (pendingTransaction utxo.wallet r)) } where
  lock_holder := hs.lock_holder
  unrecorded := hs.unrecorded
  returned := hs.returned
  -- no run is done while no receipt is recorded
  done j run h hStep := by
    have := (hs.done j run h hStep).1
    rw [hRec] at this
    cases this
  rows_eq := hs.rows_eq
  receipts_le := hs.receipts_le
  receipts_nil := hs.receipts_nil
  receipt_priced := hs.receipt_priced

/-- The receipt recorded by the holder of the lock, which then returns. -/
theorem Safe.record (hs : Safe E fees utxo rows₀ s) (hLock : s.lock = some i)
    (hRec : recorded utxo s = false) {r : WalletAddressReceiver}
    (hr : Priced (E := E) fees utxo r) :
    Safe E fees utxo rows₀
      ((s.record utxo.receiptRow r).setRun i ⟨.addSettledTransaction, .returned⟩) := by
  obtain ⟨hNil, hRows₀⟩ := hs.receipts_eq_nil hRec
  have hRec' : recorded utxo (s.record utxo.receiptRow r) = true := recorded_receiptRow s.rows
  -- a run that found no receipt holds the lock, so it is `i`
  have hOnly : ∀ j run, j ≠ i → s.runs j = some run → run.step ≠ .unrecorded := by
    intro j run hji hj hStep
    have hHeld := hs.lock_holder j run hj (by rw [hStep]; rfl)
    rw [hLock, Option.some.injEq] at hHeld
    exact hji hHeld.symm
  refine ⟨fun j run h hHolds => ?_, fun j run h hStep => ?_, fun j run h hStep => ?_,
    fun j run h hStep => ?_, ?_, ?_, fun h => ?_, fun r' h => ?_⟩
  · rcases runs_setRun_eq_some _ i _ h with ⟨rfl, rfl⟩ | ⟨-, hj⟩
    · cases hHolds
    · exact hs.lock_holder j run hj hHolds
  · rcases runs_setRun_eq_some _ i _ h with ⟨rfl, rfl⟩ | ⟨hji, hj⟩
    · cases hStep
    · exact absurd hStep (hOnly j run hji hj)
  · exact hRec'
  · rcases runs_setRun_eq_some _ i _ h with ⟨rfl, rfl⟩ | ⟨-, hj⟩
    · cases hStep
    · exact ⟨hRec', (hs.done j run hj hStep).2⟩
  · simp [hs.rows_eq]
  · simp [hNil]
  · rw [hRows₀] at h
    cases h
  · simp only [setRun_receipts, record_receipts, hNil, List.nil_append,
      List.mem_singleton] at h
    exact h ▸ hr

/-- The pending record removed by a settled run that returned. -/
theorem Safe.remove (hs : Safe E fees utxo rows₀ s)
    (hRun : s.runs i = some ⟨.addSettledTransaction, .returned⟩) :
    Safe E fees utxo rows₀
      { s.setRun i ⟨.addSettledTransaction, .done⟩ with pending := none } := by
  have hRec := hs.returned i _ hRun rfl
  refine ⟨fun j run h hHolds => ?_, fun j run h hStep => ?_, fun j run h hStep => ?_,
    fun j run h hStep => ?_, hs.rows_eq, hs.receipts_le, hs.receipts_nil, hs.receipt_priced⟩ <;>
  rcases runs_setRun_eq_some s i _ h with ⟨rfl, rfl⟩ | ⟨-, hj⟩
  · cases hHolds
  · exact hs.lock_holder j run hj hHolds
  · cases hStep
  · exact hs.unrecorded j run hj hStep
  · cases hStep
  · exact hs.returned j run hj hStep
  · exact ⟨hRec, rfl⟩
  · exact ⟨(hs.done j run hj hStep).1, rfl⟩

/-- A run ends outside the lock, releasing it if it held it. -/
theorem Safe.finishRun (hs : Safe E fees utxo rows₀ s) (handler : DepositHandler) :
    Safe E fees utxo rows₀ ((s.setRun i ⟨handler, .finished⟩).release i) := by
  refine (hs.setRun_idle (.inr rfl)).release fun run h => ?_
  rw [setRun_runs, Function.update_self, Option.some.injEq] at h
  rw [← h]
  rfl

/-- A run that returned is outside the lock. -/
theorem Safe.returnRun
    (hs : Safe E fees utxo rows₀ (s.setRun i ⟨.addSettledTransaction, .returned⟩)) :
    Safe E fees utxo rows₀ ((s.setRun i ⟨.addSettledTransaction, .returned⟩).release i) := by
  refine hs.release fun run h => ?_
  rw [setRun_runs, Function.update_self, Option.some.injEq] at h
  rw [← h]
  rfl

variable (dustThreshold : ℤ) in
/-- Every step keeps the invariant: one case per call of a run. -/
theorem Safe.next (hs : Safe E fees utxo rows₀ s) {a : DepositAction E} {s' : DepositRuns}
    (h : next dustThreshold fees utxo s a = some s') : Safe E fees utxo rows₀ s' := by
  cases a with
  | start i handler =>
    simp only [DepositRuns.next] at h
    split_ifs at h
    cases h
    exact hs.setRun_idle (.inl rfl)
  | crash i =>
    cases hi : s.runs i with
    | none => simp [DepositRuns.next, hi] at h
    | some run =>
      simp only [DepositRuns.next, hi, Option.map_some, Option.some.injEq] at h
      subst h
      exact hs.finishRun run.handler
  | step i a =>
    cases hi : s.runs i with
    | none => simp [DepositRuns.next, hi] at h
    | some run =>
      obtain ⟨handler, step⟩ := run
      simp only [DepositRuns.next, hi] at h
      cases a with
      | lock =>
        simp only [runStep, lockRun] at h
        split_ifs at h with hStarted hDust hFree <;> cases h
        · exact hs.setRun_idle (.inr rfl)
        · exact hs.acquire hFree handler
      | isOnChainReceiptTxRecordedForWallet =>
        simp only [runStep] at h
        split_ifs at h with hLocked
        cases h
        have hLock := hs.lock_holder i _ hi (by rw [hLocked]; rfl)
        -- the read inside the lock: found ends or returns the run, not found goes on
        cases handler <;> simp only [checkRun] <;> split_ifs with hRec
        · exact hs.clearPending.finishRun _
        · exact hs.setRun_unrecorded hLock (by simpa using hRec) _
        · exact (hs.setRun_returned hRec _).returnRun
        · exact hs.setRun_unrecorded hLock (by simpa using hRec) _
      | receive usdFromBtc usdFromBtcMidPrice =>
        simp only [runStep] at h
        split_ifs at h with hUnrecorded
        cases h
        have hLock := hs.lock_holder i _ hi (by rw [hUnrecorded]; rfl)
        have hRec := hs.unrecorded i _ hi hUnrecorded
        unfold receiveRun
        split
        · exact hs.finishRun _
        · exact (hs.persist hRec).finishRun _
        · rename_i r hOk
          exact (hs.record hLock hRec ⟨_, _, hOk⟩).returnRun
      | remove =>
        simp only [runStep] at h
        split_ifs at h with hReturned
        cases h
        rw [hReturned] at hi
        exact hs.remove hi

variable (dustThreshold : ℤ) in
theorem safe_invariant :
    Invariant (next (E := E) dustThreshold fees utxo) (initial rows₀)
      (Safe E fees utxo rows₀) :=
  ⟨safe_initial, fun _ _ _ hs h => hs.next dustThreshold h⟩

end Safety

-- ============================================================================
-- What the runs guarantee
-- ============================================================================

section Guarantees

variable {E : Type} {dustThreshold : ℤ} {fees : DepositFeesConfig} {utxo : OnChainUtxo}
  {rows₀ : List OnChainReceiptRow} {s : DepositRuns}

/-- Over every interleaving of any number of deliveries of the output's
    `utxo_detected` and `utxo_settled` events, with crashes, the runs record at
    most one receipt of the output, none if the ledger already had its receipt,
    and once a settled run has removed the pending record, there is none. -/
theorem settledUtxo_credited_at_most_once
    (h : Reachable (next (E := E) dustThreshold fees utxo) (initial rows₀) s) :
    s.receipts.length ≤ 1 ∧
      (isOnChainReceiptTxRecordedForWallet rows₀ utxo.wallet.id utxo.txHash utxo.vout = true →
        s.receipts = []) ∧
      ∀ i, s.runs i = some ⟨.addSettledTransaction, .done⟩ → s.pending = none := by
  have hs := (safe_invariant dustThreshold).holds h
  exact ⟨hs.receipts_le, hs.receipts_nil, fun i hi => (hs.done i _ hi rfl).2⟩

/-- An output of 10000 sats to a BTC wallet. -/
def tenThousandSatsUtxo : OnChainUtxo :=
  ⟨"txid", 0, ⟨10000⟩, ⟨"btc-wallet", .Btc, "account"⟩, by decide⟩

/-- `utxo_detected` priced at a mid price of 6 cents, then `utxo_settled`
    delivered twice, the first priced at 7 cents. -/
def detectedThenSettledTwice : List (DepositAction String) :=
  [.start 0 .addPendingTransaction, .start 1 .addSettledTransaction,
    .start 2 .addSettledTransaction,
    .step 0 .lock, .step 0 .isOnChainReceiptTxRecordedForWallet,
    .step 0 (.receive (.ok ⟨6⟩) (.ok ⟨6⟩)),
    .step 1 .lock, .step 1 .isOnChainReceiptTxRecordedForWallet,
    .step 1 (.receive (.ok ⟨7⟩) (.ok ⟨7⟩)),
    .step 1 .remove,
    .step 2 .lock, .step 2 .isOnChainReceiptTxRecordedForWallet, .step 2 .remove]

/-- The second settled delivery finds the receipt and records none. -/
theorem settledTwice_credited_once :
    ∃ s, run (next 5000 {} tenThousandSatsUtxo) (initial []) detectedThenSettledTwice = some s ∧
      s.receipts = [⟨⟨7000⟩, ⟨4⟩, ⟨3⟩, ⟨3000⟩⟩] ∧
      s.runs 2 = some ⟨.addSettledTransaction, .done⟩ ∧
      (s.receipts.length ≤ 1 ∧
        (isOnChainReceiptTxRecordedForWallet [] tenThousandSatsUtxo.wallet.id
          tenThousandSatsUtxo.txHash tenThousandSatsUtxo.vout = true → s.receipts = []) ∧
        ∀ i, s.runs i = some ⟨.addSettledTransaction, .done⟩ → s.pending = none) :=
  ⟨_, rfl, rfl, rfl, settledUtxo_credited_at_most_once
    (@reachable_of_run _ _ (next 5000 {} tenThousandSatsUtxo) _ _ detectedThenSettledTwice rfl)⟩

/-- Every receipt the runs record, over every interleaving: its journal
    balances, debits the on-chain asset account every sat of the output,
    credits the bank owner the deposit fee, and credits the wallet its
    settlement amount, which is positive.  The receipt is what
    `WalletAddressReceiver` makes of a positive quote, and no quote of zero or
    fewer cents makes it. -/
theorem settledUtxo_receipt_journal {Entry : Type} (ops : MediciEntryOps Entry)
    (hops : ops.Lawful) (hValid : fees.Valid)
    (h : Reachable (next (E := E) dustThreshold fees utxo) (initial rows₀) s)
    {r : WalletAddressReceiver} (hr : r ∈ s.receipts) {accountIds : StaticAccountIds}
    {entry : Entry} (hfresh : ops.transactions entry = [])
    (hbankDealer : accountIds.bankOwnerAccountId ≠ accountIds.dealerBtcAccountId)
    (hbank : toLedgerAccountId utxo.wallet.id ≠ accountIds.bankOwnerAccountId)
    (hdealer : toLedgerAccountId utxo.wallet.id ≠ accountIds.dealerUsdAccountId)
    (metadata additionalCreditMetadata additionalInternalMetadata : TxMetadata) :
    let txns := ops.transactions (recordReceiveOnChain ops accountIds entry
      (onChainReceiveRecordArgs utxo.wallet r metadata additionalCreditMetadata
        additionalInternalMetadata))
    Journal.Balanced txns ∧
      Journal.total (Journal.atAccount onChainLedgerAccountId .Btc) (·.debit) txns =
        utxo.satoshis.amount ∧
      Journal.total (Journal.atAccount (toLedgerAccountId utxo.wallet.id) utxo.wallet.currency)
          (·.credit) txns = (r.settlementAmounts utxo.wallet.currency).1.amount ∧
      0 < (r.settlementAmounts utxo.wallet.currency).1.amount ∧
      Journal.total (Journal.atAccount accountIds.bankOwnerAccountId .Btc) (·.credit) txns =
        (fees.fee utxo.satoshis).amount ∧
      (∃ quote : UsdPaymentAmount, 0 < quote.amount ∧
        walletAddressReceiver (E := E) utxo.wallet.currency utxo.satoshis (fees.fee utxo.satoshis)
          (fun _ => .ok quote) (fun _ => .ok quote) = .ok r) ∧
      ∀ quote : UsdPaymentAmount, quote.amount ≤ 0 →
        walletAddressReceiver (E := E) utxo.wallet.currency utxo.satoshis (fees.fee utxo.satoshis)
          (fun _ => .ok quote) (fun _ => .ok quote) ≠ .ok r := by
  intro txns
  have hs := (safe_invariant dustThreshold).holds h
  -- the receipt was priced by `WalletAddressReceiver` at some answers of the prices
  obtain ⟨usdFromBtc, usdFromBtcMidPrice, hOk⟩ := hs.receipt_priced r hr
  have hFee := hValid.fee_nonneg utxo.satoshis_nonneg
  obtain ⟨hBalanced, hOnChain, hCredit, hCreditPos, hBank⟩ :=
    onChainReceiptJournal_of_sound ops hops hfresh (WalletAddressReceiver.sound_of_eq_ok hFee hOk)
      hFee hbankDealer hbank hdealer metadata additionalCreditMetadata additionalInternalMetadata
  -- the answer the receiver read is a positive quote, and the quote is all it reads
  obtain ⟨quote, hQuote, hPos⟩ := WalletAddressReceiver.quote_pos_of_eq_ok hFee hOk
  have hAtQuote : walletAddressReceiver (E := E) utxo.wallet.currency utxo.satoshis
      (fees.fee utxo.satoshis) (fun _ => .ok quote) (fun _ => .ok quote) = .ok r := by
    rw [← hOk]
    exact walletAddressReceiver_congr_quote (by rw [hQuote, usdFromBtcFn_const])
  refine ⟨hBalanced, hOnChain, hCredit, hCreditPos, hBank, ⟨quote, hPos, hAtQuote⟩, ?_⟩
  intro quote' hNonpos hOk'
  obtain ⟨q, hq, hqPos⟩ := WalletAddressReceiver.quote_pos_of_eq_ok hFee hOk'
  rw [usdFromBtcFn_const, Except.ok.injEq] at hq
  rw [hq] at hNonpos
  omega

/-- The receipt of the twice settled output: 7000 sats to the wallet, 3000 to
    the bank owner. -/
theorem settledTwice_receipt_journal :
    let r : WalletAddressReceiver := ⟨⟨7000⟩, ⟨4⟩, ⟨3⟩, ⟨3000⟩⟩
    let txns := MediciEntryOps.ofList.transactions (recordReceiveOnChain MediciEntryOps.ofList
      ⟨"bankOwner", "dealerBtc", "dealerUsd"⟩ []
      (onChainReceiveRecordArgs tenThousandSatsUtxo.wallet r {} {} {}))
    Journal.Balanced txns ∧
      Journal.total (Journal.atAccount onChainLedgerAccountId .Btc) (·.debit) txns =
        ((10000 : ℤ) : ℚ) ∧
      Journal.total (Journal.atAccount (toLedgerAccountId "btc-wallet") .Btc) (·.credit) txns =
        ((7000 : ℤ) : ℚ) ∧
      Journal.total (Journal.atAccount "bankOwner" .Btc) (·.credit) txns =
        ((3000 : ℤ) : ℚ) := by
  intro r txns
  obtain ⟨s, hRun, hReceipts⟩ : ∃ s, run (next 5000 {} tenThousandSatsUtxo) (initial [])
      detectedThenSettledTwice = some s ∧ s.receipts = [r] := ⟨_, rfl, rfl⟩
  have hValid : ({} : DepositFeesConfig).Valid := ⟨by decide, by decide⟩
  have hIds : StaticAccountIds.bankOwnerAccountId ⟨"bankOwner", "dealerBtc", "dealerUsd"⟩ ≠
      StaticAccountIds.dealerBtcAccountId ⟨"bankOwner", "dealerBtc", "dealerUsd"⟩ := by decide
  obtain ⟨hBalanced, hOnChain, hCredit, -, hBank, -, -⟩ :=
    settledUtxo_receipt_journal MediciEntryOps.ofList MediciEntryOps.ofList_lawful hValid
      (reachable_of_run hRun) (hReceipts ▸ List.mem_singleton_self r) rfl hIds (by decide)
      (by decide) {} {} {}
  exact ⟨hBalanced, hOnChain, hCredit, hBank⟩

end Guarantees

end DepositRuns

end Galoy
