/-
  Galoy.Payments.PaymentFlow

  A payment flow (`domain/payments/payment-flow.ts`): the state the Lightning
  builder produces and the send paths read, with the accessors they call.  The
  amount accessors of `PaymentFlowCommon`, `checkBalanceForSend` among them,
  are shared with the on-chain flow and read `PaymentFlowCommonState`.

  `PaymentFlow(state)` never fails; its type says that exactly one of
  `paymentHash` and `intraLedgerHash` is set, and `paymentHashForFlow` /
  `intraLedgerHashForFlow` check that at run time.  Both hashes are kept as
  optional strings here so that the check itself is modelled: a string counts
  as set when it is non-empty, as `!!hash` does.
-/

import Galoy.Payments.LnFees
import Galoy.Ledger.EntryBuilder

namespace Galoy

open AmountCalculator

/-- `SettlementMethod` of `domain/wallets/tx-methods.ts`. -/
inductive SettlementMethod where
  | IntraLedger
  | OnChain
  | Lightning
  deriving DecidableEq, Repr

/-- `PaymentInitiationMethod` of `domain/wallets/tx-methods.ts`. -/
inductive PaymentInitiationMethod where
  | IntraLedger
  | OnChain
  | Lightning
  deriving DecidableEq, Repr

/-- The errors the payment-flow code returns: those of `domain/payments/errors.ts`
    and the domain and dealer errors it passes on. -/
inductive PaymentFlowError where
  | validation (e : ValidationError)
  | InvalidZeroAmountPriceRatioInputError
  | SubOneCentSatAmountForUsdSelfSendError
  | LnHashPresentInIntraLedgerFlowError
  | IntraLedgerHashPresentInLnFlowError
  | NonLnPaymentTransactionForPaymentFlowError
  | MissingPropsInTransactionForPaymentFlowError
  | InvalidLightningPaymentFlowBuilderStateError (msg : String)
  | InvalidLightningPaymentFlowStateError
  | SelfPaymentError
  | InvalidCurrencyForWalletError
  | InsufficientBalanceError (msg : String)
  | DealerPriceServiceError (msg : String)
  /-- `throw new Error("withSenderWallet impossible")` -/
  | withSenderWalletImpossible
  deriving DecidableEq, Repr

/-- `!!s` for an optional string: set and non-empty. -/
def truthy (s : Option String) : Bool := s.any (· ≠ "")

theorem truthy_eq_true {s : Option String} : truthy s = true ↔ ∃ x, x ≠ "" ∧ s = some x := by
  cases s with
  | none => simp [truthy]
  | some x => simp [truthy]

/-- The fields of `PaymentFlowCommonState` that the amount accessors of
    `PaymentFlowCommon` read: the sender's wallet and the amounts and fees in
    both currencies.  The Lightning and the on-chain flows share these
    accessors. -/
structure PaymentFlowCommonState where
  senderWalletId : String
  senderWalletCurrency : WalletCurrency
  btcPaymentAmount : BtcPaymentAmount
  usdPaymentAmount : UsdPaymentAmount
  btcProtocolAndBankFee : BtcPaymentAmount
  usdProtocolAndBankFee : UsdPaymentAmount
  deriving DecidableEq, Repr

namespace PaymentFlowCommonState

variable (state : PaymentFlowCommonState)

def protocolAndBankFeeInSenderWalletCurrency : ℤ :=
  if state.senderWalletCurrency = .Btc then state.btcProtocolAndBankFee.amount
  else state.usdProtocolAndBankFee.amount

def totalAmountsForPayment : PaymentAmountInAllCurrencies :=
  ⟨add state.btcPaymentAmount state.btcProtocolAndBankFee,
    add state.usdPaymentAmount state.usdProtocolAndBankFee⟩

/-- `checkBalanceForSend`: the balance covers the amount plus the fee in the
    sender's currency. -/
def checkBalanceForSend (balanceCurrency : WalletCurrency) (balanceAmount : ℤ) :
    Except PaymentFlowError Bool :=
  if state.senderWalletCurrency ≠ balanceCurrency then .error .InvalidCurrencyForWalletError
  else
    let totalSendAmount :=
      if balanceCurrency = .Btc then (add state.btcPaymentAmount state.btcProtocolAndBankFee).amount
      else (add state.usdPaymentAmount state.usdProtocolAndBankFee).amount
    if balanceAmount < totalSendAmount then
      let unitForMsg := if state.senderWalletCurrency = .Btc then "sats" else "cents"
      .error (.InsufficientBalanceError ("Payment amount '" ++ toString totalSendAmount ++ "' " ++
        unitForMsg ++ " exceeds balance '" ++ toString balanceAmount ++ "'"))
    else .ok true

/-- A balance that passes `checkBalanceForSend` is in the sender's currency and
    covers the amount plus fee in it. -/
theorem checkBalanceForSend_ok {balanceCurrency : WalletCurrency} {balanceAmount : ℤ} {x : Bool}
    (h : state.checkBalanceForSend balanceCurrency balanceAmount = .ok x) :
    state.senderWalletCurrency = balanceCurrency ∧
      (if balanceCurrency = .Btc then (add state.btcPaymentAmount state.btcProtocolAndBankFee).amount
        else (add state.usdPaymentAmount state.usdProtocolAndBankFee).amount) ≤ balanceAmount := by
  unfold checkBalanceForSend at h
  dsimp only at h
  by_cases hCurrency : state.senderWalletCurrency ≠ balanceCurrency
  · rw [if_pos hCurrency] at h
    cases h
  · rw [if_neg hCurrency] at h
    refine ⟨not_not.mp hCurrency, ?_⟩
    by_cases hShort : balanceAmount < (if balanceCurrency = .Btc then
        (add state.btcPaymentAmount state.btcProtocolAndBankFee).amount
        else (add state.usdPaymentAmount state.usdProtocolAndBankFee).amount)
    · rw [if_pos hShort] at h
      cases h
    · exact not_lt.mp hShort

end PaymentFlowCommonState

/-- `PaymentFlow<S, R>`: `PaymentFlowState` with the accessors below. -/
structure PaymentFlow where
  paymentHash : Option String
  intraLedgerHash : Option String
  senderWalletId : String
  senderWalletCurrency : WalletCurrency
  senderAccountId : String
  settlementMethod : SettlementMethod
  paymentInitiationMethod : PaymentInitiationMethod
  descriptionFromInvoice : String
  skipProbeForDestination : Bool
  createdAt : ℤ
  paymentSentAndPending : Bool
  btcPaymentAmount : BtcPaymentAmount
  usdPaymentAmount : UsdPaymentAmount
  inputAmount : ℤ
  btcProtocolAndBankFee : BtcPaymentAmount
  usdProtocolAndBankFee : UsdPaymentAmount
  recipientWalletId : Option String := none
  recipientWalletCurrency : Option WalletCurrency := none
  recipientAccountId : Option String := none
  recipientPubkey : Option String := none
  recipientUsername : Option String := none
  recipientUserId : Option String := none
  outgoingNodePubkey : Option String := none
  cachedRoute : Option RawRoute := none
  deriving DecidableEq, Repr

namespace PaymentFlow

variable (flow : PaymentFlow)

def paymentHashForFlow : Except PaymentFlowError String :=
  if truthy flow.paymentHash = truthy flow.intraLedgerHash then
    .error (.InvalidLightningPaymentFlowBuilderStateError "")
  else match flow.paymentHash with
    | some paymentHash => if paymentHash = "" then .error .IntraLedgerHashPresentInLnFlowError
        else .ok paymentHash
    | none => .error .IntraLedgerHashPresentInLnFlowError

def intraLedgerHashForFlow : Except PaymentFlowError String :=
  if truthy flow.paymentHash = truthy flow.intraLedgerHash then
    .error (.InvalidLightningPaymentFlowBuilderStateError "")
  else match flow.intraLedgerHash with
    | some intraLedgerHash => if intraLedgerHash = "" then .error .LnHashPresentInIntraLedgerFlowError
        else .ok intraLedgerHash
    | none => .error .LnHashPresentInIntraLedgerFlowError

/-- The state `PaymentFlowCommon` is built from. -/
def common : PaymentFlowCommonState :=
  ⟨flow.senderWalletId, flow.senderWalletCurrency, flow.btcPaymentAmount, flow.usdPaymentAmount,
    flow.btcProtocolAndBankFee, flow.usdProtocolAndBankFee⟩

def paymentAmounts : PaymentAmountInAllCurrencies :=
  ⟨flow.btcPaymentAmount, flow.usdPaymentAmount⟩

def totalAmountsForPayment : PaymentAmountInAllCurrencies := flow.common.totalAmountsForPayment

def senderWalletDescriptor : WalletDescriptor :=
  ⟨flow.senderWalletId, flow.senderWalletCurrency, flow.senderAccountId⟩

/-- `recipientWalletDescriptor`: set only when the id, the currency and the
    account are all set (an empty id is falsy). -/
def recipientWalletDescriptor : Option WalletDescriptor :=
  match flow.recipientWalletId, flow.recipientWalletCurrency, flow.recipientAccountId with
  | some id, some currency, some accountId =>
    if id = "" ∨ accountId = "" then none else some ⟨id, currency, accountId⟩
  | _, _, _ => none

/-- With exactly one hash set, exactly one of the two accessors succeeds: the
    one for that hash. -/
theorem paymentHashForFlow_eq_ok {paymentHash : String} (hne : paymentHash ≠ "")
    (hp : flow.paymentHash = some paymentHash) (hi : flow.intraLedgerHash = none) :
    flow.paymentHashForFlow = .ok paymentHash ∧
      flow.intraLedgerHashForFlow = .error .LnHashPresentInIntraLedgerFlowError := by
  have hTruthy : truthy flow.paymentHash ≠ truthy flow.intraLedgerHash := by
    simp [truthy, hp, hi, hne]
  constructor
  · rw [paymentHashForFlow, if_neg hTruthy, hp]
    simp [hne]
  · rw [intraLedgerHashForFlow, if_neg hTruthy, hi]

theorem intraLedgerHashForFlow_eq_ok {intraLedgerHash : String} (hne : intraLedgerHash ≠ "")
    (hp : flow.paymentHash = none) (hi : flow.intraLedgerHash = some intraLedgerHash) :
    flow.intraLedgerHashForFlow = .ok intraLedgerHash ∧
      flow.paymentHashForFlow = .error .IntraLedgerHashPresentInLnFlowError := by
  have hTruthy : truthy flow.paymentHash ≠ truthy flow.intraLedgerHash := by
    simp [truthy, hp, hi, hne]
  constructor
  · rw [intraLedgerHashForFlow, if_neg hTruthy, hi]
    simp [hne]
  · rw [paymentHashForFlow, if_neg hTruthy, hp]

/-- A hash that `paymentHashForFlow` hands out is the flow's own, non-empty
    payment hash. -/
theorem paymentHashForFlow_ok {paymentHash : String}
    (h : flow.paymentHashForFlow = .ok paymentHash) :
    paymentHash ≠ "" ∧ flow.paymentHash = some paymentHash := by
  unfold paymentHashForFlow at h
  split at h
  · cases h
  · split at h
    · rename_i p hp
      split at h
      · cases h
      · rename_i hne
        cases h
        exact ⟨hne, hp⟩
    · cases h

end PaymentFlow

end Galoy
