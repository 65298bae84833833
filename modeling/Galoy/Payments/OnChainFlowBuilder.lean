/-
  Galoy.Payments.OnChainFlowBuilder

  `OnChainPaymentFlowBuilder` of `domain/payments/onchain-payment-flow-builder.ts`,
  the swap-out imbalance of `domain/ledger/imbalance-calculator.ts` that its
  fee reads, and the chain of builder calls in `payOnChainByWalletId`
  (`app/payments/send-on-chain.ts`).

  As for the Lightning builder, each stage is a function from the previous
  stage's state to the next one or an error.  `OPFBWithConversion` holds a
  promise of the converted state; here that promise is its `Except` value, and
  `stateFromPromise` checks it again each time a later call reads it: the
  settlement method the recipient stage chose must agree with
  `isExternalAddress`, and an amount sent on chain must reach the dust
  threshold.

  The clock is an argument: `createdAt` for the `new Date()` of
  `withConversion`, `now` for the end of the imbalance window.
-/

import Galoy.Payments.FlowBuilder
import Galoy.Wallets.WithdrawalFee

namespace Galoy

open AmountCalculator

-- ============================================================================
-- Errors and configuration
-- ============================================================================

/-- The errors the on-chain builder returns: those of `domain/payments/errors.ts`,
    the domain errors, and the dealer's and the ledger's with their messages. -/
inductive OnChainPaymentFlowError where
  | validation (e : ValidationError)
  | SelfPaymentError
  | DealerPriceServiceError (msg : String)
  | LedgerServiceError (msg : String)
  | InvalidZeroAmountPriceRatioInputError
  | SubOneCentSatAmountForUsdSelfSendError
  | InvalidLightningPaymentFlowBuilderStateError (msg : String)
  | InvalidOnChainPaymentFlowBuilderStateError (msg : String)
  | LessThanDustThresholdError (msg : String)
  deriving DecidableEq, Repr

/-- A failed `WalletPriceRatio` as the on-chain builder returns it. -/
def onChainPriceRatioError (_ : InvalidZeroAmountPriceRatioInputError) : OnChainPaymentFlowError :=
  .InvalidZeroAmountPriceRatioInputError

/-- `WithdrawalFeePriceMethod` of `domain/wallets`. -/
inductive WithdrawalFeePriceMethod where
  | flat
  | proportionalOnImbalance
  deriving DecidableEq, Repr

/-- The withdrawal fields of `FeesConfig`, as `getFeesConfig()` returns them. -/
structure FeesConfig where
  withdrawMethod : WithdrawalFeePriceMethod
  withdrawRatioAsBasisPoints : ℤ
  withdrawThreshold : ℤ
  withdrawDaysLookback : ℤ
  withdrawDefaultMin : ℚ
  deriving DecidableEq, Repr

/-- The module's `onChainFees`: `OnChainFees` at the configured ratio and threshold. -/
def FeesConfig.onChainFees (feeConfig : FeesConfig) : OnchainWithdrawalConfig where
  thresholdImbalance := ⟨feeConfig.withdrawThreshold⟩
  feeRatioAsBasisPoints := feeConfig.withdrawRatioAsBasisPoints

/-- `intraLedgerFees` of `OnChainFees`: a send inside the ledger is free. -/
def OnChainFees.intraLedgerFees : PaymentAmountInAllCurrencies := ⟨ZERO_SATS, ZERO_CENTS⟩

-- ============================================================================
-- ImbalanceCalculator
-- ============================================================================

/-- `NewGetVolumeAmountSinceFn`: the net volume into a wallet since a time, in
    the wallet's currency; an error carries the ledger's message. -/
abbrev NewGetVolumeAmountSinceFn := WalletDescriptor → ℤ → Except String ℤ

/-- `ImbalanceCalculatorConfig`. -/
structure ImbalanceCalculatorConfig where
  method : WithdrawalFeePriceMethod
  netInVolumeAmountLightningFn : NewGetVolumeAmountSinceFn
  netInVolumeAmountOnChainFn : NewGetVolumeAmountSinceFn
  sinceDaysAgo : ℤ

namespace ImbalanceCalculator

def MS_PER_HOUR : ℤ := 60 * 60 * 1000
def MS_PER_DAY : ℤ := 24 * MS_PER_HOUR

variable (config : ImbalanceCalculatorConfig) (now : ℤ)

/-- The start of the window, `sinceDaysAgo` days before `now`. -/
def since : ℤ := now - config.sinceDaysAgo * MS_PER_DAY

def getNetInboundFlow (netInVolumeAmountFn : NewGetVolumeAmountSinceFn) (wallet : WalletDescriptor)
    (since : ℤ) : Except OnChainPaymentFlowError ℤ :=
  (netInVolumeAmountFn wallet since).mapError .LedgerServiceError

/-- `getSwapOutImbalanceAmount`: what came in over Lightning less what came in
    on chain over the window, in the wallet's currency; zero under the flat
    method. -/
def getSwapOutImbalanceAmount (wallet : WalletDescriptor) :
    Except OnChainPaymentFlowError (PaymentAmount wallet.currency) :=
  if config.method = .flat then (paymentAmountFromNumber 0 wallet.currency).mapError .validation
  else do
    let lnNetInbound ←
      getNetInboundFlow config.netInVolumeAmountLightningFn wallet (since config now)
    let onChainNetInbound ←
      getNetInboundFlow config.netInVolumeAmountOnChainFn wallet (since config now)
    let imbalance := lnNetInbound - onChainNetInbound
    (paymentAmountFromNumber imbalance wallet.currency).mapError .validation

end ImbalanceCalculator

-- ============================================================================
-- Stage states
-- ============================================================================

/-- `OnChainPaymentFlowBuilderConfig`.  `isExternalAddress` is given a state
    typed `{ address }`, so it is a function of the address. -/
structure OnChainPaymentFlowBuilderConfig where
  netInVolumeAmountLightningFn : NewGetVolumeAmountSinceFn
  netInVolumeAmountOnChainFn : NewGetVolumeAmountSinceFn
  isExternalAddress : String → Bool
  sendAll : Bool
  dustThreshold : ℤ

/-- The field of `Account` that the builder reads. -/
structure Account where
  withdrawFee : Option ℚ
  deriving DecidableEq, Repr

structure OPFBWithAddressState extends OnChainPaymentFlowBuilderConfig where
  paymentInitiationMethod : PaymentInitiationMethod
  address : String

structure OPFBWithSenderWalletAndAccountState extends OPFBWithAddressState where
  senderWalletId : String
  senderWalletCurrency : WalletCurrency
  senderAccountId : String
  senderWithdrawFee : Option ℚ

structure OPFBWithRecipientWalletState extends OPFBWithSenderWalletAndAccountState where
  settlementMethod : SettlementMethod
  recipientWalletId : Option String := none
  recipientWalletCurrency : Option WalletCurrency := none
  recipientUsername : Option String := none
  recipientUserId : Option String := none
  recipientAccountId : Option String := none
  recipientWalletDescriptors : Option AccountWalletDescriptors := none

structure OPFBWithAmountState extends OPFBWithRecipientWalletState where
  btcProposedAmount : Option BtcPaymentAmount := none
  usdProposedAmount : Option UsdPaymentAmount := none
  inputAmount : ℤ

/-- `OPFBWithConversionState`: both proposed amounts are now set. -/
structure OPFBWithConversionState extends OPFBWithRecipientWalletState where
  btcProposedAmount : BtcPaymentAmount
  usdProposedAmount : UsdPaymentAmount
  inputAmount : ℤ
  createdAt : ℤ
  paymentSentAndPending : Bool

/-- The amounts and fees that `withoutMinerFee` and `withMinerFee` put on the
    converted state. -/
structure OnChainAmountsAndFees where
  btcPaymentAmount : BtcPaymentAmount
  usdPaymentAmount : UsdPaymentAmount
  btcProtocolAndBankFee : BtcPaymentAmount
  usdProtocolAndBankFee : UsdPaymentAmount
  btcBankFee : BtcPaymentAmount
  usdBankFee : UsdPaymentAmount
  btcMinerFee : Option BtcPaymentAmount
  deriving DecidableEq, Repr

/-- `OnChainPaymentFlow<S, R>`: the fields of `OnChainPaymentFlowState`.  An
    on-chain flow never sets a pubkey or a route. -/
structure OnChainPaymentFlow extends OnChainAmountsAndFees where
  address : String
  senderWalletId : String
  senderWalletCurrency : WalletCurrency
  senderAccountId : String
  settlementMethod : SettlementMethod
  paymentInitiationMethod : PaymentInitiationMethod
  createdAt : ℤ
  paymentSentAndPending : Bool
  inputAmount : ℤ
  recipientWalletId : Option String
  recipientWalletCurrency : Option WalletCurrency
  recipientAccountId : Option String
  recipientUsername : Option String
  recipientUserId : Option String
  deriving DecidableEq, Repr

/-- The state `PaymentFlowCommon` is built from. -/
def OnChainPaymentFlow.common (flow : OnChainPaymentFlow) : PaymentFlowCommonState :=
  ⟨flow.senderWalletId, flow.senderWalletCurrency, flow.btcPaymentAmount, flow.usdPaymentAmount,
    flow.btcProtocolAndBankFee, flow.usdProtocolAndBankFee⟩

/-- `totalAmountsForPayment` of `PaymentFlowCommon`: the amount and the protocol
    and bank fee, in each currency. -/
def OnChainPaymentFlow.totalAmountsForPayment (flow : OnChainPaymentFlow) :
    PaymentAmountInAllCurrencies :=
  flow.common.totalAmountsForPayment

/-- `OnChainPaymentFlow({ ...state, ...amountsAndFees, paymentSentAndPending: false })`. -/
def OPFBWithConversionState.toOnChainPaymentFlow (state : OPFBWithConversionState)
    (amountsAndFees : OnChainAmountsAndFees) : OnChainPaymentFlow where
  toOnChainAmountsAndFees := amountsAndFees
  address := state.address
  senderWalletId := state.senderWalletId
  senderWalletCurrency := state.senderWalletCurrency
  senderAccountId := state.senderAccountId
  settlementMethod := state.settlementMethod
  paymentInitiationMethod := state.paymentInitiationMethod
  createdAt := state.createdAt
  paymentSentAndPending := false
  inputAmount := state.inputAmount
  recipientWalletId := state.recipientWalletId
  recipientWalletCurrency := state.recipientWalletCurrency
  recipientAccountId := state.recipientAccountId
  recipientUsername := state.recipientUsername
  recipientUserId := state.recipientUserId

-- ============================================================================
-- From the address to the amount
-- ============================================================================

def OnChainPaymentFlowBuilder.withAddress (config : OnChainPaymentFlowBuilderConfig)
    (address : String) : OPFBWithAddressState where
  toOnChainPaymentFlowBuilderConfig := config
  paymentInitiationMethod := .OnChain
  address := address

def OPFBWithAddress.withSenderWalletAndAccount (state : OPFBWithAddressState)
    (wallet : WalletDescriptor) (account : Account) : OPFBWithSenderWalletAndAccountState where
  toOPFBWithAddressState := state
  senderWalletId := wallet.id
  senderWalletCurrency := wallet.currency
  senderAccountId := wallet.accountId
  senderWithdrawFee := account.withdrawFee

/-- `OPFBWithRecipientArgs`, the fields `withRecipientWallet` reads. -/
structure OPFBWithRecipientArgs where
  defaultWalletCurrency : WalletCurrency
  recipientWalletDescriptors : AccountWalletDescriptors
  userId : String
  username : Option String := none
  deriving DecidableEq, Repr

namespace OPFBWithSenderWalletAndAccount

variable (state : OPFBWithSenderWalletAndAccountState)

def withoutRecipientWallet : OPFBWithRecipientWalletState where
  toOPFBWithSenderWalletAndAccountState := state
  settlementMethod := .OnChain

def withRecipientWallet (args : OPFBWithRecipientArgs) :
    Except OnChainPaymentFlowError OPFBWithRecipientWalletState :=
  let recipientWalletCurrency := args.defaultWalletCurrency
  let recipient := args.recipientWalletDescriptors.get recipientWalletCurrency
  if recipient.id = state.senderWalletId then .error .SelfPaymentError
  else
    .ok { toOPFBWithSenderWalletAndAccountState := state
          settlementMethod := .IntraLedger
          recipientWalletId := some recipient.id
          recipientWalletCurrency := some recipientWalletCurrency
          recipientAccountId := some recipient.accountId
          recipientUserId := some args.userId
          recipientUsername := args.username
          recipientWalletDescriptors := some args.recipientWalletDescriptors }

def isIntraLedger : Bool := !state.isExternalAddress state.address

end OPFBWithSenderWalletAndAccount

/-- `withAmount`: the amount is proposed in its own currency. -/
def OPFBWithRecipientWallet.withAmount (state : OPFBWithRecipientWalletState) :
    {c : WalletCurrency} → PaymentAmount c → OPFBWithAmountState
  | .Btc, paymentAmount =>
    { toOPFBWithRecipientWalletState := state
      inputAmount := paymentAmount.amount
      btcProposedAmount := some paymentAmount }
  | .Usd, paymentAmount =>
    { toOPFBWithRecipientWalletState := state
      inputAmount := paymentAmount.amount
      usdProposedAmount := some paymentAmount }

-- ============================================================================
-- OPFBWithAmount.withConversion
-- ============================================================================

/-- `{ ...stateWithCreatedAt, btcProposedAmount, usdProposedAmount }`. -/
def OPFBWithAmountState.withProposedAmounts (state : OPFBWithAmountState) (createdAt : ℤ)
    (btcProposedAmount : BtcPaymentAmount) (usdProposedAmount : UsdPaymentAmount) :
    OPFBWithConversionState where
  toOPFBWithRecipientWalletState := state.toOPFBWithRecipientWalletState
  btcProposedAmount := btcProposedAmount
  usdProposedAmount := usdProposedAmount
  inputAmount := state.inputAmount
  createdAt := createdAt
  paymentSentAndPending := false

namespace OPFBWithAmount

variable (state : OPFBWithAmountState) (createdAt : ℤ)

def currentStateFromAllAmountsPresent (btcProposedAmount : BtcPaymentAmount)
    (usdProposedAmount : UsdPaymentAmount) : OPFBWithConversionState :=
  state.withProposedAmounts createdAt btcProposedAmount usdProposedAmount

/-- `updatedStateFromBtcProposedAmountMid`: the USD amount at the mid price, a
    non-zero sat amount worth zero cents rounded up to one cent; with a
    descriptor, the recipient becomes that wallet. -/
def updatedStateFromBtcProposedAmountMid (mid : ConversionFns) (btcProposedAmount : BtcPaymentAmount)
    (recipientWalletDescriptor : Option WalletDescriptor) :
    Except OnChainPaymentFlowError OPFBWithConversionState := do
  let convertedAmountRaw ← (mid.usdFromBtc btcProposedAmount).mapError .DealerPriceServiceError
  let convertedAmount :=
    if btcProposedAmount.amount > 0 ∧ convertedAmountRaw.amount = 0 then ONE_CENT
    else convertedAmountRaw
  let _ ← (WalletPriceRatio.of convertedAmount btcProposedAmount).mapError onChainPriceRatioError
  let recipientState : OPFBWithAmountState :=
    match recipientWalletDescriptor with
    | some descriptor =>
      { state with recipientWalletId := some descriptor.id
                   recipientWalletCurrency := some descriptor.currency }
    | none => state
  pure (recipientState.withProposedAmounts createdAt btcProposedAmount convertedAmount)

/-- `updatedStateFromBtcProposedAmountDealer`: the dealer buys USD from a BTC
    sender and sells it to a USD sender. -/
def updatedStateFromBtcProposedAmountDealer (args : WithConversionArgs)
    (btcProposedAmount : BtcPaymentAmount) :
    Except OnChainPaymentFlowError OPFBWithConversionState := do
  let usdFromBtc :=
    if state.senderWalletCurrency = .Btc then args.hedgeBuyUsd.usdFromBtc
    else args.hedgeSellUsd.usdFromBtc
  let convertedAmount ← (usdFromBtc btcProposedAmount).mapError .DealerPriceServiceError
  let _ ← (WalletPriceRatio.of convertedAmount btcProposedAmount).mapError onChainPriceRatioError
  pure (state.withProposedAmounts createdAt btcProposedAmount convertedAmount)

/-- The body of the two USD-amount conversions: the BTC amount that
    `btcFromUsd` quotes, checked by a price ratio. -/
def updatedStateFromUsdProposedAmount (btcFromUsd : UsdPaymentAmount → Except String BtcPaymentAmount)
    (usdProposedAmount : UsdPaymentAmount) :
    Except OnChainPaymentFlowError OPFBWithConversionState := do
  let convertedAmount ← (btcFromUsd usdProposedAmount).mapError .DealerPriceServiceError
  let _ ← (WalletPriceRatio.of usdProposedAmount convertedAmount).mapError onChainPriceRatioError
  pure (state.withProposedAmounts createdAt convertedAmount usdProposedAmount)

def updatedStateFromUsdProposedAmountMid (mid : ConversionFns)
    (usdProposedAmount : UsdPaymentAmount) :
    Except OnChainPaymentFlowError OPFBWithConversionState :=
  updatedStateFromUsdProposedAmount state createdAt mid.btcFromUsd usdProposedAmount

def updatedStateFromUsdProposedAmountDealer (args : WithConversionArgs)
    (usdProposedAmount : UsdPaymentAmount) :
    Except OnChainPaymentFlowError OPFBWithConversionState :=
  updatedStateFromUsdProposedAmount state createdAt
    (if state.senderWalletCurrency = .Btc then args.hedgeBuyUsd.btcFromUsd
      else args.hedgeSellUsd.btcFromUsd)
    usdProposedAmount

/-- `updatedStateFromBtcProposedAmountDealerFallbackMid`: when the dealer's USD
    amount is zero, pay the recipient's BTC wallet at the mid price instead. -/
def updatedStateFromBtcProposedAmountDealerFallbackMid (args : WithConversionArgs)
    (btcProposedAmount : BtcPaymentAmount) :
    Except OnChainPaymentFlowError OPFBWithConversionState :=
  match updatedStateFromBtcProposedAmountDealer state createdAt args btcProposedAmount with
  | .error .InvalidZeroAmountPriceRatioInputError =>
    match state.recipientWalletDescriptors with
    | none => .error (.InvalidLightningPaymentFlowBuilderStateError
        "expected recipient BTC wallet missing")
    | some descriptors =>
      if descriptors.BTC.id = state.senderWalletId then .error .SubOneCentSatAmountForUsdSelfSendError
      else updatedStateFromBtcProposedAmountMid state createdAt args.mid btcProposedAmount
        (some descriptors.BTC)
  | updatedState => updatedState

/-- `withConversion`, at the time `createdAt` that `new Date()` reads: the value
    of the promise that `OPFBWithConversion` is given, or the error it returns
    at once when no amount is set. -/
def withConversion (args : WithConversionArgs) :
    Except OnChainPaymentFlowError OPFBWithConversionState :=
  -- the mid price when no buy or sell is needed
  let noConversionRequired : Bool :=
    (state.senderWalletCurrency = .Btc ∧ state.settlementMethod = .OnChain) ∨
      state.recipientWalletCurrency = some state.senderWalletCurrency
  if noConversionRequired then
    match state.btcProposedAmount, state.usdProposedAmount with
    | some btcProposedAmount, some usdProposedAmount =>
      .ok (currentStateFromAllAmountsPresent state createdAt btcProposedAmount usdProposedAmount)
    | some btcProposedAmount, none =>
      updatedStateFromBtcProposedAmountMid state createdAt args.mid btcProposedAmount none
    | none, some usdProposedAmount =>
      updatedStateFromUsdProposedAmountMid state createdAt args.mid usdProposedAmount
    | none, none =>
      .error (.InvalidOnChainPaymentFlowBuilderStateError
        "withConversion - btcProposedAmount || btcProtocolAndBankFee not set")
  else
    match state.btcProposedAmount, state.usdProposedAmount with
    | some btcProposedAmount, _ =>
      updatedStateFromBtcProposedAmountDealerFallbackMid state createdAt args btcProposedAmount
    | none, some usdProposedAmount =>
      updatedStateFromUsdProposedAmountDealer state createdAt args usdProposedAmount
    | none, none =>
      .error (.InvalidOnChainPaymentFlowBuilderStateError
        "withConversion - impossible withConversion state")

end OPFBWithAmount

-- ============================================================================
-- OPFBWithConversion: the fees
-- ============================================================================

/-- The amounts `withMinerFee` pays: the proposed ones, or under `sendAll` the
    proposed amount in the sender's currency less the fee in that currency,
    converted back at the ratio for the other one. -/
def OPFBWithConversionState.paymentAmountsAfterFee (state : OPFBWithConversionState)
    (priceRatio : WalletPriceRatio) (btcProtocolAndBankFee : BtcPaymentAmount)
    (usdProtocolAndBankFee : UsdPaymentAmount) : BtcPaymentAmount × UsdPaymentAmount :=
  if state.sendAll then
    match state.senderWalletCurrency with
    | .Btc =>
      let btcPaymentAmount := sub state.btcProposedAmount btcProtocolAndBankFee
      (btcPaymentAmount, priceRatio.convertFromBtc btcPaymentAmount)
    | .Usd =>
      let usdPaymentAmount := sub state.usdProposedAmount usdProtocolAndBankFee
      (priceRatio.convertFromUsd usdPaymentAmount, usdPaymentAmount)
  else (state.btcProposedAmount, state.usdProposedAmount)

/-- `state.senderWithdrawFee || feeConfig.withdrawDefaultMin`: an account with
    no fee of its own, or a fee of zero, pays the default. -/
def FeesConfig.withdrawFeeFor (feeConfig : FeesConfig) (senderWithdrawFee : Option ℚ) : ℚ :=
  match senderWithdrawFee with
  | some fee => if fee = 0 then feeConfig.withdrawDefaultMin else fee
  | none => feeConfig.withdrawDefaultMin

namespace OPFBWithConversion

def validateBtcPaymentAmountForDust (state : OPFBWithConversionState)
    (btcPaymentAmount : BtcPaymentAmount) : Except OnChainPaymentFlowError BtcPaymentAmount :=
  if state.settlementMethod ≠ .IntraLedger ∧ btcPaymentAmount.amount < state.dustThreshold then
    .error (.LessThanDustThresholdError
      ("Use lightning to send amounts less than " ++ toString state.dustThreshold ++ " sats"))
  else .ok btcPaymentAmount

/-- `stateFromPromise`: the converted state, once its settlement method agrees
    with `isExternalAddress`, an internal send has a recipient, and the proposed
    amount passes the dust check. -/
def stateFromPromise (statePromise : Except OnChainPaymentFlowError OPFBWithConversionState) :
    Except OnChainPaymentFlowError OPFBWithConversionState := do
  let state ← statePromise
  let settlementMethodFromAddress : SettlementMethod :=
    if !state.isExternalAddress state.address then .IntraLedger else .OnChain
  if state.settlementMethod ≠ settlementMethodFromAddress ∨
      (state.settlementMethod = .IntraLedger ∧ !truthy state.recipientWalletId) then
    throw (.InvalidOnChainPaymentFlowBuilderStateError
      "withoutRecipientWallet called but settlementMethod is IntraLedger")
  let _ ← validateBtcPaymentAmountForDust state state.btcProposedAmount
  pure state

variable (statePromise : Except OnChainPaymentFlowError OPFBWithConversionState)

/-- `withoutMinerFee`: the proposed amounts, and no fee at all. -/
def withoutMinerFee : Except OnChainPaymentFlowError OnChainPaymentFlow := do
  let state ← stateFromPromise statePromise
  let usdPaymentAmount := state.usdProposedAmount
  let btcPaymentAmount := state.btcProposedAmount
  pure (state.toOnChainPaymentFlow
    { btcProtocolAndBankFee := OnChainFees.intraLedgerFees.btc
      usdProtocolAndBankFee := OnChainFees.intraLedgerFees.usd
      btcBankFee := ZERO_BANK_FEE.1
      usdBankFee := ZERO_BANK_FEE.2
      btcPaymentAmount := btcPaymentAmount
      usdPaymentAmount := usdPaymentAmount
      btcMinerFee := none })

/-- `withMinerFee`, with the imbalance window ending at `now`: the withdrawal fee
    on the sender's swap-out imbalance, in sats and rounded up in cents. -/
def withMinerFee (feeConfig : FeesConfig) (now : ℤ) (minerFee : BtcPaymentAmount) :
    Except OnChainPaymentFlowError OnChainPaymentFlow := do
  let state ← stateFromPromise statePromise
  let priceRatio ←
    (WalletPriceRatio.of state.usdProposedAmount state.btcProposedAmount).mapError
      onChainPriceRatioError
  let minBankFee ←
    (paymentAmountFromNumber (feeConfig.withdrawFeeFor state.senderWithdrawFee) .Btc).mapError
      .validation
  let imbalanceCalculator : ImbalanceCalculatorConfig :=
    ⟨feeConfig.withdrawMethod, state.netInVolumeAmountLightningFn,
      state.netInVolumeAmountOnChainFn, feeConfig.withdrawDaysLookback⟩
  let imbalanceForWallet ← ImbalanceCalculator.getSwapOutImbalanceAmount imbalanceCalculator now
    ⟨state.senderWalletId, state.senderWalletCurrency, state.senderAccountId⟩
  -- the imbalance is in the sender's currency
  let imbalance : BtcPaymentAmount :=
    if state.senderWalletCurrency = .Btc then ⟨imbalanceForWallet.amount⟩
    else priceRatio.convertFromUsd ⟨imbalanceForWallet.amount⟩
  let feeAmounts := OnChainFees.withdrawalFee feeConfig.onChainFees
    ⟨minerFee, state.btcProposedAmount, minBankFee, imbalance⟩
  let btcProtocolAndBankFee := feeAmounts.totalFee
  let usdProtocolAndBankFee := priceRatio.convertFromBtcToCeil feeAmounts.totalFee
  let paymentAmounts :=
    state.paymentAmountsAfterFee priceRatio btcProtocolAndBankFee usdProtocolAndBankFee
  let validatedBtcPaymentAmount ← validateBtcPaymentAmountForDust state paymentAmounts.1
  pure (state.toOnChainPaymentFlow
    { btcProtocolAndBankFee := btcProtocolAndBankFee
      usdProtocolAndBankFee := usdProtocolAndBankFee
      btcBankFee := feeAmounts.bankFee
      usdBankFee := priceRatio.convertFromBtcToCeil feeAmounts.bankFee
      btcPaymentAmount := validatedBtcPaymentAmount
      usdPaymentAmount := paymentAmounts.2
      btcMinerFee := some minerFee })

end OPFBWithConversion

-- ============================================================================
-- The chain of calls in `payOnChainByWalletId`
-- ============================================================================

/-- The builder chain of `payOnChainByWalletId`.  An address that belongs to a
    wallet of the bank is paid inside the ledger, to the account `recipientArgs`
    describes; any other address is paid on chain, with the miner fee
    `estimateFeeForPayout` quoted. -/
def payOnChainByWalletIdFlow (feeConfig : FeesConfig) (config : OnChainPaymentFlowBuilderConfig)
    (address : String) (senderWallet : WalletDescriptor) (senderAccount : Account)
    (recipientArgs : OPFBWithRecipientArgs) {c : WalletCurrency} (amount : PaymentAmount c)
    (conversion : WithConversionArgs) (createdAt now : ℤ) (minerFee : BtcPaymentAmount) :
    Except OnChainPaymentFlowError OnChainPaymentFlow :=
  let withSenderBuilder := OPFBWithAddress.withSenderWalletAndAccount
    (OnChainPaymentFlowBuilder.withAddress config address) senderWallet senderAccount
  if OPFBWithSenderWalletAndAccount.isIntraLedger withSenderBuilder then
    OPFBWithConversion.withoutMinerFee do
      let withRecipient ←
        OPFBWithSenderWalletAndAccount.withRecipientWallet withSenderBuilder recipientArgs
      OPFBWithAmount.withConversion (OPFBWithRecipientWallet.withAmount withRecipient amount)
        createdAt conversion
  else
    let withRecipient := OPFBWithSenderWalletAndAccount.withoutRecipientWallet withSenderBuilder
    OPFBWithConversion.withMinerFee
      (OPFBWithAmount.withConversion (OPFBWithRecipientWallet.withAmount withRecipient amount)
        createdAt conversion)
      feeConfig now minerFee

end Galoy
