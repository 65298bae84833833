/-
  Galoy.Payments.FlowBuilder

  `LightningPaymentFlowBuilder` of `domain/payments/payment-flow-builder.ts`:
  five stages, each a function from the previous stage's state to the next
  one or an error.  `LPFBWithError` is the `.error` of `Except`: every later
  call on it hands the same error on, which is what `>>=` does.

  The async price services are the three `ConversionFns` records, read as
  functions of their argument; the clock read by `withConversion` and the
  random `generateIntraLedgerHash()` are arguments.
-/

import Galoy.Payments.PaymentFlow

namespace Galoy

open AmountCalculator

-- ============================================================================
-- Inputs
-- ============================================================================

/-- A hop of an invoice route hint (`Hop`), the fields that are read. -/
structure Hop where
  nodePubkey : String
  channel : Option String
  deriving DecidableEq, Repr

/-- The fields of a decoded `LnInvoice` that the builder reads. -/
structure LnInvoice where
  destination : String
  paymentHash : String
  description : String
  paymentAmount : Option BtcPaymentAmount
  routeHints : List (List Hop)
  deriving DecidableEq, Repr

/-- `SkipFeeProbeConfig`. -/
structure SkipFeeProbeConfig where
  pubkey : List String
  chanId : List String
  deriving DecidableEq, Repr

/-- `LightningPaymentFlowBuilderConfig`. -/
structure LightningPaymentFlowBuilderConfig where
  localNodeIds : List String
  skipProbe : SkipFeeProbeConfig
  deriving DecidableEq, Repr

/-- `AccountWalletDescriptors`: an account's BTC and USD wallets. -/
structure AccountWalletDescriptors where
  BTC : WalletDescriptor
  USD : WalletDescriptor
  deriving DecidableEq, Repr

/-- `recipientWalletDescriptors[currency]`. -/
def AccountWalletDescriptors.get (descriptors : AccountWalletDescriptors) :
    WalletCurrency → WalletDescriptor
  | .Btc => descriptors.BTC
  | .Usd => descriptors.USD

/-- `LPFBWithRecipientArgs`. -/
structure LPFBWithRecipientArgs where
  defaultWalletCurrency : WalletCurrency
  recipientWalletDescriptors : AccountWalletDescriptors
  userId : String
  pubkey : Option String := none
  usdPaymentAmount : Option UsdPaymentAmount := none
  username : Option String := none
  deriving DecidableEq, Repr

/-- `ConversionFns`: a price service; an error carries the dealer's message. -/
structure ConversionFns where
  usdFromBtc : BtcPaymentAmount → Except String UsdPaymentAmount
  btcFromUsd : UsdPaymentAmount → Except String BtcPaymentAmount

/-- `WithConversionArgs`. -/
structure WithConversionArgs where
  hedgeBuyUsd : ConversionFns
  hedgeSellUsd : ConversionFns
  mid : ConversionFns

/-- `AmountsAndFees`. -/
structure AmountsAndFees where
  btcPaymentAmount : BtcPaymentAmount
  btcProtocolAndBankFee : BtcPaymentAmount
  usdPaymentAmount : UsdPaymentAmount
  usdProtocolAndBankFee : UsdPaymentAmount
  deriving DecidableEq, Repr

-- ============================================================================
-- Stage states
-- ============================================================================

/-- `LPFBWithInvoiceState` (the config it spreads is not read again). -/
structure LPFBWithInvoiceState where
  paymentHash : Option String := none
  intraLedgerHash : Option String := none
  settlementMethod : SettlementMethod
  paymentInitiationMethod : PaymentInitiationMethod
  descriptionFromInvoice : String
  btcPaymentAmount : Option BtcPaymentAmount := none
  inputAmount : Option ℤ := none
  uncheckedAmount : Option ℚ := none
  btcProtocolAndBankFee : Option BtcPaymentAmount
  usdProtocolAndBankFee : Option UsdPaymentAmount
  skipProbeForDestination : Bool
  deriving DecidableEq, Repr

/-- `LPFBWithSenderWalletState`: `inputAmount` is now set. -/
structure LPFBWithSenderWalletState where
  paymentHash : Option String
  intraLedgerHash : Option String
  settlementMethod : SettlementMethod
  paymentInitiationMethod : PaymentInitiationMethod
  descriptionFromInvoice : String
  btcPaymentAmount : Option BtcPaymentAmount
  inputAmount : ℤ
  uncheckedAmount : Option ℚ
  btcProtocolAndBankFee : Option BtcPaymentAmount
  usdProtocolAndBankFee : Option UsdPaymentAmount
  skipProbeForDestination : Bool
  senderWalletId : String
  senderWalletCurrency : WalletCurrency
  senderAccountId : String
  usdPaymentAmount : Option UsdPaymentAmount
  deriving DecidableEq, Repr

/-- `LPFBWithRecipientWalletState`. -/
structure LPFBWithRecipientWalletState extends LPFBWithSenderWalletState where
  recipientWalletId : Option String := none
  recipientWalletCurrency : Option WalletCurrency := none
  recipientPubkey : Option String := none
  recipientUsername : Option String := none
  recipientUserId : Option String := none
  recipientAccountId : Option String := none
  recipientWalletDescriptors : Option AccountWalletDescriptors := none
  deriving DecidableEq, Repr

/-- `LPFBWithConversionState`: the four amounts are now set, and `createdAt`.
    The fields no later stage reads (`uncheckedAmount`, the recipient's
    descriptors) are dropped. -/
structure LPFBWithConversionState where
  paymentHash : Option String
  intraLedgerHash : Option String
  settlementMethod : SettlementMethod
  paymentInitiationMethod : PaymentInitiationMethod
  descriptionFromInvoice : String
  skipProbeForDestination : Bool
  inputAmount : ℤ
  senderWalletId : String
  senderWalletCurrency : WalletCurrency
  senderAccountId : String
  recipientWalletId : Option String
  recipientWalletCurrency : Option WalletCurrency
  recipientPubkey : Option String
  recipientUsername : Option String
  recipientUserId : Option String
  recipientAccountId : Option String
  btcPaymentAmount : BtcPaymentAmount
  btcProtocolAndBankFee : BtcPaymentAmount
  usdPaymentAmount : UsdPaymentAmount
  usdProtocolAndBankFee : UsdPaymentAmount
  createdAt : ℤ
  deriving DecidableEq, Repr

-- ============================================================================
-- LightningPaymentFlowBuilder
-- ============================================================================

namespace LightningPaymentFlowBuilder

variable (config : LightningPaymentFlowBuilderConfig)

/-- What `settlementMethodFromDestination` returns. -/
structure DestinationSettlement where
  settlementMethod : SettlementMethod
  btcProtocolAndBankFee : Option BtcPaymentAmount
  usdProtocolAndBankFee : Option UsdPaymentAmount

/-- An unknown destination or one of our own nodes settles on the ledger, for
    no fee; any other destination settles over Lightning, fee still unknown. -/
def settlementMethodFromDestination (destination : Option String) : DestinationSettlement :=
  let settlementMethod : SettlementMethod :=
    match destination with
    | none => .IntraLedger
    | some destination => if destination ∈ config.localNodeIds then .IntraLedger else .Lightning
  { settlementMethod
    btcProtocolAndBankFee :=
      if settlementMethod = .IntraLedger then some LnFees.intraLedgerFees.btc else none
    usdProtocolAndBankFee :=
      if settlementMethod = .IntraLedger then some LnFees.intraLedgerFees.usd else none }

/-- `parseFinalHopsFromInvoice`: the node before the last of each route hint
    (the only one of a one-hop hint), without repeats. -/
def parseFinalHopsFromInvoice (invoice : LnInvoice) : List String :=
  (invoice.routeHints.filterMap fun route =>
    if route.length > 1 then (route[route.length - 2]?).map (·.nodePubkey)
    else route.head?.map (·.nodePubkey)).eraseDups

/-- `parseFinalChanIdFromInvoice`: the channel of the last hop of each route hint. -/
def parseFinalChanIdFromInvoice (invoice : LnInvoice) : List String :=
  (invoice.routeHints.filterMap fun route => route.getLast?.bind (·.channel)).eraseDups

def skipProbeFromInvoice (invoice : LnInvoice) : Bool :=
  let pubkeyIsFlagged := (parseFinalHopsFromInvoice invoice).any (· ∈ config.skipProbe.pubkey)
  let chanIdIsFlagged := (parseFinalChanIdFromInvoice invoice).any (· ∈ config.skipProbe.chanId)
  pubkeyIsFlagged || chanIdIsFlagged

def withInvoice (invoice : LnInvoice) : Except PaymentFlowError LPFBWithInvoiceState :=
  match invoice.paymentAmount with
  | none => .error (.InvalidLightningPaymentFlowBuilderStateError
      "withInvoice - paymentAmount missing")
  | some paymentAmount =>
    let destination := settlementMethodFromDestination config (some invoice.destination)
    .ok { settlementMethod := destination.settlementMethod
          btcProtocolAndBankFee := destination.btcProtocolAndBankFee
          usdProtocolAndBankFee := destination.usdProtocolAndBankFee
          paymentInitiationMethod := .Lightning
          paymentHash := some invoice.paymentHash
          btcPaymentAmount := some paymentAmount
          inputAmount := some paymentAmount.amount
          descriptionFromInvoice := invoice.description
          skipProbeForDestination := skipProbeFromInvoice config invoice }

def withNoAmountInvoice (invoice : LnInvoice) (uncheckedAmount : ℚ) :
    Except PaymentFlowError LPFBWithInvoiceState :=
  let destination := settlementMethodFromDestination config (some invoice.destination)
  .ok { settlementMethod := destination.settlementMethod
        btcProtocolAndBankFee := destination.btcProtocolAndBankFee
        usdProtocolAndBankFee := destination.usdProtocolAndBankFee
        paymentInitiationMethod := .Lightning
        paymentHash := some invoice.paymentHash
        uncheckedAmount := some uncheckedAmount
        descriptionFromInvoice := invoice.description
        skipProbeForDestination := skipProbeFromInvoice config invoice }

/-- `withoutInvoice`; `intraLedgerHash` is the value `generateIntraLedgerHash()` drew. -/
def withoutInvoice (uncheckedAmount : ℚ) (description intraLedgerHash : String) :
    Except PaymentFlowError LPFBWithInvoiceState :=
  let destination := settlementMethodFromDestination config none
  .ok { settlementMethod := destination.settlementMethod
        btcProtocolAndBankFee := destination.btcProtocolAndBankFee
        usdProtocolAndBankFee := destination.usdProtocolAndBankFee
        paymentInitiationMethod := .IntraLedger
        intraLedgerHash := some intraLedgerHash
        uncheckedAmount := some uncheckedAmount
        descriptionFromInvoice := description
        skipProbeForDestination := false }

end LightningPaymentFlowBuilder

-- ============================================================================
-- LPFBWithInvoice
-- ============================================================================

/-- `{ ...state, senderWalletId, senderWalletCurrency, senderAccountId, inputAmount }`. -/
def LPFBWithInvoiceState.withSender (state : LPFBWithInvoiceState) (senderWallet : WalletDescriptor)
    (inputAmount : ℤ) : LPFBWithSenderWalletState where
  paymentHash := state.paymentHash
  intraLedgerHash := state.intraLedgerHash
  settlementMethod := state.settlementMethod
  paymentInitiationMethod := state.paymentInitiationMethod
  descriptionFromInvoice := state.descriptionFromInvoice
  btcPaymentAmount := state.btcPaymentAmount
  inputAmount := inputAmount
  uncheckedAmount := state.uncheckedAmount
  btcProtocolAndBankFee := state.btcProtocolAndBankFee
  usdProtocolAndBankFee := state.usdProtocolAndBankFee
  skipProbeForDestination := state.skipProbeForDestination
  senderWalletId := senderWallet.id
  senderWalletCurrency := senderWallet.currency
  senderAccountId := senderWallet.accountId
  usdPaymentAmount := none

namespace LPFBWithInvoice

def withSenderWallet (state : LPFBWithInvoiceState) (senderWallet : WalletDescriptor) :
    Except PaymentFlowError LPFBWithSenderWalletState :=
  match state.uncheckedAmount with
  | some uncheckedAmount =>
    if senderWallet.currency = .Btc then
      match checkedToBtcPaymentAmount (some uncheckedAmount) with
      | .error e => .error (.validation e)
      | .ok paymentAmount =>
        .ok { state.withSender senderWallet paymentAmount.amount with
              btcPaymentAmount := some paymentAmount
              btcProtocolAndBankFee :=
                some (state.btcProtocolAndBankFee.getD (LnFees.maxProtocolAndBankFee paymentAmount)) }
    else
      match checkedToUsdPaymentAmount (some uncheckedAmount) with
      | .error e => .error (.validation e)
      | .ok paymentAmount =>
        .ok { state.withSender senderWallet paymentAmount.amount with
              usdPaymentAmount := some paymentAmount
              usdProtocolAndBankFee :=
                some (state.usdProtocolAndBankFee.getD (LnFees.maxProtocolAndBankFee paymentAmount)) }
  | none =>
    match state.inputAmount, state.btcPaymentAmount with
    | some inputAmount, some btcPaymentAmount =>
      -- `inputAmount && btcPaymentAmount`: `0n` is falsy
      if inputAmount = 0 then .error .withSenderWalletImpossible
      else
        .ok { state.withSender senderWallet inputAmount with
              btcPaymentAmount := some btcPaymentAmount
              btcProtocolAndBankFee :=
                some (state.btcProtocolAndBankFee.getD
                  (LnFees.maxProtocolAndBankFee btcPaymentAmount)) }
    | _, _ => .error .withSenderWalletImpossible

end LPFBWithInvoice

-- ============================================================================
-- LPFBWithSenderWallet
-- ============================================================================

namespace LPFBWithSenderWallet

variable (state : LPFBWithSenderWalletState)

def withoutRecipientWallet : Except PaymentFlowError LPFBWithRecipientWalletState :=
  if state.settlementMethod = .IntraLedger then
    .error (.InvalidLightningPaymentFlowBuilderStateError
      "withoutRecipientWallet called but settlementMethod is IntraLedger")
  else .ok { toLPFBWithSenderWalletState := state }

def withRecipientWallet (args : LPFBWithRecipientArgs) :
    Except PaymentFlowError LPFBWithRecipientWalletState :=
  let recipientWalletCurrency := args.defaultWalletCurrency
  let recipient := args.recipientWalletDescriptors.get recipientWalletCurrency
  if recipient.id = state.senderWalletId then .error .SelfPaymentError
  -- `!!usdPaymentAmount === !!state.uncheckedAmount`: a zero amount is falsy
  else if recipientWalletCurrency = .Usd ∧
      args.usdPaymentAmount.isSome = state.uncheckedAmount.any (· ≠ 0) then
    .error (.InvalidLightningPaymentFlowBuilderStateError
      "withRecipientWallet incorrect combination of usdPaymentAmount and uncheckedAmount")
  else
    .ok { toLPFBWithSenderWalletState :=
            { state with usdPaymentAmount := args.usdPaymentAmount <|> state.usdPaymentAmount }
          recipientWalletId := some recipient.id
          recipientWalletCurrency := some recipientWalletCurrency
          recipientPubkey := args.pubkey
          recipientAccountId := some recipient.accountId
          recipientUsername := args.username
          recipientUserId := some args.userId
          recipientWalletDescriptors := some args.recipientWalletDescriptors }

def isIntraLedger : Bool := state.settlementMethod = .IntraLedger

end LPFBWithSenderWallet

-- ============================================================================
-- LPFBWithRecipientWallet
-- ============================================================================

/-- `{ ...stateWithCreatedAt, ...amounts }`. -/
def LPFBWithRecipientWalletState.withAmounts (state : LPFBWithRecipientWalletState)
    (createdAt : ℤ) (amounts : AmountsAndFees) : LPFBWithConversionState where
  paymentHash := state.paymentHash
  intraLedgerHash := state.intraLedgerHash
  settlementMethod := state.settlementMethod
  paymentInitiationMethod := state.paymentInitiationMethod
  descriptionFromInvoice := state.descriptionFromInvoice
  skipProbeForDestination := state.skipProbeForDestination
  inputAmount := state.inputAmount
  senderWalletId := state.senderWalletId
  senderWalletCurrency := state.senderWalletCurrency
  senderAccountId := state.senderAccountId
  recipientWalletId := state.recipientWalletId
  recipientWalletCurrency := state.recipientWalletCurrency
  recipientPubkey := state.recipientPubkey
  recipientUsername := state.recipientUsername
  recipientUserId := state.recipientUserId
  recipientAccountId := state.recipientAccountId
  btcPaymentAmount := amounts.btcPaymentAmount
  btcProtocolAndBankFee := amounts.btcProtocolAndBankFee
  usdPaymentAmount := amounts.usdPaymentAmount
  usdProtocolAndBankFee := amounts.usdProtocolAndBankFee
  createdAt := createdAt

/-- The BTC amount and fee, when both are set. -/
def LPFBWithRecipientWalletState.btcAmounts (state : LPFBWithRecipientWalletState) :
    Option (BtcPaymentAmount × BtcPaymentAmount) :=
  match state.btcPaymentAmount, state.btcProtocolAndBankFee with
  | some amount, some fee => some (amount, fee)
  | _, _ => none

/-- The USD amount and fee, when both are set. -/
def LPFBWithRecipientWalletState.usdAmounts (state : LPFBWithRecipientWalletState) :
    Option (UsdPaymentAmount × UsdPaymentAmount) :=
  match state.usdPaymentAmount, state.usdProtocolAndBankFee with
  | some amount, some fee => some (amount, fee)
  | _, _ => none

/-- A failed `WalletPriceRatio` as the builder returns it. -/
def priceRatioError (_ : InvalidZeroAmountPriceRatioInputError) : PaymentFlowError :=
  .InvalidZeroAmountPriceRatioInputError

namespace LPFBWithRecipientWallet

variable (state : LPFBWithRecipientWalletState) (createdAt : ℤ)

/-- `currentStateFromAllAmountsPresent`. -/
def currentStateFromAllAmountsPresent (amounts : AmountsAndFees) : LPFBWithConversionState :=
  state.withAmounts createdAt amounts

/-- `updatedStateFromBtcPaymentAmountMid`: the USD amount at the mid price and
    the USD fee rounded up at that ratio; with a descriptor, the recipient
    becomes that wallet. -/
def updatedStateFromBtcPaymentAmountMid (mid : ConversionFns)
    (btcPaymentAmount btcProtocolAndBankFee : BtcPaymentAmount)
    (recipientWalletDescriptor : Option WalletDescriptor) :
    Except PaymentFlowError LPFBWithConversionState := do
  let convertedAmount ← (mid.usdFromBtc btcPaymentAmount).mapError .DealerPriceServiceError
  let priceRatio ← (WalletPriceRatio.of convertedAmount btcPaymentAmount).mapError priceRatioError
  let usdProtocolAndBankFee := priceRatio.convertFromBtcToCeil btcProtocolAndBankFee
  let recipientState : LPFBWithRecipientWalletState :=
    match recipientWalletDescriptor with
    | some descriptor =>
      { state with recipientWalletId := some descriptor.id
                   recipientWalletCurrency := some descriptor.currency }
    | none => state
  pure (recipientState.withAmounts createdAt
    ⟨btcPaymentAmount, btcProtocolAndBankFee, convertedAmount, usdProtocolAndBankFee⟩)

/-- `updatedStateFromBtcPaymentAmountDealer`: the dealer buys USD from a BTC
    sender and sells it to a USD sender. -/
def updatedStateFromBtcPaymentAmountDealer (args : WithConversionArgs)
    (btcPaymentAmount btcProtocolAndBankFee : BtcPaymentAmount) :
    Except PaymentFlowError LPFBWithConversionState := do
  let usdFromBtc :=
    if state.senderWalletCurrency = .Btc then args.hedgeBuyUsd.usdFromBtc
    else args.hedgeSellUsd.usdFromBtc
  let convertedAmount ← (usdFromBtc btcPaymentAmount).mapError .DealerPriceServiceError
  let priceRatio ← (WalletPriceRatio.of convertedAmount btcPaymentAmount).mapError priceRatioError
  let usdProtocolAndBankFee := priceRatio.convertFromBtcToCeil btcProtocolAndBankFee
  pure (state.withAmounts createdAt
    ⟨btcPaymentAmount, btcProtocolAndBankFee, convertedAmount, usdProtocolAndBankFee⟩)

/-- `updatedStateFromUsdPaymentAmountMid`. -/
def updatedStateFromUsdPaymentAmountMid (mid : ConversionFns)
    (usdPaymentAmount usdProtocolAndBankFee : UsdPaymentAmount) :
    Except PaymentFlowError LPFBWithConversionState := do
  let convertedAmount ← (mid.btcFromUsd usdPaymentAmount).mapError .DealerPriceServiceError
  let priceRatio ← (WalletPriceRatio.of usdPaymentAmount convertedAmount).mapError priceRatioError
  let btcProtocolAndBankFee := priceRatio.convertFromUsd usdProtocolAndBankFee
  pure (state.withAmounts createdAt
    ⟨convertedAmount, btcProtocolAndBankFee, usdPaymentAmount, usdProtocolAndBankFee⟩)

/-- `updatedStateFromUsdPaymentAmountDealer`. -/
def updatedStateFromUsdPaymentAmountDealer (args : WithConversionArgs)
    (usdPaymentAmount usdProtocolAndBankFee : UsdPaymentAmount) :
    Except PaymentFlowError LPFBWithConversionState := do
  let btcFromUsd :=
    if state.senderWalletCurrency = .Btc then args.hedgeBuyUsd.btcFromUsd
    else args.hedgeSellUsd.btcFromUsd
  let convertedAmount ← (btcFromUsd usdPaymentAmount).mapError .DealerPriceServiceError
  let priceRatio ← (WalletPriceRatio.of usdPaymentAmount convertedAmount).mapError priceRatioError
  let btcProtocolAndBankFee := priceRatio.convertFromUsd usdProtocolAndBankFee
  pure (state.withAmounts createdAt
    ⟨convertedAmount, btcProtocolAndBankFee, usdPaymentAmount, usdProtocolAndBankFee⟩)

/-- `updatedStateFromBtcPaymentAmountDealerFallbackMid`: when the dealer's USD
    amount is zero, pay the recipient's BTC wallet at the mid price instead. -/
def updatedStateFromBtcPaymentAmountDealerFallbackMid (args : WithConversionArgs)
    (btcPaymentAmount btcProtocolAndBankFee : BtcPaymentAmount) :
    Except PaymentFlowError LPFBWithConversionState :=
  match updatedStateFromBtcPaymentAmountDealer state createdAt args btcPaymentAmount
      btcProtocolAndBankFee with
  | .error .InvalidZeroAmountPriceRatioInputError =>
    match state.recipientWalletDescriptors with
    | none => .error (.InvalidLightningPaymentFlowBuilderStateError
        "expected recipient BTC wallet missing")
    | some descriptors =>
      if descriptors.BTC.id = state.senderWalletId then .error .SubOneCentSatAmountForUsdSelfSendError
      else updatedStateFromBtcPaymentAmountMid state createdAt args.mid btcPaymentAmount
        btcProtocolAndBankFee (some descriptors.BTC)
  | updatedState => updatedState

/-- `withConversion`, at the time `createdAt` that `new Date()` reads. -/
def withConversion (args : WithConversionArgs) :
    Except PaymentFlowError LPFBWithConversionState :=
  let noConversionRequired : Bool :=
    (state.senderWalletCurrency = .Btc ∧ state.settlementMethod = .Lightning) ∨
      state.recipientWalletCurrency = some state.senderWalletCurrency
  let isUsdRecipient : Bool := state.recipientWalletCurrency = some .Usd
  if noConversionRequired then
    match state.btcAmounts, state.usdAmounts with
    | some (btcPaymentAmount, btcProtocolAndBankFee),
        some (usdPaymentAmount, usdProtocolAndBankFee) =>
      .ok (currentStateFromAllAmountsPresent state createdAt
        ⟨btcPaymentAmount, btcProtocolAndBankFee, usdPaymentAmount, usdProtocolAndBankFee⟩)
    | some (btcPaymentAmount, btcProtocolAndBankFee), none =>
      updatedStateFromBtcPaymentAmountMid state createdAt args.mid btcPaymentAmount
        btcProtocolAndBankFee none
    | none, some (usdPaymentAmount, usdProtocolAndBankFee) =>
      updatedStateFromUsdPaymentAmountMid state createdAt args.mid usdPaymentAmount
        usdProtocolAndBankFee
    | none, none =>
      .error (.InvalidLightningPaymentFlowBuilderStateError
        "withConversion - btcPaymentAmount || btcProtocolAndBankFee not set")
  else
    match state.btcAmounts, state.usdAmounts with
    | some (btcPaymentAmount, btcProtocolAndBankFee),
        some (usdPaymentAmount, usdProtocolAndBankFee) =>
      if isUsdRecipient then
        .ok (currentStateFromAllAmountsPresent state createdAt
          ⟨btcPaymentAmount, btcProtocolAndBankFee, usdPaymentAmount, usdProtocolAndBankFee⟩)
      else
        updatedStateFromBtcPaymentAmountDealerFallbackMid state createdAt args btcPaymentAmount
          btcProtocolAndBankFee
    | some (btcPaymentAmount, btcProtocolAndBankFee), none =>
      updatedStateFromBtcPaymentAmountDealerFallbackMid state createdAt args btcPaymentAmount
        btcProtocolAndBankFee
    | none, some (usdPaymentAmount, usdProtocolAndBankFee) =>
      updatedStateFromUsdPaymentAmountDealer state createdAt args usdPaymentAmount
        usdProtocolAndBankFee
    | none, none =>
      .error (.InvalidLightningPaymentFlowBuilderStateError
        "withConversion - impossible withConversion state")

end LPFBWithRecipientWallet

-- ============================================================================
-- LPFBWithConversion
-- ============================================================================

namespace LPFBWithConversion

variable (state : LPFBWithConversionState)

/-- `paymentFromState`: the flow keeps the payment hash if there is one, else
    the intraledger hash. -/
def paymentFromState (outgoingNodePubkey : Option String) (checkedRoute : Option RawRoute) :
    Except PaymentFlowError PaymentFlow :=
  let hash : Except PaymentFlowError (Option String × Option String) :=
    if truthy state.paymentHash then .ok (state.paymentHash, none)
    else if truthy state.intraLedgerHash then .ok (none, state.intraLedgerHash)
    else .error .InvalidLightningPaymentFlowStateError
  hash.map fun (paymentHash, intraLedgerHash) =>
    { paymentHash
      intraLedgerHash
      senderWalletId := state.senderWalletId
      senderWalletCurrency := state.senderWalletCurrency
      senderAccountId := state.senderAccountId
      recipientWalletId := state.recipientWalletId
      recipientWalletCurrency := state.recipientWalletCurrency
      recipientAccountId := state.recipientAccountId
      recipientPubkey := state.recipientPubkey
      recipientUsername := state.recipientUsername
      recipientUserId := state.recipientUserId
      descriptionFromInvoice := state.descriptionFromInvoice
      skipProbeForDestination := state.skipProbeForDestination
      btcPaymentAmount := state.btcPaymentAmount
      usdPaymentAmount := state.usdPaymentAmount
      inputAmount := state.inputAmount
      createdAt := state.createdAt
      paymentSentAndPending := false
      settlementMethod := state.settlementMethod
      paymentInitiationMethod := state.paymentInitiationMethod
      btcProtocolAndBankFee := state.btcProtocolAndBankFee
      usdProtocolAndBankFee := state.usdProtocolAndBankFee
      outgoingNodePubkey := outgoingNodePubkey
      cachedRoute := checkedRoute }

def withoutRoute : Except PaymentFlowError PaymentFlow :=
  paymentFromState state none none

/-- `withRoute`: the fee is the probed route's, in USD rounded up at the
    flow's own ratio. -/
def withRoute (pubkey : String) (rawRoute : RawRoute) : Except PaymentFlowError PaymentFlow := do
  let priceRatio ←
    (WalletPriceRatio.of state.usdPaymentAmount state.btcPaymentAmount).mapError priceRatioError
  let btcProtocolAndBankFee ← (LnFees.feeFromRawRoute rawRoute).mapError .validation
  let usdProtocolAndBankFee := priceRatio.convertFromBtcToCeil btcProtocolAndBankFee
  paymentFromState { state with btcProtocolAndBankFee, usdProtocolAndBankFee } (some pubkey)
    (some rawRoute)

def isIntraLedger : Bool := state.settlementMethod = .IntraLedger

def isTradeIntraAccount : Bool :=
  some state.senderAccountId = state.recipientAccountId ∧
    some state.senderWalletCurrency ≠ state.recipientWalletCurrency

end LPFBWithConversion

-- ============================================================================
-- A whole chain of calls
-- ============================================================================

/-- The first call on a `LightningPaymentFlowBuilder`. -/
inductive InvoiceStep where
  | withInvoice (invoice : LnInvoice)
  | withNoAmountInvoice (invoice : LnInvoice) (uncheckedAmount : ℚ)
  /-- `intraLedgerHash` is what `generateIntraLedgerHash()` draws. -/
  | withoutInvoice (uncheckedAmount : ℚ) (description intraLedgerHash : String)

/-- The call that fixes the recipient. -/
inductive RecipientStep where
  | withoutRecipientWallet
  | withRecipientWallet (args : LPFBWithRecipientArgs)

/-- The call that ends the chain. -/
inductive RouteStep where
  | withoutRoute
  | withRoute (pubkey : String) (rawRoute : RawRoute)

def InvoiceStep.run (config : LightningPaymentFlowBuilderConfig) :
    InvoiceStep → Except PaymentFlowError LPFBWithInvoiceState
  | .withInvoice invoice => LightningPaymentFlowBuilder.withInvoice config invoice
  | .withNoAmountInvoice invoice uncheckedAmount =>
    LightningPaymentFlowBuilder.withNoAmountInvoice config invoice uncheckedAmount
  | .withoutInvoice uncheckedAmount description intraLedgerHash =>
    LightningPaymentFlowBuilder.withoutInvoice config uncheckedAmount description intraLedgerHash

def RecipientStep.run (state : LPFBWithSenderWalletState) :
    RecipientStep → Except PaymentFlowError LPFBWithRecipientWalletState
  | .withoutRecipientWallet => LPFBWithSenderWallet.withoutRecipientWallet state
  | .withRecipientWallet args => LPFBWithSenderWallet.withRecipientWallet state args

def RouteStep.run (state : LPFBWithConversionState) :
    RouteStep → Except PaymentFlowError PaymentFlow
  | .withoutRoute => LPFBWithConversion.withoutRoute state
  | .withRoute pubkey rawRoute => LPFBWithConversion.withRoute state pubkey rawRoute

/-- `LightningPaymentFlowBuilder(config).<invoice>.withSenderWallet(senderWallet)
    .<recipient>.withConversion(conversion).<route>`. -/
def buildLightningPaymentFlow (config : LightningPaymentFlowBuilderConfig)
    (invoiceStep : InvoiceStep) (senderWallet : WalletDescriptor) (recipientStep : RecipientStep)
    (conversion : WithConversionArgs) (createdAt : ℤ) (routeStep : RouteStep) :
    Except PaymentFlowError PaymentFlow := do
  let withInvoice ← invoiceStep.run config
  let withSenderWallet ← LPFBWithInvoice.withSenderWallet withInvoice senderWallet
  let withRecipientWallet ← recipientStep.run withSenderWallet
  let withConversion ←
    LPFBWithRecipientWallet.withConversion withRecipientWallet createdAt conversion
  routeStep.run withConversion

end Galoy
