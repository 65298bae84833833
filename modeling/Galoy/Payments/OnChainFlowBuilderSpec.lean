/-
  Galoy.Payments.OnChainFlowBuilderSpec

  What every on-chain flow of `payOnChainByWalletId`'s chain of builder calls
  satisfies.

  Each stage has an inversion lemma.  `withConversion`'s branches fold into one
  fact about the converted state: the recipient is kept or moved to a wallet
  that is not the sender's, and both proposed amounts are positive.
  `stateFromPromise` folds into the three facts it checks, and each fee stage
  into the amounts it pays.  Beyond its own check, the dust threshold matters
  once: in a USD send-all the remainder in cents is converted back with a floor
  of one sat, so a threshold of two sats is what keeps that remainder positive.
-/

import Galoy.Payments.OnChainFlowBuilder
import Galoy.Payments.FlowBuilderSpec

namespace Galoy

open AmountCalculator

-- ============================================================================
-- Price services and ratios
-- ============================================================================

/-- A price service that never quotes a negative amount. -/
def ConversionFns.NonNegative (fns : ConversionFns) : Prop :=
  (∀ b u, fns.usdFromBtc b = .ok u → 0 ≤ u.amount) ∧
    (∀ u b, fns.btcFromUsd u = .ok b → 0 ≤ b.amount)

/-- None of the three price services quotes a negative amount. -/
def WithConversionArgs.NonNegative (args : WithConversionArgs) : Prop :=
  args.hedgeBuyUsd.NonNegative ∧ args.hedgeSellUsd.NonNegative ∧ args.mid.NonNegative

namespace WalletPriceRatio

variable {usd : UsdPaymentAmount} {btc : BtcPaymentAmount} {r : WalletPriceRatio}

/-- A ratio of two amounts that are not negative is a ratio of two positive ones. -/
theorem pos_of_of_eq_ok (hUsd : 0 ≤ usd.amount) (hBtc : 0 ≤ btc.amount)
    (h : of usd btc = .ok r) : 0 < usd.amount ∧ 0 < btc.amount := by
  obtain ⟨hOther, hWallet⟩ := of_ok h
  have hUsdNe : usd.amount ≠ 0 := hOther ▸ r.priceRatio.other_ne_zero
  have hBtcNe : btc.amount ≠ 0 := hWallet ▸ r.priceRatio.walletAmount_ne_zero
  omega

/-- The ratio of two positive amounts has both its sides positive. -/
theorem sides_pos_of_of_eq_ok (hUsd : 0 < usd.amount) (hBtc : 0 < btc.amount)
    (h : of usd btc = .ok r) : 0 < r.priceRatio.other ∧ 0 < r.priceRatio.walletAmount.amount := by
  obtain ⟨hOther, hWallet⟩ := of_ok h
  rw [hOther, hWallet]
  exact ⟨hUsd, hBtc⟩

end WalletPriceRatio

-- ============================================================================
-- The recipient and amount stages
-- ============================================================================

namespace OPFBWithSenderWalletAndAccount

variable {state : OPFBWithSenderWalletAndAccountState} {args : OPFBWithRecipientArgs}
  {s : OPFBWithRecipientWalletState}

theorem withRecipientWallet_ok (h : withRecipientWallet state args = .ok s) :
    s.toOPFBWithSenderWalletAndAccountState = state ∧ s.settlementMethod = .IntraLedger ∧
      s.recipientWalletId = some (args.recipientWalletDescriptors.get args.defaultWalletCurrency).id ∧
      (args.recipientWalletDescriptors.get args.defaultWalletCurrency).id ≠ state.senderWalletId := by
  unfold withRecipientWallet at h
  dsimp only at h
  split at h
  · cases h
  · rename_i hNotSelf
    cases h
    exact ⟨rfl, rfl, rfl, hNotSelf⟩

end OPFBWithSenderWalletAndAccount

/-- Every amount proposed so far is positive. -/
def OPFBWithAmountState.ProposedPositive (state : OPFBWithAmountState) : Prop :=
  (∀ b, state.btcProposedAmount = some b → 0 < b.amount) ∧
    (∀ u, state.usdProposedAmount = some u → 0 < u.amount)

namespace OPFBWithRecipientWallet

variable (state : OPFBWithRecipientWalletState) {c : WalletCurrency} (amount : PaymentAmount c)

@[simp] theorem withAmount_toOPFBWithRecipientWalletState :
    (withAmount state amount).toOPFBWithRecipientWalletState = state := by
  cases c <;> rfl

theorem withAmount_proposedPositive {amount : PaymentAmount c} (hAmount : 0 < amount.amount) :
    (withAmount state amount).ProposedPositive := by
  cases c with
  | Btc =>
    refine ⟨fun b hb => ?_, fun u hu => (nomatch hu)⟩
    cases hb
    exact hAmount
  | Usd =>
    refine ⟨fun b hb => (nomatch hb), fun u hu => ?_⟩
    cases hu
    exact hAmount

end OPFBWithRecipientWallet

-- ============================================================================
-- The conversion helpers
-- ============================================================================

/-- The recipient a conversion ends with: the one chosen, or, after the
    sub-one-cent fallback, the recipient's BTC wallet, never the sender's. -/
def OPFBWithRecipientWalletState.Redirected (state recipientState : OPFBWithRecipientWalletState) :
    Prop :=
  recipientState = state ∨
    ∃ descriptor : WalletDescriptor, descriptor.id ≠ state.senderWalletId ∧
      recipientState = { state with recipientWalletId := some descriptor.id
                                    recipientWalletCurrency := some descriptor.currency }

namespace OPFBWithRecipientWalletState.Redirected

variable {state recipientState : OPFBWithRecipientWalletState} (h : state.Redirected recipientState)
include h

theorem sender_eq :
    recipientState.toOPFBWithSenderWalletAndAccountState =
      state.toOPFBWithSenderWalletAndAccountState := by
  rcases h with rfl | ⟨descriptor, -, rfl⟩ <;> rfl

theorem settlementMethod_eq : recipientState.settlementMethod = state.settlementMethod := by
  rcases h with rfl | ⟨descriptor, -, rfl⟩ <;> rfl

/-- A recipient that is not the sender stays one. -/
theorem recipient_ne_sender
    (hState : ∃ r, state.recipientWalletId = some r ∧ r ≠ state.senderWalletId) :
    ∃ r, recipientState.recipientWalletId = some r ∧ r ≠ recipientState.senderWalletId := by
  rcases h with rfl | ⟨descriptor, hNotSender, rfl⟩
  · exact hState
  · exact ⟨descriptor.id, rfl, hNotSender⟩

end OPFBWithRecipientWalletState.Redirected

/-- What `withConversion` keeps of the amount stage's state, and the two
    amounts it fixes: the amount proposed is kept, the other one is positive. -/
structure OPFBWithConversionState.ConvertedFrom (s : OPFBWithConversionState)
    (state : OPFBWithAmountState) : Prop where
  redirected : state.toOPFBWithRecipientWalletState.Redirected s.toOPFBWithRecipientWalletState
  btc_pos : 0 < s.btcProposedAmount.amount
  usd_pos : 0 < s.usdProposedAmount.amount
  btc_kept : ∀ b, state.btcProposedAmount = some b → s.btcProposedAmount = b
  usd_kept : state.btcProposedAmount = none →
    ∀ u, state.usdProposedAmount = some u → s.usdProposedAmount = u

namespace OPFBWithAmount

variable {state : OPFBWithAmountState} {createdAt : ℤ} {args : WithConversionArgs}
  {s : OPFBWithConversionState}

/-- The BTC amount proposed, and a USD amount derived from it. -/
theorem withProposedAmounts_convertedFrom_btc {recipientState : OPFBWithAmountState}
    {b : BtcPaymentAmount} {u : UsdPaymentAmount}
    (hRedirected : state.toOPFBWithRecipientWalletState.Redirected
      recipientState.toOPFBWithRecipientWalletState)
    (hState : state.btcProposedAmount = some b) (hb : 0 < b.amount) (hu : 0 < u.amount) :
    (recipientState.withProposedAmounts createdAt b u).ConvertedFrom state := by
  refine ⟨hRedirected, hb, hu, fun b' hb' => ?_, fun hNone => ?_⟩
  · rw [hState] at hb'
    exact Option.some.inj hb'
  · rw [hState] at hNone
    cases hNone

/-- The USD amount proposed, and a BTC amount derived from it. -/
theorem withProposedAmounts_convertedFrom_usd {b : BtcPaymentAmount} {u : UsdPaymentAmount}
    (hNoBtc : state.btcProposedAmount = none) (hState : state.usdProposedAmount = some u)
    (hb : 0 < b.amount) (hu : 0 < u.amount) :
    (state.withProposedAmounts createdAt b u).ConvertedFrom state := by
  refine ⟨.inl rfl, hb, hu, fun b' hb' => ?_, fun _ u' hu' => ?_⟩
  · rw [hNoBtc] at hb'
    cases hb'
  · rw [hState] at hu'
    exact Option.some.inj hu'

/-- The mid price, into the recipient chosen or into a wallet that is not the
    sender's. -/
theorem updatedStateFromBtcProposedAmountMid_convertedFrom {mid : ConversionFns}
    {b : BtcPaymentAmount} {descriptor? : Option WalletDescriptor}
    (hMid : mid.NonNegative) (hState : state.btcProposedAmount = some b) (hb : 0 < b.amount)
    (hDescriptor : ∀ descriptor, descriptor? = some descriptor →
      descriptor.id ≠ state.senderWalletId)
    (h : updatedStateFromBtcProposedAmountMid state createdAt mid b descriptor? = .ok s) :
    s.ConvertedFrom state := by
  obtain ⟨raw, hRaw, h⟩ := Except.bind_eq_ok h
  obtain ⟨priceRatio, hRatio, h⟩ := Except.bind_eq_ok h
  cases h
  -- a zero quote for a positive sat amount was rounded up to one cent
  have hRounded : 0 ≤ (if b.amount > 0 ∧ raw.amount = 0 then ONE_CENT else raw).amount := by
    split
    · exact Int.one_nonneg
    · exact hMid.1 b raw (Except.mapError_eq_ok hRaw)
  have hu := (WalletPriceRatio.pos_of_of_eq_ok hRounded hb.le (Except.mapError_eq_ok hRatio)).1
  refine withProposedAmounts_convertedFrom_btc ?_ hState hb hu
  cases descriptor? with
  | none => exact .inl rfl
  | some descriptor => exact .inr ⟨descriptor, hDescriptor descriptor rfl, rfl⟩

theorem updatedStateFromBtcProposedAmountDealer_convertedFrom {b : BtcPaymentAmount}
    (hPrices : args.NonNegative) (hState : state.btcProposedAmount = some b) (hb : 0 < b.amount)
    (h : updatedStateFromBtcProposedAmountDealer state createdAt args b = .ok s) :
    s.ConvertedFrom state := by
  obtain ⟨u, hQuote, h⟩ := Except.bind_eq_ok h
  obtain ⟨priceRatio, hRatio, h⟩ := Except.bind_eq_ok h
  cases h
  -- the dealer buys from a BTC sender and sells to a USD one
  have hNonneg : 0 ≤ u.amount := by
    have hUsd := Except.mapError_eq_ok hQuote
    split at hUsd
    · exact hPrices.1.1 b u hUsd
    · exact hPrices.2.1.1 b u hUsd
  have hu := (WalletPriceRatio.pos_of_of_eq_ok hNonneg hb.le (Except.mapError_eq_ok hRatio)).1
  exact withProposedAmounts_convertedFrom_btc (.inl rfl) hState hb hu

theorem updatedStateFromUsdProposedAmount_convertedFrom
    {btcFromUsd : UsdPaymentAmount → Except String BtcPaymentAmount} {u : UsdPaymentAmount}
    (hQuotes : ∀ u b, btcFromUsd u = .ok b → 0 ≤ b.amount) (hNoBtc : state.btcProposedAmount = none)
    (hState : state.usdProposedAmount = some u) (hu : 0 < u.amount)
    (h : updatedStateFromUsdProposedAmount state createdAt btcFromUsd u = .ok s) :
    s.ConvertedFrom state := by
  obtain ⟨b, hQuote, h⟩ := Except.bind_eq_ok h
  obtain ⟨priceRatio, hRatio, h⟩ := Except.bind_eq_ok h
  cases h
  have hNonneg := hQuotes u b (Except.mapError_eq_ok hQuote)
  have hb := (WalletPriceRatio.pos_of_of_eq_ok hu.le hNonneg (Except.mapError_eq_ok hRatio)).2
  exact withProposedAmounts_convertedFrom_usd hNoBtc hState hb hu

/-- The dealer's quote, or the mid price paid into the recipient's BTC wallet. -/
theorem updatedStateFromBtcProposedAmountDealerFallbackMid_convertedFrom {b : BtcPaymentAmount}
    (hPrices : args.NonNegative) (hState : state.btcProposedAmount = some b) (hb : 0 < b.amount)
    (h : updatedStateFromBtcProposedAmountDealerFallbackMid state createdAt args b = .ok s) :
    s.ConvertedFrom state := by
  unfold updatedStateFromBtcProposedAmountDealerFallbackMid at h
  split at h
  · -- the dealer's USD amount was zero: fall back to the mid price
    split at h
    · cases h
    · rename_i descriptors _
      split at h
      · cases h
      · rename_i hNotSender
        refine updatedStateFromBtcProposedAmountMid_convertedFrom hPrices.2.2 hState hb ?_ h
        intro descriptor hDescriptor
        cases hDescriptor
        exact hNotSender
  · exact updatedStateFromBtcProposedAmountDealer_convertedFrom hPrices hState hb h

/-- Every branch of `withConversion` keeps the recipient or moves it to a wallet
    that is not the sender's, keeps the amount proposed and fixes a positive
    amount in the other currency. -/
theorem withConversion_convertedFrom (hPrices : args.NonNegative)
    (hProposed : state.ProposedPositive) (h : withConversion state createdAt args = .ok s) :
    s.ConvertedFrom state := by
  obtain ⟨hBtcPos, hUsdPos⟩ := hProposed
  have hNoDescriptor : ∀ descriptor : WalletDescriptor, (none : Option WalletDescriptor) =
      some descriptor → descriptor.id ≠ state.senderWalletId := fun _ hNone => nomatch hNone
  -- the branch is chosen by whether a conversion is needed, then by which amounts are set
  rcases hBtc : state.btcProposedAmount with _ | b <;>
    rcases hUsd : state.usdProposedAmount with _ | u <;>
    simp only [withConversion, hBtc, hUsd] at h
  · split at h <;> cases h
  · have hu := hUsdPos u hUsd
    split at h
    · exact updatedStateFromUsdProposedAmount_convertedFrom hPrices.2.2.2 hBtc hUsd hu h
    · refine updatedStateFromUsdProposedAmount_convertedFrom ?_ hBtc hUsd hu h
      split
      · exact hPrices.1.2
      · exact hPrices.2.1.2
  · have hb := hBtcPos b hBtc
    split at h
    · exact updatedStateFromBtcProposedAmountMid_convertedFrom hPrices.2.2 hBtc hb
        hNoDescriptor h
    · exact updatedStateFromBtcProposedAmountDealerFallbackMid_convertedFrom hPrices hBtc hb h
  · have hb := hBtcPos b hBtc
    split at h
    · cases h
      exact withProposedAmounts_convertedFrom_btc (.inl rfl) hBtc hb (hUsdPos u hUsd)
    · exact updatedStateFromBtcProposedAmountDealerFallbackMid_convertedFrom hPrices hBtc hb h

/-- Converting a positive amount keeps the recipient stage it was given, or
    redirects it. -/
theorem withAmount_withConversion_convertedFrom {recipientState : OPFBWithRecipientWalletState}
    {c : WalletCurrency} {amount : PaymentAmount c} (hAmount : 0 < amount.amount)
    (hPrices : args.NonNegative)
    (h : withConversion (OPFBWithRecipientWallet.withAmount recipientState amount) createdAt args =
      .ok s) :
    s.ConvertedFrom (OPFBWithRecipientWallet.withAmount recipientState amount) ∧
      recipientState.Redirected s.toOPFBWithRecipientWalletState := by
  have hConverted := withConversion_convertedFrom hPrices
    (OPFBWithRecipientWallet.withAmount_proposedPositive _ hAmount) h
  have hRedirected := hConverted.redirected
  rw [OPFBWithRecipientWallet.withAmount_toOPFBWithRecipientWalletState] at hRedirected
  exact ⟨hConverted, hRedirected⟩

end OPFBWithAmount

-- ============================================================================
-- The checks and the fee stages
-- ============================================================================

/-- What `stateFromPromise` checks of a converted state. -/
structure OPFBWithConversionState.Checked (s : OPFBWithConversionState) : Prop where
  settlement : s.settlementMethod = if s.isExternalAddress s.address then .OnChain else .IntraLedger
  recipient : s.settlementMethod = .IntraLedger → truthy s.recipientWalletId = true
  dust : s.settlementMethod ≠ .IntraLedger → s.dustThreshold ≤ s.btcProposedAmount.amount

namespace OPFBWithConversion

variable {state s : OPFBWithConversionState}
  {statePromise : Except OnChainPaymentFlowError OPFBWithConversionState}

theorem validateBtcPaymentAmountForDust_ok {b b' : BtcPaymentAmount}
    (h : validateBtcPaymentAmountForDust state b = .ok b') :
    b' = b ∧ (state.settlementMethod ≠ .IntraLedger → state.dustThreshold ≤ b.amount) := by
  unfold validateBtcPaymentAmountForDust at h
  split at h
  · cases h
  · rename_i hDust
    cases h
    refine ⟨rfl, fun hOnChain => ?_⟩
    by_contra hLess
    exact hDust ⟨hOnChain, by omega⟩

theorem stateFromPromise_ok (h : stateFromPromise statePromise = .ok s) :
    statePromise = .ok s ∧ s.Checked := by
  unfold stateFromPromise at h
  obtain ⟨state, hState, h⟩ := Except.bind_eq_ok h
  dsimp only at h
  generalize hFromAddress : (if (!state.isExternalAddress state.address) = true then
    SettlementMethod.IntraLedger else .OnChain) = settlementMethodFromAddress at h
  split at h
  · cases h
  · rename_i hAgree
    obtain ⟨b, hValid, h⟩ := Except.bind_eq_ok h
    cases h
    push Not at hAgree
    obtain ⟨hSettlement, hRecipient⟩ := hAgree
    refine ⟨hState, ⟨?_, ?_, (validateBtcPaymentAmountForDust_ok hValid).2⟩⟩
    · rw [hSettlement, ← hFromAddress]
      cases s.isExternalAddress s.address <;> rfl
    · intro hIntraLedger
      simpa using hRecipient hIntraLedger

/-- `withoutMinerFee` pays the proposed amounts and no fee. -/
theorem withoutMinerFee_ok {flow : OnChainPaymentFlow} (h : withoutMinerFee statePromise = .ok flow) :
    ∃ s, stateFromPromise statePromise = .ok s ∧
      flow = s.toOnChainPaymentFlow ⟨s.btcProposedAmount, s.usdProposedAmount,
        ZERO_SATS, ZERO_CENTS, ZERO_SATS, ZERO_CENTS, none⟩ := by
  obtain ⟨s, hState, h⟩ := Except.bind_eq_ok h
  cases h
  exact ⟨s, hState, rfl⟩

/-- `withMinerFee` pays the amounts left after the withdrawal fee, once the BTC
    one passes the dust check. -/
theorem withMinerFee_ok {feeConfig : FeesConfig} {now : ℤ} {minerFee : BtcPaymentAmount}
    {flow : OnChainPaymentFlow} (h : withMinerFee statePromise feeConfig now minerFee = .ok flow) :
    ∃ s priceRatio feeArgs fees amounts, stateFromPromise statePromise = .ok s ∧
      WalletPriceRatio.of s.usdProposedAmount s.btcProposedAmount = .ok priceRatio ∧
      feeArgs.minerFee = minerFee ∧ feeArgs.amount = s.btcProposedAmount ∧
      OnChainFees.withdrawalFee feeConfig.onChainFees feeArgs = fees ∧
      s.paymentAmountsAfterFee priceRatio fees.totalFee
        (priceRatio.convertFromBtcToCeil fees.totalFee) = amounts ∧
      (s.settlementMethod ≠ .IntraLedger → s.dustThreshold ≤ amounts.1.amount) ∧
      flow = s.toOnChainPaymentFlow ⟨amounts.1, amounts.2, fees.totalFee,
        priceRatio.convertFromBtcToCeil fees.totalFee, fees.bankFee,
        priceRatio.convertFromBtcToCeil fees.bankFee, some minerFee⟩ := by
  obtain ⟨s, hState, h⟩ := Except.bind_eq_ok h
  obtain ⟨priceRatio, hRatio, h⟩ := Except.bind_eq_ok h
  obtain ⟨minBankFee, -, h⟩ := Except.bind_eq_ok h
  obtain ⟨imbalanceForWallet, -, h⟩ := Except.bind_eq_ok h
  obtain ⟨validated, hValid, h⟩ := Except.bind_eq_ok h
  obtain ⟨rfl, hDust⟩ := validateBtcPaymentAmountForDust_ok hValid
  cases h
  exact ⟨s, priceRatio, _, _, _, hState, Except.mapError_eq_ok hRatio, rfl, rfl, rfl, rfl,
    hDust, rfl⟩

end OPFBWithConversion

/-- Once the BTC amount paid reaches two sats, both amounts paid are positive:
    under a USD send-all, a remainder of zero cents or less would convert to at
    most one sat. -/
theorem OPFBWithConversionState.paymentAmountsAfterFee_pos {s : OPFBWithConversionState}
    {priceRatio : WalletPriceRatio} {btcFee : BtcPaymentAmount} {usdFee : UsdPaymentAmount}
    {amounts : BtcPaymentAmount × UsdPaymentAmount}
    (hRatio : WalletPriceRatio.of s.usdProposedAmount s.btcProposedAmount = .ok priceRatio)
    (hBtc : 0 < s.btcProposedAmount.amount) (hUsd : 0 < s.usdProposedAmount.amount)
    (hAmounts : s.paymentAmountsAfterFee priceRatio btcFee usdFee = amounts)
    (hTwo : 2 ≤ amounts.1.amount) : 0 < amounts.1.amount ∧ 0 < amounts.2.amount := by
  subst hAmounts
  obtain ⟨hOther, hWallet⟩ := WalletPriceRatio.sides_pos_of_of_eq_ok hUsd hBtc hRatio
  refine ⟨by omega, ?_⟩
  by_cases hSendAll : s.sendAll = true
  · cases hCurrency : s.senderWalletCurrency with
    | Btc =>
      simp only [paymentAmountsAfterFee, hSendAll, hCurrency, if_true] at hTwo ⊢
      exact WalletPriceRatio.convertFromBtc_pos hOther hWallet (by omega)
    | Usd =>
      simp only [paymentAmountsAfterFee, hSendAll, hCurrency, if_true] at hTwo ⊢
      by_contra hNonpos
      have hOne := WalletPriceRatio.convertFromUsd_le_one hOther hWallet (not_lt.mp hNonpos)
      omega
  · simp only [paymentAmountsAfterFee, hSendAll]
    exact hUsd

/-- Under `sendAll`, the amount paid and the fee add back up to the proposed
    amount in the sender's currency. -/
theorem OPFBWithConversionState.paymentAmountsAfterFee_add_fee {s : OPFBWithConversionState}
    {priceRatio : WalletPriceRatio} {btcFee : BtcPaymentAmount} {usdFee : UsdPaymentAmount}
    (hSendAll : s.sendAll = true) :
    (s.senderWalletCurrency = .Btc →
      add (s.paymentAmountsAfterFee priceRatio btcFee usdFee).1 btcFee = s.btcProposedAmount) ∧
    (s.senderWalletCurrency = .Usd →
      add (s.paymentAmountsAfterFee priceRatio btcFee usdFee).2 usdFee = s.usdProposedAmount) := by
  refine ⟨fun hCurrency => ?_, fun hCurrency => ?_⟩ <;>
  · ext
    simp only [paymentAmountsAfterFee, hSendAll, hCurrency, if_true, add_amount, sub_amount]
    omega

-- ============================================================================
-- The chain of `payOnChainByWalletId`
-- ============================================================================

section Chain

variable {feeConfig : FeesConfig} {config : OnChainPaymentFlowBuilderConfig} {address : String}
  {senderWallet : WalletDescriptor} {senderAccount : Account}
  {recipientArgs : OPFBWithRecipientArgs} {c : WalletCurrency} {amount : PaymentAmount c}
  {conversion : WithConversionArgs} {createdAt now : ℤ} {minerFee : BtcPaymentAmount}
  {flow : OnChainPaymentFlow}

/-- The sender stage asks `isExternalAddress` about the address it was given. -/
@[simp] theorem isIntraLedger_withSender :
    OPFBWithSenderWalletAndAccount.isIntraLedger (OPFBWithAddress.withSenderWalletAndAccount
      (OnChainPaymentFlowBuilder.withAddress config address) senderWallet senderAccount) =
      !config.isExternalAddress address :=
  rfl

/-- An address of the bank: the flow pays a wallet that is not the sender's,
    inside the ledger, positive amounts and no fee. -/
theorem payOnChainByWalletIdFlow_internal (hAmount : 0 < amount.amount)
    (hPrices : conversion.NonNegative) (hInternal : config.isExternalAddress address = false)
    (h : payOnChainByWalletIdFlow feeConfig config address senderWallet senderAccount recipientArgs
      amount conversion createdAt now minerFee = .ok flow) :
    flow.settlementMethod = .IntraLedger ∧
      (∃ r, flow.recipientWalletId = some r ∧ r ≠ flow.senderWalletId) ∧
      0 < flow.btcPaymentAmount.amount ∧ 0 < flow.usdPaymentAmount.amount ∧
      flow.btcProtocolAndBankFee = ZERO_SATS ∧ flow.usdProtocolAndBankFee = ZERO_CENTS ∧
      flow.btcBankFee = ZERO_SATS ∧ flow.usdBankFee = ZERO_CENTS := by
  simp only [payOnChainByWalletIdFlow, isIntraLedger_withSender, hInternal, Bool.not_false,
    if_true] at h
  obtain ⟨s, hState, rfl⟩ := OPFBWithConversion.withoutMinerFee_ok h
  obtain ⟨hPromise, -⟩ := OPFBWithConversion.stateFromPromise_ok hState
  obtain ⟨withRecipient, hRecipient, hConversion⟩ := Except.bind_eq_ok hPromise
  obtain ⟨hSender, hIntraLedger, hId, hNotSelf⟩ :=
    OPFBWithSenderWalletAndAccount.withRecipientWallet_ok hRecipient
  obtain ⟨hConverted, hRedirected⟩ :=
    OPFBWithAmount.withAmount_withConversion_convertedFrom hAmount hPrices hConversion
  -- the recipient chosen, or after the fallback its BTC wallet: neither is the sender
  have hChosen : ∃ r, withRecipient.recipientWalletId = some r ∧ r ≠ withRecipient.senderWalletId := by
    refine ⟨_, hId, ?_⟩
    rw [hSender]
    exact hNotSelf
  refine ⟨?_, hRedirected.recipient_ne_sender hChosen, hConverted.btc_pos, hConverted.usd_pos,
    rfl, rfl, rfl, rfl⟩
  exact hRedirected.settlementMethod_eq.trans hIntraLedger

/-- The external branch runs `withMinerFee` on a converted state that kept the
    chain's sender stage and its on-chain settlement. -/
theorem payOnChainByWalletIdFlow_external_ok (hAmount : 0 < amount.amount)
    (hPrices : conversion.NonNegative) (hExternal : config.isExternalAddress address = true)
    (h : payOnChainByWalletIdFlow feeConfig config address senderWallet senderAccount recipientArgs
      amount conversion createdAt now minerFee = .ok flow) :
    ∃ (s : OPFBWithConversionState) (priceRatio : WalletPriceRatio) (fees : OnChainWithdrawalFees)
      (amounts : BtcPaymentAmount × UsdPaymentAmount),
      s.ConvertedFrom (OPFBWithRecipientWallet.withAmount
        (OPFBWithSenderWalletAndAccount.withoutRecipientWallet
          (OPFBWithAddress.withSenderWalletAndAccount
            (OnChainPaymentFlowBuilder.withAddress config address) senderWallet senderAccount))
        amount) ∧
      s.toOPFBWithSenderWalletAndAccountState = OPFBWithAddress.withSenderWalletAndAccount
        (OnChainPaymentFlowBuilder.withAddress config address) senderWallet senderAccount ∧
      s.settlementMethod = .OnChain ∧
      WalletPriceRatio.of s.usdProposedAmount s.btcProposedAmount = .ok priceRatio ∧
      s.paymentAmountsAfterFee priceRatio fees.totalFee
        (priceRatio.convertFromBtcToCeil fees.totalFee) = amounts ∧
      s.dustThreshold ≤ amounts.1.amount ∧
      flow = s.toOnChainPaymentFlow ⟨amounts.1, amounts.2, fees.totalFee,
        priceRatio.convertFromBtcToCeil fees.totalFee, fees.bankFee,
        priceRatio.convertFromBtcToCeil fees.bankFee, some minerFee⟩ := by
  simp only [payOnChainByWalletIdFlow, isIntraLedger_withSender, hExternal, Bool.not_true,
    Bool.false_eq_true, if_false] at h
  obtain ⟨s, priceRatio, feeArgs, fees, amounts, hState, hRatio, -, -, -, hAmounts, hEnough, rfl⟩ :=
    OPFBWithConversion.withMinerFee_ok h
  obtain ⟨hPromise, -⟩ := OPFBWithConversion.stateFromPromise_ok hState
  obtain ⟨hConverted, hRedirected⟩ :=
    OPFBWithAmount.withAmount_withConversion_convertedFrom hAmount hPrices hPromise
  have hSettlement : s.settlementMethod = .OnChain := hRedirected.settlementMethod_eq
  exact ⟨s, priceRatio, fees, amounts, hConverted, hRedirected.sender_eq, hSettlement, hRatio,
    hAmounts, hEnough (by rw [hSettlement]; decide), rfl⟩

/-- An address outside the bank: the flow pays on chain at least the dust
    threshold, and positive amounts in both currencies. -/
theorem payOnChainByWalletIdFlow_external (hDust : 2 ≤ config.dustThreshold)
    (hAmount : 0 < amount.amount) (hPrices : conversion.NonNegative)
    (hExternal : config.isExternalAddress address = true)
    (h : payOnChainByWalletIdFlow feeConfig config address senderWallet senderAccount recipientArgs
      amount conversion createdAt now minerFee = .ok flow) :
    flow.settlementMethod = .OnChain ∧ config.dustThreshold ≤ flow.btcPaymentAmount.amount ∧
      0 < flow.btcPaymentAmount.amount ∧ 0 < flow.usdPaymentAmount.amount := by
  obtain ⟨s, priceRatio, fees, amounts, hConverted, hSender, hSettlement, hRatio, hAmounts, hEnough,
    rfl⟩ := payOnChainByWalletIdFlow_external_ok hAmount hPrices hExternal h
  -- the state's threshold is the chain's
  have hThreshold : s.dustThreshold = config.dustThreshold := congrArg (·.dustThreshold) hSender
  rw [hThreshold] at hEnough
  have hPos := s.paymentAmountsAfterFee_pos hRatio hConverted.btc_pos hConverted.usd_pos hAmounts
    (by omega)
  exact ⟨hSettlement, hEnough, hPos.1, hPos.2⟩

theorem payOnChainByWalletIdFlow_sound (hDust : 2 ≤ config.dustThreshold)
    (hAmount : 0 < amount.amount) (hPrices : conversion.NonNegative)
    (h : payOnChainByWalletIdFlow feeConfig config address senderWallet senderAccount recipientArgs
      amount conversion createdAt now minerFee = .ok flow) :
    (flow.settlementMethod = .IntraLedger ↔ config.isExternalAddress address = false) ∧
      (flow.settlementMethod = .IntraLedger →
        ∃ r, flow.recipientWalletId = some r ∧ r ≠ flow.senderWalletId) ∧
      (flow.settlementMethod = .OnChain → config.dustThreshold ≤ flow.btcPaymentAmount.amount) ∧
      0 < flow.btcPaymentAmount.amount ∧ 0 < flow.usdPaymentAmount.amount ∧
      (config.isExternalAddress address = false →
        flow.btcProtocolAndBankFee = ZERO_SATS ∧ flow.usdProtocolAndBankFee = ZERO_CENTS ∧
          flow.btcBankFee = ZERO_SATS ∧ flow.usdBankFee = ZERO_CENTS) := by
  cases hExternal : config.isExternalAddress address with
  | false =>
    obtain ⟨hIntraLedger, hRecipient, hBtc, hUsd, hFees⟩ :=
      payOnChainByWalletIdFlow_internal hAmount hPrices hExternal h
    refine ⟨iff_of_true hIntraLedger rfl, fun _ => hRecipient, fun hOnChain => ?_, hBtc, hUsd,
      fun _ => hFees⟩
    rw [hIntraLedger] at hOnChain
    cases hOnChain
  | true =>
    obtain ⟨hOnChain, hEnough, hBtc, hUsd⟩ :=
      payOnChainByWalletIdFlow_external hDust hAmount hPrices hExternal h
    refine ⟨?_, fun hIntraLedger => ?_, fun _ => hEnough, hBtc, hUsd, fun hFalse => ?_⟩
    · rw [hOnChain]
      exact iff_of_false (by decide) (by decide)
    · rw [hOnChain] at hIntraLedger
      cases hIntraLedger
    · cases hFalse

/-- A price of twenty sats a cent, quoted in whole units and never negative. -/
def twentySatsPerCent : ConversionFns where
  usdFromBtc b := .ok ⟨(b.amount / 20).toNat⟩
  btcFromUsd u := .ok ⟨(u.amount * 20).toNat⟩

def twentySatsPerCentConversion : WithConversionArgs :=
  ⟨twentySatsPerCent, twentySatsPerCent, twentySatsPerCent⟩

theorem twentySatsPerCentConversion_nonNegative : twentySatsPerCentConversion.NonNegative := by
  have hFns : twentySatsPerCent.NonNegative := by
    refine ⟨fun b u h => ?_, fun u b h => ?_⟩
    · cases h
      exact Int.natCast_nonneg _
    · cases h
      exact Int.natCast_nonneg _
  exact ⟨hFns, hFns, hFns⟩

/-- A send-all to an address outside the bank, at a dust threshold of 546 sats. -/
def sendAllExternal : OnChainPaymentFlowBuilderConfig where
  netInVolumeAmountLightningFn _ _ := .ok 0
  netInVolumeAmountOnChainFn _ _ := .ok 0
  isExternalAddress _ := true
  sendAll := true
  dustThreshold := 546

/-- A flat withdrawal fee of 2000 sats. -/
def flatWithdrawFee : FeesConfig := ⟨.flat, 0, 0, 30, 2000⟩

/-- The account the chain would pay if the address were one of the bank's. -/
def bankRecipient : OPFBWithRecipientArgs :=
  ⟨.Btc, ⟨⟨"recipient-btc", .Btc, "recipient"⟩, ⟨"recipient-usd", .Usd, "recipient"⟩⟩,
    "recipient-user", none⟩

/-- A USD wallet sends all of its 1000 cents out of the bank. -/
theorem payOnChainByWalletIdFlow_sound_usdSendAll :
    ∃ flow, payOnChainByWalletIdFlow flatWithdrawFee sendAllExternal "external-address"
        ⟨"sender-usd", .Usd, "sender"⟩ ⟨none⟩ bankRecipient (⟨1000⟩ : UsdPaymentAmount)
        twentySatsPerCentConversion 0 0 ⟨300⟩ = .ok flow ∧
      (flow.settlementMethod = .IntraLedger ↔
        sendAllExternal.isExternalAddress "external-address" = false) ∧
      (flow.settlementMethod = .IntraLedger →
        ∃ r, flow.recipientWalletId = some r ∧ r ≠ flow.senderWalletId) ∧
      (flow.settlementMethod = .OnChain →
        sendAllExternal.dustThreshold ≤ flow.btcPaymentAmount.amount) ∧
      0 < flow.btcPaymentAmount.amount ∧ 0 < flow.usdPaymentAmount.amount ∧
      (sendAllExternal.isExternalAddress "external-address" = false →
        flow.btcProtocolAndBankFee = ZERO_SATS ∧ flow.usdProtocolAndBankFee = ZERO_CENTS ∧
          flow.btcBankFee = ZERO_SATS ∧ flow.usdBankFee = ZERO_CENTS) := by
  obtain ⟨flow, hRun⟩ : ∃ flow, payOnChainByWalletIdFlow flatWithdrawFee sendAllExternal
      "external-address" ⟨"sender-usd", .Usd, "sender"⟩ ⟨none⟩ bankRecipient
      (⟨1000⟩ : UsdPaymentAmount) twentySatsPerCentConversion 0 0 ⟨300⟩ = .ok flow :=
    ⟨_, rfl⟩
  exact ⟨flow, hRun, payOnChainByWalletIdFlow_sound (by decide) (by decide)
    twentySatsPerCentConversion_nonNegative hRun⟩

/-- A send-all to an address outside the bank debits the sender exactly the
    amount proposed in its wallet's currency: the amount paid and the fee add
    back up to it. -/
theorem payOnChainByWalletIdFlow_sendAll_total (hAmount : 0 < amount.amount)
    (hPrices : conversion.NonNegative) (hExternal : config.isExternalAddress address = true)
    (hSendAll : config.sendAll = true)
    (h : payOnChainByWalletIdFlow feeConfig config address senderWallet senderAccount recipientArgs
      amount conversion createdAt now minerFee = .ok flow) :
    (senderWallet.currency = .Btc → c = .Btc →
      flow.totalAmountsForPayment.btc.amount = amount.amount) ∧
    (senderWallet.currency = .Usd → c = .Usd →
      flow.totalAmountsForPayment.usd.amount = amount.amount) := by
  obtain ⟨s, priceRatio, fees, amounts, hConverted, hSender, -, -, rfl, -, rfl⟩ :=
    payOnChainByWalletIdFlow_external_ok hAmount hPrices hExternal h
  -- the converted state kept the chain's sender, and with it `sendAll`
  have hSendAllState : s.sendAll = true := (congrArg (·.sendAll) hSender).trans hSendAll
  have hCurrency : s.senderWalletCurrency = senderWallet.currency :=
    congrArg (·.senderWalletCurrency) hSender
  obtain ⟨hBtcTotal, hUsdTotal⟩ :=
    @OPFBWithConversionState.paymentAmountsAfterFee_add_fee s priceRatio fees.totalFee
      (priceRatio.convertFromBtcToCeil fees.totalFee) hSendAllState
  refine ⟨fun hBtcWallet hc => ?_, fun hUsdWallet hc => ?_⟩
  · subst hc
    rw [← hConverted.btc_kept amount rfl]
    exact congrArg PaymentAmount.amount (hBtcTotal (hCurrency.trans hBtcWallet))
  · subst hc
    rw [← hConverted.usd_kept rfl amount rfl]
    exact congrArg PaymentAmount.amount (hUsdTotal (hCurrency.trans hUsdWallet))

/-- A send-all of 1000 cents from a USD wallet to an outside address: 2300
    sats of fee are 115 cents rounded up, 885 cents go out as 17700 sats, and
    the sender is debited the 1000 cents. -/
theorem usdSendAll_debits_amount :
    ∃ flow, payOnChainByWalletIdFlow flatWithdrawFee sendAllExternal "external-address"
        ⟨"sender-usd", .Usd, "sender"⟩ ⟨none⟩ bankRecipient (⟨1000⟩ : UsdPaymentAmount)
        twentySatsPerCentConversion 0 0 ⟨300⟩ = .ok flow ∧
      flow.btcPaymentAmount.amount = 17700 ∧ flow.usdPaymentAmount.amount = 885 ∧
      flow.totalAmountsForPayment.usd.amount = 1000 := by
  obtain ⟨flow, hRun⟩ : ∃ flow, payOnChainByWalletIdFlow flatWithdrawFee sendAllExternal
      "external-address" ⟨"sender-usd", .Usd, "sender"⟩ ⟨none⟩ bankRecipient
      (⟨1000⟩ : UsdPaymentAmount) twentySatsPerCentConversion 0 0 ⟨300⟩ = .ok flow :=
    ⟨_, rfl⟩
  have hAmounts : flow.btcPaymentAmount.amount = 17700 ∧ flow.usdPaymentAmount.amount = 885 := by
    rw [← Except.ok.inj hRun]
    exact ⟨rfl, rfl⟩
  exact ⟨flow, hRun, hAmounts.1, hAmounts.2,
    (payOnChainByWalletIdFlow_sendAll_total (by decide) twentySatsPerCentConversion_nonNegative
      rfl rfl hRun).2 rfl rfl⟩

end Chain

end Galoy
