/-
  Galoy.Payments.FlowBuilderSpec

  What every chain of `LightningPaymentFlowBuilder` calls that succeeds
  produces, and what the routeless send path then checks of it.

  The stages are taken one at a time: an inversion lemma says everything a
  stage can return, and a stage invariant is carried from the invoice to the
  flow.  `withConversion` has six branches; its inversion lemma folds them
  into three shapes (amounts kept, USD derived from BTC, BTC derived from
  USD), and every result about the builder is read off those shapes.
-/

import Galoy.Payments.FlowBuilder
import Galoy.Lib.Except

namespace Galoy

open AmountCalculator

/-- A price service that quotes only positive amounts. -/
def ConversionFns.Positive (fns : ConversionFns) : Prop :=
  (∀ b u, fns.usdFromBtc b = .ok u → 0 < u.amount) ∧
    (∀ u b, fns.btcFromUsd u = .ok b → 0 < b.amount)

/-- All three price services quote only positive amounts. -/
def WithConversionArgs.Positive (args : WithConversionArgs) : Prop :=
  args.hedgeBuyUsd.Positive ∧ args.hedgeSellUsd.Positive ∧ args.mid.Positive

/-- `u` is a USD quote for `b` of one of the three price services. -/
def WithConversionArgs.QuotesUsd (args : WithConversionArgs) (b : BtcPaymentAmount)
    (u : UsdPaymentAmount) : Prop :=
  args.hedgeBuyUsd.usdFromBtc b = .ok u ∨ args.hedgeSellUsd.usdFromBtc b = .ok u ∨
    args.mid.usdFromBtc b = .ok u

/-- `b` is a BTC quote for `u` of one of the three price services. -/
def WithConversionArgs.QuotesBtc (args : WithConversionArgs) (u : UsdPaymentAmount)
    (b : BtcPaymentAmount) : Prop :=
  args.hedgeBuyUsd.btcFromUsd u = .ok b ∨ args.hedgeSellUsd.btcFromUsd u = .ok b ∨
    args.mid.btcFromUsd u = .ok b

namespace WithConversionArgs

variable {args : WithConversionArgs} (hPositive : args.Positive)
include hPositive

theorem QuotesUsd.pos {b : BtcPaymentAmount} {u : UsdPaymentAmount} (h : args.QuotesUsd b u) :
    0 < u.amount := by
  obtain ⟨⟨hBuy, -⟩, ⟨hSell, -⟩, ⟨hMid, -⟩⟩ := hPositive
  rcases h with h | h | h
  · exact hBuy b u h
  · exact hSell b u h
  · exact hMid b u h

theorem QuotesBtc.pos {u : UsdPaymentAmount} {b : BtcPaymentAmount} (h : args.QuotesBtc u b) :
    0 < b.amount := by
  obtain ⟨⟨-, hBuy⟩, ⟨-, hSell⟩, ⟨-, hMid⟩⟩ := hPositive
  rcases h with h | h | h
  · exact hBuy u b h
  · exact hSell u b h
  · exact hMid u b h

end WithConversionArgs

-- ============================================================================
-- The invoice and sender stages
-- ============================================================================

/-- What the invoice stage fixes: the fees by settlement method (zero on the
    ledger, unknown over Lightning), and a BTC amount only together with the
    same input amount and no unchecked amount. -/
structure LPFBWithInvoiceState.Inv (s : LPFBWithInvoiceState) : Prop where
  intraLedger_fees : s.settlementMethod = .IntraLedger →
    s.btcProtocolAndBankFee = some ZERO_SATS ∧ s.usdProtocolAndBankFee = some ZERO_CENTS
  lightning_fees : s.settlementMethod ≠ .IntraLedger →
    s.btcProtocolAndBankFee = none ∧ s.usdProtocolAndBankFee = none
  btc_input : ∀ b, s.btcPaymentAmount = some b →
    s.inputAmount = some b.amount ∧ s.uncheckedAmount = none

/-- An unchecked amount comes without a BTC amount. -/
theorem LPFBWithInvoiceState.Inv.btcPaymentAmount_none {s : LPFBWithInvoiceState} (hInv : s.Inv)
    (hUnchecked : s.uncheckedAmount ≠ none) : s.btcPaymentAmount = none := by
  cases hb : s.btcPaymentAmount with
  | none => rfl
  | some b => exact absurd (hInv.btc_input b hb).2 hUnchecked

theorem LightningPaymentFlowBuilder.settlementMethodFromDestination_inv
    (config : LightningPaymentFlowBuilderConfig) (destination : Option String) :
    let d := settlementMethodFromDestination config destination
    (d.settlementMethod = .IntraLedger →
      d.btcProtocolAndBankFee = some ZERO_SATS ∧ d.usdProtocolAndBankFee = some ZERO_CENTS) ∧
    (d.settlementMethod ≠ .IntraLedger →
      d.btcProtocolAndBankFee = none ∧ d.usdProtocolAndBankFee = none) := by
  intro d
  constructor
  · intro h
    simp [d, settlementMethodFromDestination, LnFees.intraLedgerFees] at h ⊢
    simp [h]
  · intro h
    simp [d, settlementMethodFromDestination] at h ⊢
    simp [h]

theorem InvoiceStep.run_inv {config : LightningPaymentFlowBuilderConfig} {step : InvoiceStep}
    {s : LPFBWithInvoiceState} (h : step.run config = .ok s) : s.Inv := by
  have hDestination := LightningPaymentFlowBuilder.settlementMethodFromDestination_inv config
  cases step with
  | withInvoice invoice =>
    simp only [InvoiceStep.run, LightningPaymentFlowBuilder.withInvoice] at h
    split at h
    · cases h
    · cases h
      obtain ⟨hIntraLedger, hLightning⟩ := hDestination (some invoice.destination)
      exact ⟨hIntraLedger, hLightning, fun b hb => by cases hb; exact ⟨rfl, rfl⟩⟩
  | withNoAmountInvoice invoice uncheckedAmount =>
    cases h
    obtain ⟨hIntraLedger, hLightning⟩ := hDestination (some invoice.destination)
    exact ⟨hIntraLedger, hLightning, fun b hb => by cases hb⟩
  | withoutInvoice uncheckedAmount description intraLedgerHash =>
    cases h
    obtain ⟨hIntraLedger, hLightning⟩ := hDestination none
    exact ⟨hIntraLedger, hLightning, fun b hb => by cases hb⟩

/-- An invoice with an amount leaves no unchecked amount. -/
theorem InvoiceStep.run_withInvoice_uncheckedAmount {config : LightningPaymentFlowBuilderConfig}
    {invoice : LnInvoice} {s : LPFBWithInvoiceState}
    (h : (InvoiceStep.withInvoice invoice).run config = .ok s) : s.uncheckedAmount = none := by
  simp only [InvoiceStep.run, LightningPaymentFlowBuilder.withInvoice] at h
  split at h
  · cases h
  · cases h
    rfl

/-- Only `withInvoice` leaves no unchecked amount, and only with the invoice's amount. -/
theorem InvoiceStep.run_uncheckedAmount_none {config : LightningPaymentFlowBuilderConfig}
    {step : InvoiceStep} {s : LPFBWithInvoiceState} (h : step.run config = .ok s)
    (hNone : s.uncheckedAmount = none) :
    ∃ invoice a, step = .withInvoice invoice ∧ invoice.paymentAmount = some a := by
  cases step with
  | withInvoice invoice =>
    simp only [InvoiceStep.run, LightningPaymentFlowBuilder.withInvoice] at h
    split at h
    · cases h
    · rename_i a ha
      exact ⟨invoice, a, rfl, ha⟩
  | withNoAmountInvoice invoice uncheckedAmount =>
    cases h
    cases hNone
  | withoutInvoice uncheckedAmount description intraLedgerHash =>
    cases h
    cases hNone

/-- A BTC amount at the invoice stage is the invoice's own. -/
theorem InvoiceStep.run_btcPaymentAmount {config : LightningPaymentFlowBuilderConfig}
    {step : InvoiceStep} {s : LPFBWithInvoiceState} (h : step.run config = .ok s)
    {b : BtcPaymentAmount} (hb : s.btcPaymentAmount = some b) :
    ∃ invoice, step = .withInvoice invoice ∧ invoice.paymentAmount = some b := by
  cases step with
  | withInvoice invoice =>
    simp only [InvoiceStep.run, LightningPaymentFlowBuilder.withInvoice] at h
    split at h
    · cases h
    · rename_i a ha
      cases h
      cases hb
      exact ⟨invoice, rfl, ha⟩
  | withNoAmountInvoice invoice uncheckedAmount =>
    cases h
    cases hb
  | withoutInvoice uncheckedAmount description intraLedgerHash =>
    cases h
    cases hb

namespace LPFBWithInvoice

variable {state : LPFBWithInvoiceState} {senderWallet : WalletDescriptor}
  {s : LPFBWithSenderWalletState}

/-- The three ways the sender stage succeeds: a checked BTC or USD amount for a
    payment without an amount yet, or the invoice's BTC amount. -/
theorem withSenderWallet_ok (h : withSenderWallet state senderWallet = .ok s) :
    (∃ q a, state.uncheckedAmount = some q ∧ senderWallet.currency = .Btc ∧
      checkedToBtcPaymentAmount (some q) = .ok a ∧
      s = { state.withSender senderWallet a.amount with
            btcPaymentAmount := some a
            btcProtocolAndBankFee :=
              some (state.btcProtocolAndBankFee.getD (LnFees.maxProtocolAndBankFee a)) }) ∨
    (∃ q a, state.uncheckedAmount = some q ∧ senderWallet.currency ≠ .Btc ∧
      checkedToUsdPaymentAmount (some q) = .ok a ∧
      s = { state.withSender senderWallet a.amount with
            usdPaymentAmount := some a
            usdProtocolAndBankFee :=
              some (state.usdProtocolAndBankFee.getD (LnFees.maxProtocolAndBankFee a)) }) ∨
    (∃ inputAmount a, state.uncheckedAmount = none ∧ state.inputAmount = some inputAmount ∧
      inputAmount ≠ 0 ∧ state.btcPaymentAmount = some a ∧
      s = { state.withSender senderWallet inputAmount with
            btcPaymentAmount := some a
            btcProtocolAndBankFee :=
              some (state.btcProtocolAndBankFee.getD (LnFees.maxProtocolAndBankFee a)) }) := by
  unfold withSenderWallet at h
  split at h
  · rename_i q hq
    split at h
    · rename_i hBtc
      split at h
      · cases h
      · rename_i a ha
        cases h
        exact .inl ⟨q, a, hq, hBtc, ha, rfl⟩
    · rename_i hUsd
      split at h
      · cases h
      · rename_i a ha
        cases h
        exact .inr (.inl ⟨q, a, hq, hUsd, ha, rfl⟩)
  · rename_i hq
    split at h
    · rename_i inputAmount a hInput hBtc
      split at h
      · cases h
      · rename_i hNonZero
        cases h
        exact .inr (.inr ⟨inputAmount, a, hq, hInput, hNonZero, hBtc, rfl⟩)
    · cases h

end LPFBWithInvoice

/-- What the sender stage keeps: zero fees on the ledger, and over Lightning at
    most one fee, the one of the sender's amount. -/
structure LPFBWithSenderWalletState.Inv (s : LPFBWithSenderWalletState) : Prop where
  intraLedger_fees : s.settlementMethod = .IntraLedger →
    s.btcProtocolAndBankFee = some ZERO_SATS ∧ s.usdProtocolAndBankFee = some ZERO_CENTS
  lightning_fees : s.settlementMethod ≠ .IntraLedger →
    s.btcProtocolAndBankFee = none ∨ s.usdProtocolAndBankFee = none

/-- Every amount set so far is positive. -/
def LPFBWithSenderWalletState.AmountsPositive (s : LPFBWithSenderWalletState) : Prop :=
  (∀ b, s.btcPaymentAmount = some b → 0 < b.amount) ∧
    (∀ u, s.usdPaymentAmount = some u → 0 < u.amount)

namespace LPFBWithInvoice

variable {state : LPFBWithInvoiceState} {senderWallet : WalletDescriptor}
  {s : LPFBWithSenderWalletState}

theorem withSenderWallet_inv (hInv : state.Inv) (h : withSenderWallet state senderWallet = .ok s) :
    s.Inv := by
  rcases withSenderWallet_ok h with
    ⟨q, a, -, -, -, rfl⟩ | ⟨q, a, -, -, -, rfl⟩ | ⟨inputAmount, a, -, -, -, -, rfl⟩
  all_goals
    constructor
    · intro hIntraLedger
      obtain ⟨hBtcFee, hUsdFee⟩ := hInv.intraLedger_fees hIntraLedger
      simp [LPFBWithInvoiceState.withSender, hBtcFee, hUsdFee]
    · intro hLightning
      obtain ⟨hBtcFee, hUsdFee⟩ := hInv.lightning_fees hLightning
      simp [LPFBWithInvoiceState.withSender, hBtcFee, hUsdFee]

/-- The sender's amount is checked positive, and the invoice's is positive when
    it is not negative, since a zero amount stops the builder. -/
theorem withSenderWallet_amountsPositive (hInv : state.Inv)
    (hNonneg : ∀ b, state.btcPaymentAmount = some b → 0 ≤ b.amount)
    (h : withSenderWallet state senderWallet = .ok s) : s.AmountsPositive := by
  rcases withSenderWallet_ok h with
    ⟨q, a, hq, -, ha, rfl⟩ | ⟨q, a, hq, -, ha, rfl⟩ |
      ⟨inputAmount, a, -, hInput, hNonZero, hBtc, rfl⟩
  · have hPos := (checkedToPaymentAmount_ok ha).2.1
    constructor
    · intro b hb
      cases hb
      exact hPos
    · intro u hu
      cases hu
  · have hPos := (checkedToPaymentAmount_ok ha).2.1
    have hNoBtc : state.btcPaymentAmount = none := hInv.btcPaymentAmount_none (by simp [hq])
    constructor
    · intro b hb
      simp [LPFBWithInvoiceState.withSender, hNoBtc] at hb
    · intro u hu
      cases hu
      exact hPos
  · have hAmount : inputAmount = a.amount := by
      have := (hInv.btc_input a hBtc).1
      rw [hInput] at this
      exact Option.some.inj this
    have hNonneg' := hNonneg a hBtc
    constructor
    · intro b hb
      cases hb
      omega
    · intro u hu
      simp [LPFBWithInvoiceState.withSender] at hu

/-- The sender stage sets the BTC amount and its fee for a BTC sender and for
    an invoice with an amount, and no BTC amount for a USD sender of an
    unchecked amount. -/
theorem withSenderWallet_btcAmounts (hInv : state.Inv)
    (h : withSenderWallet state senderWallet = .ok s) :
    ((senderWallet.currency = .Btc ∨ state.uncheckedAmount = none) →
      ∃ b bf, s.btcPaymentAmount = some b ∧ s.btcProtocolAndBankFee = some bf) ∧
    (senderWallet.currency = .Usd → state.uncheckedAmount ≠ none → s.btcPaymentAmount = none) := by
  rcases withSenderWallet_ok h with
    ⟨q, a, -, hBtc, -, rfl⟩ | ⟨q, a, hq, hNotBtc, -, rfl⟩ | ⟨inputAmount, a, hq, -, -, -, rfl⟩
  · refine ⟨fun _ => ⟨a, _, rfl, rfl⟩, fun hUsd => ?_⟩
    rw [hBtc] at hUsd
    cases hUsd
  · refine ⟨fun hWhy => ?_, fun _ hUnchecked => ?_⟩
    · rcases hWhy with hBtc | hNone
      · exact absurd hBtc hNotBtc
      · rw [hq] at hNone
        cases hNone
    · exact hInv.btcPaymentAmount_none hUnchecked
  · exact ⟨fun _ => ⟨a, _, rfl, rfl⟩, fun _ hUnchecked => absurd hq hUnchecked⟩

end LPFBWithInvoice

-- ============================================================================
-- The recipient stage
-- ============================================================================

/-- A recipient, once chosen, is never the sender. -/
def LPFBWithRecipientWalletState.RecipientNotSender (s : LPFBWithRecipientWalletState) : Prop :=
  ∀ r, s.recipientWalletId = some r → r ≠ s.senderWalletId

namespace LPFBWithSenderWallet

variable {state : LPFBWithSenderWalletState} {s : LPFBWithRecipientWalletState}

theorem withoutRecipientWallet_ok (h : withoutRecipientWallet state = .ok s) :
    state.settlementMethod ≠ .IntraLedger ∧ s = { toLPFBWithSenderWalletState := state } := by
  unfold withoutRecipientWallet at h
  split at h
  · cases h
  · rename_i hSettlement
    cases h
    exact ⟨hSettlement, rfl⟩

theorem withRecipientWallet_ok {args : LPFBWithRecipientArgs}
    (h : withRecipientWallet state args = .ok s) :
    (args.recipientWalletDescriptors.get args.defaultWalletCurrency).id ≠ state.senderWalletId ∧
      s.toLPFBWithSenderWalletState =
        { state with usdPaymentAmount := args.usdPaymentAmount <|> state.usdPaymentAmount } ∧
      s.recipientWalletId = some (args.recipientWalletDescriptors.get args.defaultWalletCurrency).id := by
  unfold withRecipientWallet at h
  dsimp only at h
  split at h
  · cases h
  · rename_i hNotSelf
    split at h
    · cases h
    · cases h
      exact ⟨hNotSelf, rfl, rfl⟩

end LPFBWithSenderWallet

namespace RecipientStep

variable {state : LPFBWithSenderWalletState} {step : RecipientStep}
  {s : LPFBWithRecipientWalletState}

theorem run_inv (hInv : state.Inv) (h : step.run state = .ok s) :
    s.toLPFBWithSenderWalletState.Inv := by
  cases step with
  | withoutRecipientWallet =>
    obtain ⟨-, rfl⟩ := LPFBWithSenderWallet.withoutRecipientWallet_ok h
    exact hInv
  | withRecipientWallet args =>
    obtain ⟨-, hState, -⟩ := LPFBWithSenderWallet.withRecipientWallet_ok h
    rw [hState]
    exact ⟨hInv.intraLedger_fees, hInv.lightning_fees⟩

/-- The USD amount a recipient brings is the caller's. -/
theorem run_amountsPositive (hPositive : state.AmountsPositive)
    (hArgs : ∀ args u, step = .withRecipientWallet args → args.usdPaymentAmount = some u →
      0 < u.amount)
    (h : step.run state = .ok s) : s.toLPFBWithSenderWalletState.AmountsPositive := by
  cases step with
  | withoutRecipientWallet =>
    obtain ⟨-, rfl⟩ := LPFBWithSenderWallet.withoutRecipientWallet_ok h
    exact hPositive
  | withRecipientWallet args =>
    obtain ⟨-, hState, -⟩ := LPFBWithSenderWallet.withRecipientWallet_ok h
    rw [hState]
    refine ⟨hPositive.1, fun u hu => ?_⟩
    cases hArgsUsd : args.usdPaymentAmount with
    | none =>
      rw [hArgsUsd] at hu
      exact hPositive.2 u hu
    | some u' =>
      rw [hArgsUsd] at hu
      cases hu
      exact hArgs args u rfl hArgsUsd

/-- The recipient stage leaves the BTC amount and fee as they were. -/
theorem run_btcAmounts (h : step.run state = .ok s) :
    s.btcPaymentAmount = state.btcPaymentAmount ∧
      s.btcProtocolAndBankFee = state.btcProtocolAndBankFee := by
  cases step with
  | withoutRecipientWallet =>
    obtain ⟨-, rfl⟩ := LPFBWithSenderWallet.withoutRecipientWallet_ok h
    exact ⟨rfl, rfl⟩
  | withRecipientWallet args =>
    obtain ⟨-, hState, -⟩ := LPFBWithSenderWallet.withRecipientWallet_ok h
    have hBtc := congrArg LPFBWithSenderWalletState.btcPaymentAmount hState
    have hFee := congrArg LPFBWithSenderWalletState.btcProtocolAndBankFee hState
    exact ⟨hBtc, hFee⟩

theorem run_recipientNotSender (h : step.run state = .ok s) : s.RecipientNotSender := by
  cases step with
  | withoutRecipientWallet =>
    obtain ⟨-, rfl⟩ := LPFBWithSenderWallet.withoutRecipientWallet_ok h
    intro r hr
    cases hr
  | withRecipientWallet args =>
    obtain ⟨hNotSelf, hState, hRecipient⟩ := LPFBWithSenderWallet.withRecipientWallet_ok h
    intro r hr
    rw [hRecipient] at hr
    cases hr
    have hSender : s.senderWalletId = state.senderWalletId := by
      rw [show s.senderWalletId = s.toLPFBWithSenderWalletState.senderWalletId from rfl, hState]
    rw [hSender]
    exact hNotSelf

end RecipientStep

-- ============================================================================
-- The conversion helpers
-- ============================================================================

namespace LPFBWithRecipientWallet

variable {state : LPFBWithRecipientWalletState} {createdAt : ℤ} {args : WithConversionArgs}
  {s : LPFBWithConversionState}

/-- The recipient a BTC-amount conversion ends with: the one chosen, or, after
    the sub-one-cent fallback, the recipient's BTC wallet, never the sender's. -/
def Redirected (state recipientState : LPFBWithRecipientWalletState) : Prop :=
  recipientState = state ∨
    ∃ descriptor : WalletDescriptor, descriptor.id ≠ state.senderWalletId ∧
      recipientState = { state with recipientWalletId := some descriptor.id
                                    recipientWalletCurrency := some descriptor.currency }

theorem updatedStateFromBtcPaymentAmountMid_ok {mid : ConversionFns}
    {btcPaymentAmount btcProtocolAndBankFee : BtcPaymentAmount}
    {recipientWalletDescriptor : Option WalletDescriptor}
    (h : updatedStateFromBtcPaymentAmountMid state createdAt mid btcPaymentAmount
      btcProtocolAndBankFee recipientWalletDescriptor = .ok s) :
    ∃ convertedAmount priceRatio recipientState,
      mid.usdFromBtc btcPaymentAmount = .ok convertedAmount ∧
      WalletPriceRatio.of convertedAmount btcPaymentAmount = .ok priceRatio ∧
      (recipientWalletDescriptor = none → recipientState = state) ∧
      (∀ descriptor, recipientWalletDescriptor = some descriptor →
        recipientState = { state with recipientWalletId := some descriptor.id
                                      recipientWalletCurrency := some descriptor.currency }) ∧
      s = recipientState.withAmounts createdAt ⟨btcPaymentAmount, btcProtocolAndBankFee,
        convertedAmount, priceRatio.convertFromBtcToCeil btcProtocolAndBankFee⟩ := by
  obtain ⟨convertedAmount, hConverted, h⟩ := Except.bind_eq_ok h
  obtain ⟨priceRatio, hRatio, h⟩ := Except.bind_eq_ok h
  cases h
  refine ⟨convertedAmount, priceRatio, _, Except.mapError_eq_ok hConverted,
    Except.mapError_eq_ok hRatio, ?_, ?_, rfl⟩
  · intro hNone
    subst hNone
    rfl
  · intro descriptor hSome
    subst hSome
    rfl

theorem updatedStateFromBtcPaymentAmountDealer_ok
    {btcPaymentAmount btcProtocolAndBankFee : BtcPaymentAmount}
    (h : updatedStateFromBtcPaymentAmountDealer state createdAt args btcPaymentAmount
      btcProtocolAndBankFee = .ok s) :
    ∃ convertedAmount priceRatio,
      args.QuotesUsd btcPaymentAmount convertedAmount ∧
      WalletPriceRatio.of convertedAmount btcPaymentAmount = .ok priceRatio ∧
      s = state.withAmounts createdAt ⟨btcPaymentAmount, btcProtocolAndBankFee,
        convertedAmount, priceRatio.convertFromBtcToCeil btcProtocolAndBankFee⟩ := by
  obtain ⟨convertedAmount, hConverted, h⟩ := Except.bind_eq_ok h
  obtain ⟨priceRatio, hRatio, h⟩ := Except.bind_eq_ok h
  cases h
  have hQuote : args.QuotesUsd btcPaymentAmount convertedAmount := by
    have hUsd := Except.mapError_eq_ok hConverted
    by_cases hBtc : state.senderWalletCurrency = .Btc
    · simp only [hBtc, if_true] at hUsd
      exact .inl hUsd
    · simp only [hBtc, if_false] at hUsd
      exact .inr (.inl hUsd)
  exact ⟨convertedAmount, priceRatio, hQuote, Except.mapError_eq_ok hRatio, rfl⟩

theorem updatedStateFromUsdPaymentAmountMid_ok {mid : ConversionFns}
    {usdPaymentAmount usdProtocolAndBankFee : UsdPaymentAmount}
    (h : updatedStateFromUsdPaymentAmountMid state createdAt mid usdPaymentAmount
      usdProtocolAndBankFee = .ok s) :
    ∃ convertedAmount priceRatio,
      mid.btcFromUsd usdPaymentAmount = .ok convertedAmount ∧
      WalletPriceRatio.of usdPaymentAmount convertedAmount = .ok priceRatio ∧
      s = state.withAmounts createdAt ⟨convertedAmount,
        priceRatio.convertFromUsd usdProtocolAndBankFee, usdPaymentAmount,
        usdProtocolAndBankFee⟩ := by
  obtain ⟨convertedAmount, hConverted, h⟩ := Except.bind_eq_ok h
  obtain ⟨priceRatio, hRatio, h⟩ := Except.bind_eq_ok h
  cases h
  exact ⟨convertedAmount, priceRatio, Except.mapError_eq_ok hConverted,
    Except.mapError_eq_ok hRatio, rfl⟩

theorem updatedStateFromUsdPaymentAmountDealer_ok
    {usdPaymentAmount usdProtocolAndBankFee : UsdPaymentAmount}
    (h : updatedStateFromUsdPaymentAmountDealer state createdAt args usdPaymentAmount
      usdProtocolAndBankFee = .ok s) :
    ∃ convertedAmount priceRatio,
      args.QuotesBtc usdPaymentAmount convertedAmount ∧
      WalletPriceRatio.of usdPaymentAmount convertedAmount = .ok priceRatio ∧
      s = state.withAmounts createdAt ⟨convertedAmount,
        priceRatio.convertFromUsd usdProtocolAndBankFee, usdPaymentAmount,
        usdProtocolAndBankFee⟩ := by
  obtain ⟨convertedAmount, hConverted, h⟩ := Except.bind_eq_ok h
  obtain ⟨priceRatio, hRatio, h⟩ := Except.bind_eq_ok h
  cases h
  have hQuote : args.QuotesBtc usdPaymentAmount convertedAmount := by
    have hBtc := Except.mapError_eq_ok hConverted
    by_cases hSender : state.senderWalletCurrency = .Btc
    · simp only [hSender, if_true] at hBtc
      exact .inl hBtc
    · simp only [hSender, if_false] at hBtc
      exact .inr (.inl hBtc)
  exact ⟨convertedAmount, priceRatio, hQuote, Except.mapError_eq_ok hRatio, rfl⟩

/-- The dealer's quote, or the mid price paid into the recipient's BTC wallet. -/
theorem updatedStateFromBtcPaymentAmountDealerFallbackMid_ok
    {btcPaymentAmount btcProtocolAndBankFee : BtcPaymentAmount}
    (h : updatedStateFromBtcPaymentAmountDealerFallbackMid state createdAt args btcPaymentAmount
      btcProtocolAndBankFee = .ok s) :
    ∃ convertedAmount priceRatio recipientState,
      args.QuotesUsd btcPaymentAmount convertedAmount ∧
      WalletPriceRatio.of convertedAmount btcPaymentAmount = .ok priceRatio ∧
      Redirected state recipientState ∧
      s = recipientState.withAmounts createdAt ⟨btcPaymentAmount, btcProtocolAndBankFee,
        convertedAmount, priceRatio.convertFromBtcToCeil btcProtocolAndBankFee⟩ := by
  unfold updatedStateFromBtcPaymentAmountDealerFallbackMid at h
  split at h
  · -- the dealer's USD amount was zero: fall back to the mid price
    split at h
    · cases h
    · rename_i descriptors _
      split at h
      · cases h
      · rename_i hSelf
        obtain ⟨convertedAmount, priceRatio, recipientState, hMid, hRatio, -, hSome, rfl⟩ :=
          updatedStateFromBtcPaymentAmountMid_ok h
        exact ⟨convertedAmount, priceRatio, recipientState, .inr (.inr hMid), hRatio,
          .inr ⟨descriptors.BTC, hSelf, hSome _ rfl⟩, rfl⟩
  · rename_i hDealer
    obtain ⟨convertedAmount, priceRatio, hQuote, hRatio, rfl⟩ :=
      updatedStateFromBtcPaymentAmountDealer_ok h
    exact ⟨convertedAmount, priceRatio, state, hQuote, hRatio, .inl rfl, rfl⟩

/-- The USD amount and fee were derived from the BTC ones at the ratio of the
    two amounts. -/
def UsdFromBtc (state : LPFBWithRecipientWalletState) (createdAt : ℤ) (args : WithConversionArgs)
    (s : LPFBWithConversionState) : Prop :=
  ∃ b bf u priceRatio recipientState, state.btcAmounts = some (b, bf) ∧ args.QuotesUsd b u ∧
    WalletPriceRatio.of u b = .ok priceRatio ∧ Redirected state recipientState ∧
    s = recipientState.withAmounts createdAt ⟨b, bf, u, priceRatio.convertFromBtcToCeil bf⟩

/-- The BTC amount and fee were derived from the USD ones at the ratio of the
    two amounts. -/
def BtcFromUsd (state : LPFBWithRecipientWalletState) (createdAt : ℤ) (args : WithConversionArgs)
    (s : LPFBWithConversionState) : Prop :=
  ∃ u uf b priceRatio, state.btcAmounts = none ∧ state.usdAmounts = some (u, uf) ∧
    args.QuotesBtc u b ∧
    WalletPriceRatio.of u b = .ok priceRatio ∧
    s = state.withAmounts createdAt ⟨b, priceRatio.convertFromUsd uf, u, uf⟩

/-- All four amounts were already there and are kept. -/
def AmountsKept (state : LPFBWithRecipientWalletState) (createdAt : ℤ)
    (s : LPFBWithConversionState) : Prop :=
  ∃ b bf u uf, state.btcAmounts = some (b, bf) ∧ state.usdAmounts = some (u, uf) ∧
    s = state.withAmounts createdAt ⟨b, bf, u, uf⟩

/-- The six branches of `withConversion` in three shapes. -/
theorem withConversion_ok (h : withConversion state createdAt args = .ok s) :
    AmountsKept state createdAt s ∨ UsdFromBtc state createdAt args s ∨
      BtcFromUsd state createdAt args s := by
  -- the branch is chosen by which amounts are set, then by whether a conversion is needed
  rcases hBtc : state.btcAmounts with _ | ⟨b, bf⟩ <;>
    rcases hUsd : state.usdAmounts with _ | ⟨u, uf⟩ <;>
    simp only [withConversion, hBtc, hUsd] at h
  · -- no amounts at all
    split at h <;> cases h
  · -- only the USD amounts: BTC from USD, at the mid price or the dealer's
    split at h
    · obtain ⟨b, priceRatio, hMid, hRatio, rfl⟩ := updatedStateFromUsdPaymentAmountMid_ok h
      exact .inr (.inr ⟨u, uf, b, priceRatio, hBtc, hUsd, .inr (.inr hMid), hRatio, rfl⟩)
    · obtain ⟨b, priceRatio, hQuote, hRatio, rfl⟩ := updatedStateFromUsdPaymentAmountDealer_ok h
      exact .inr (.inr ⟨u, uf, b, priceRatio, hBtc, hUsd, hQuote, hRatio, rfl⟩)
  · -- only the BTC amounts: USD from BTC
    split at h
    · obtain ⟨u, priceRatio, recipientState, hMid, hRatio, hNone, -, rfl⟩ :=
        updatedStateFromBtcPaymentAmountMid_ok h
      exact .inr (.inl ⟨b, bf, u, priceRatio, recipientState, hBtc, .inr (.inr hMid), hRatio,
        .inl (hNone rfl), rfl⟩)
    · obtain ⟨u, priceRatio, recipientState, hQuote, hRatio, hRedirected, rfl⟩ :=
        updatedStateFromBtcPaymentAmountDealerFallbackMid_ok h
      exact .inr (.inl ⟨b, bf, u, priceRatio, recipientState, hBtc, hQuote, hRatio,
        hRedirected, rfl⟩)
  · -- all four: kept, unless a USD sender pays a BTC recipient
    split at h
    · cases h
      exact .inl ⟨b, bf, u, uf, hBtc, hUsd, rfl⟩
    · split at h
      · cases h
        exact .inl ⟨b, bf, u, uf, hBtc, hUsd, rfl⟩
      · obtain ⟨u', priceRatio, recipientState, hQuote, hRatio, hRedirected, rfl⟩ :=
          updatedStateFromBtcPaymentAmountDealerFallbackMid_ok h
        exact .inr (.inl ⟨b, bf, u', priceRatio, recipientState, hBtc, hQuote, hRatio,
          hRedirected, rfl⟩)

end LPFBWithRecipientWallet

/-- What every converted state satisfies. -/
structure LPFBWithConversionState.Sound (s : LPFBWithConversionState) : Prop where
  recipient_ne_sender : ∀ r, s.recipientWalletId = some r → r ≠ s.senderWalletId
  intraLedger_fees : s.settlementMethod = .IntraLedger →
    s.btcProtocolAndBankFee = ZERO_SATS ∧ s.usdProtocolAndBankFee = ZERO_CENTS
  btc_pos : 0 < s.btcPaymentAmount.amount
  usd_pos : 0 < s.usdPaymentAmount.amount

theorem LPFBWithRecipientWalletState.btcAmounts_eq_some {state : LPFBWithRecipientWalletState}
    {b bf : BtcPaymentAmount} (h : state.btcAmounts = some (b, bf)) :
    state.btcPaymentAmount = some b ∧ state.btcProtocolAndBankFee = some bf := by
  unfold btcAmounts at h
  split at h
  · rename_i amount fee hAmount hFee
    cases h
    exact ⟨hAmount, hFee⟩
  · cases h

theorem LPFBWithRecipientWalletState.usdAmounts_eq_some {state : LPFBWithRecipientWalletState}
    {u uf : UsdPaymentAmount} (h : state.usdAmounts = some (u, uf)) :
    state.usdPaymentAmount = some u ∧ state.usdProtocolAndBankFee = some uf := by
  unfold usdAmounts at h
  split at h
  · rename_i amount fee hAmount hFee
    cases h
    exact ⟨hAmount, hFee⟩
  · cases h

namespace LPFBWithRecipientWallet

variable {state : LPFBWithRecipientWalletState} {createdAt : ℤ} {args : WithConversionArgs}
  {s : LPFBWithConversionState}

/-- Both fees are set before the conversion only on the ledger, where they are
    zero. -/
theorem keptFees_zero (hInv : state.toLPFBWithSenderWalletState.Inv) {b bf : BtcPaymentAmount}
    {u uf : UsdPaymentAmount} (hBtc : state.btcAmounts = some (b, bf))
    (hUsd : state.usdAmounts = some (u, uf)) : bf = ZERO_SATS ∧ uf = ZERO_CENTS := by
  obtain ⟨-, hbf⟩ := LPFBWithRecipientWalletState.btcAmounts_eq_some hBtc
  obtain ⟨-, huf⟩ := LPFBWithRecipientWalletState.usdAmounts_eq_some hUsd
  have hIntraLedger : state.settlementMethod = .IntraLedger := by
    by_contra hLightning
    rcases hInv.lightning_fees hLightning with hNone | hNone
    · rw [hNone] at hbf
      cases hbf
    · rw [hNone] at huf
      cases huf
  obtain ⟨hbf0, huf0⟩ := hInv.intraLedger_fees hIntraLedger
  exact ⟨Option.some.inj (hbf.symm.trans hbf0), Option.some.inj (huf.symm.trans huf0)⟩

/-- Every converted state is sound, when the price services quote positive
    amounts and the earlier stages kept their invariants. -/
theorem withConversion_sound (hInv : state.toLPFBWithSenderWalletState.Inv)
    (hPos : state.toLPFBWithSenderWalletState.AmountsPositive)
    (hRecipient : state.RecipientNotSender) (hPositive : args.Positive)
    (h : withConversion state createdAt args = .ok s) : s.Sound := by
  rcases withConversion_ok h with
    ⟨b, bf, u, uf, hBtc, hUsd, rfl⟩ |
      ⟨b, bf, u, priceRatio, recipientState, hBtc, hQuote, -, hRedirected, rfl⟩ |
      ⟨u, uf, b, priceRatio, -, hUsd, hQuote, -, rfl⟩
  · -- both fees were already set, which only a ledger payment does, at zero
    obtain ⟨hb, -⟩ := LPFBWithRecipientWalletState.btcAmounts_eq_some hBtc
    obtain ⟨hu, -⟩ := LPFBWithRecipientWalletState.usdAmounts_eq_some hUsd
    obtain ⟨hbZero, huZero⟩ := keptFees_zero hInv hBtc hUsd
    exact ⟨hRecipient, fun _ => ⟨hbZero, huZero⟩, hPos.1 b hb, hPos.2 u hu⟩
  · -- USD from BTC: the recipient may have moved to its BTC wallet
    obtain ⟨hb, hbf⟩ := LPFBWithRecipientWalletState.btcAmounts_eq_some hBtc
    have hbPos := hPos.1 b hb
    have huPos := hQuote.pos hPositive
    have hKeep : recipientState.senderWalletId = state.senderWalletId ∧
        recipientState.settlementMethod = state.settlementMethod ∧
        ∀ r, recipientState.recipientWalletId = some r → r ≠ state.senderWalletId := by
      rcases hRedirected with rfl | ⟨descriptor, hNotSender, rfl⟩
      · exact ⟨rfl, rfl, hRecipient⟩
      · refine ⟨rfl, rfl, fun r hr => ?_⟩
        cases hr
        exact hNotSender
    obtain ⟨hSender, hSettlement, hNotSender⟩ := hKeep
    refine ⟨?_, ?_, hbPos, huPos⟩
    · intro r hr
      show r ≠ recipientState.senderWalletId
      rw [hSender]
      exact hNotSender r hr
    · intro hIntraLedger
      have hbf0 := (hInv.intraLedger_fees (hSettlement ▸ hIntraLedger)).1
      have hbZero : bf = ZERO_SATS := Option.some.inj (hbf.symm.trans hbf0)
      subst hbZero
      simp [LPFBWithRecipientWalletState.withAmounts, ZERO_SATS, ZERO_CENTS,
        WalletPriceRatio.convertFromBtcToCeil]
  · -- BTC from USD
    obtain ⟨hu, huf⟩ := LPFBWithRecipientWalletState.usdAmounts_eq_some hUsd
    have huPos := hPos.2 u hu
    have hbPos := hQuote.pos hPositive
    refine ⟨hRecipient, ?_, hbPos, huPos⟩
    intro hIntraLedger
    have huf0 := (hInv.intraLedger_fees hIntraLedger).2
    have huZero : uf = ZERO_CENTS := Option.some.inj (huf.symm.trans huf0)
    subst huZero
    simp [LPFBWithRecipientWalletState.withAmounts, ZERO_SATS, ZERO_CENTS,
      WalletPriceRatio.convertFromUsd]

/-- Which fee the conversion derives, at the converted state's own ratio: the
    USD fee from the BTC one, rounded up, whenever the BTC amount and fee were
    set, and the BTC fee from the USD one when they were not. -/
theorem withConversion_fees (hInv : state.toLPFBWithSenderWalletState.Inv)
    (h : withConversion state createdAt args = .ok s) {priceRatio : WalletPriceRatio}
    (hRatio : WalletPriceRatio.of s.usdPaymentAmount s.btcPaymentAmount = .ok priceRatio) :
    (state.btcAmounts ≠ none →
        s.usdProtocolAndBankFee = priceRatio.convertFromBtcToCeil s.btcProtocolAndBankFee) ∧
      (state.btcAmounts = none →
        s.btcProtocolAndBankFee = priceRatio.convertFromUsd s.usdProtocolAndBankFee) := by
  rcases withConversion_ok h with
    ⟨b, bf, u, uf, hBtc, hUsd, rfl⟩ |
      ⟨b, bf, u, p, recipientState, hBtc, -, hP, -, rfl⟩ |
      ⟨u, uf, b, p, hNoBtc, -, -, hP, rfl⟩
  · -- both fees were kept, at zero, so the USD one is the BTC one converted
    obtain ⟨rfl, rfl⟩ := keptFees_zero hInv hBtc hUsd
    refine ⟨fun _ => ?_, fun hNoBtc => absurd hBtc (by simp [hNoBtc])⟩
    simp [LPFBWithRecipientWalletState.withAmounts, ZERO_SATS, ZERO_CENTS]
  · -- the ratio of the two amounts is the one the fee was converted at
    have hSame : priceRatio = p := Except.ok.inj (hRatio.symm.trans hP)
    subst hSame
    exact ⟨fun _ => rfl, fun hNoBtc => absurd hBtc (by simp [hNoBtc])⟩
  · have hSame : priceRatio = p := Except.ok.inj (hRatio.symm.trans hP)
    subst hSame
    exact ⟨fun hSome => absurd hNoBtc hSome, fun _ => rfl⟩

end LPFBWithRecipientWallet

-- ============================================================================
-- The flow
-- ============================================================================

/-- A flow has exactly one of its two hashes, and that one is non-empty. -/
def PaymentFlow.OneHash (flow : PaymentFlow) : Prop :=
  (∃ paymentHash, paymentHash ≠ "" ∧ flow.paymentHash = some paymentHash ∧
      flow.intraLedgerHash = none) ∨
    (∃ intraLedgerHash, intraLedgerHash ≠ "" ∧ flow.paymentHash = none ∧
      flow.intraLedgerHash = some intraLedgerHash)

/-- Exactly one of `paymentHashForFlow` and `intraLedgerHashForFlow` succeeds. -/
theorem PaymentFlow.OneHash.xor_hashForFlow {flow : PaymentFlow} (h : flow.OneHash) :
    Xor (∃ paymentHash, flow.paymentHashForFlow = .ok paymentHash)
      (∃ intraLedgerHash, flow.intraLedgerHashForFlow = .ok intraLedgerHash) := by
  rcases h with ⟨paymentHash, hne, hp, hi⟩ | ⟨intraLedgerHash, hne, hp, hi⟩
  · obtain ⟨hOk, hError⟩ := flow.paymentHashForFlow_eq_ok hne hp hi
    refine .inl ⟨⟨paymentHash, hOk⟩, ?_⟩
    rintro ⟨intraLedgerHash, hIntra⟩
    rw [hError] at hIntra
    cases hIntra
  · obtain ⟨hOk, hError⟩ := flow.intraLedgerHashForFlow_eq_ok hne hp hi
    refine .inr ⟨⟨intraLedgerHash, hOk⟩, ?_⟩
    rintro ⟨paymentHash, hPayment⟩
    rw [hError] at hPayment
    cases hPayment

/-- A flow carries the sender, the recipient, the settlement and the amounts
    of the state it is built from. -/
structure PaymentFlow.Carries (flow : PaymentFlow) (state : LPFBWithConversionState) : Prop where
  senderWalletId : flow.senderWalletId = state.senderWalletId
  senderWalletCurrency : flow.senderWalletCurrency = state.senderWalletCurrency
  settlementMethod : flow.settlementMethod = state.settlementMethod
  recipientWalletId : flow.recipientWalletId = state.recipientWalletId
  btcPaymentAmount : flow.btcPaymentAmount = state.btcPaymentAmount
  usdPaymentAmount : flow.usdPaymentAmount = state.usdPaymentAmount
  btcProtocolAndBankFee : flow.btcProtocolAndBankFee = state.btcProtocolAndBankFee
  usdProtocolAndBankFee : flow.usdProtocolAndBankFee = state.usdProtocolAndBankFee

namespace LPFBWithConversion

variable {state : LPFBWithConversionState} {flow : PaymentFlow}

theorem paymentFromState_ok {outgoingNodePubkey : Option String} {checkedRoute : Option RawRoute}
    (h : paymentFromState state outgoingNodePubkey checkedRoute = .ok flow) :
    flow.OneHash ∧ flow.Carries state := by
  unfold paymentFromState at h
  obtain ⟨⟨paymentHash, intraLedgerHash⟩, hHash, rfl⟩ := Except.map_eq_ok h
  refine ⟨?_, ⟨rfl, rfl, rfl, rfl, rfl, rfl, rfl, rfl⟩⟩
  split at hHash
  · -- the payment hash is kept
    rename_i hTruthy
    cases hHash
    obtain ⟨ph, hne, hp⟩ := truthy_eq_true.mp hTruthy
    exact .inl ⟨ph, hne, hp, rfl⟩
  · split at hHash
    · rename_i _ hTruthy
      cases hHash
      obtain ⟨ih, hne, hi⟩ := truthy_eq_true.mp hTruthy
      exact .inr ⟨ih, hne, rfl, hi⟩
    · cases hHash

theorem withRoute_ok {pubkey : String} {rawRoute : RawRoute}
    (h : withRoute state pubkey rawRoute = .ok flow) :
    ∃ priceRatio, WalletPriceRatio.of state.usdPaymentAmount state.btcPaymentAmount = .ok priceRatio ∧
      paymentFromState { state with
          btcProtocolAndBankFee := ⟨⌈rawRoute.safe_fee⌉⟩
          usdProtocolAndBankFee := priceRatio.convertFromBtcToCeil ⟨⌈rawRoute.safe_fee⌉⟩ }
        (some pubkey) (some rawRoute) = .ok flow := by
  obtain ⟨priceRatio, hRatio, h⟩ := Except.bind_eq_ok h
  rw [show (LnFees.feeFromRawRoute rawRoute).mapError PaymentFlowError.validation =
      .ok ⟨⌈rawRoute.safe_fee⌉⟩ by rw [LnFees.feeFromRawRoute_eq]; rfl] at h
  exact ⟨priceRatio, Except.mapError_eq_ok hRatio, h⟩

end LPFBWithConversion

-- ============================================================================
-- Whole chains
-- ============================================================================

section Chain

variable {config : LightningPaymentFlowBuilderConfig} {invoiceStep : InvoiceStep}
  {senderWallet : WalletDescriptor} {recipientStep : RecipientStep}
  {conversion : WithConversionArgs} {createdAt : ℤ} {routeStep : RouteStep} {flow : PaymentFlow}

/-- The state a chain converts to is sound. -/
theorem buildLightningPaymentFlow_converted
    (hInvoice : ∀ invoice a, invoiceStep = .withInvoice invoice → invoice.paymentAmount = some a →
      0 ≤ a.amount)
    (hRecipient : ∀ args u, recipientStep = .withRecipientWallet args →
      args.usdPaymentAmount = some u → 0 < u.amount)
    (hPositive : conversion.Positive)
    (h : buildLightningPaymentFlow config invoiceStep senderWallet recipientStep conversion
      createdAt routeStep = .ok flow) :
    ∃ converted : LPFBWithConversionState, converted.Sound ∧ routeStep.run converted = .ok flow := by
  obtain ⟨withInvoice, hWithInvoice, h⟩ := Except.bind_eq_ok h
  obtain ⟨withSender, hWithSender, h⟩ := Except.bind_eq_ok h
  obtain ⟨withRecipient, hWithRecipient, h⟩ := Except.bind_eq_ok h
  obtain ⟨converted, hConverted, hRoute⟩ := Except.bind_eq_ok h
  -- carry the stage invariants from the invoice to the conversion
  have hInvoiceInv := InvoiceStep.run_inv hWithInvoice
  have hNonneg : ∀ b, withInvoice.btcPaymentAmount = some b → 0 ≤ b.amount := by
    intro b hb
    obtain ⟨invoice, hStep, hAmount⟩ := InvoiceStep.run_btcPaymentAmount hWithInvoice hb
    exact hInvoice invoice b hStep hAmount
  have hSenderInv := LPFBWithInvoice.withSenderWallet_inv hInvoiceInv hWithSender
  have hSenderPos :=
    LPFBWithInvoice.withSenderWallet_amountsPositive hInvoiceInv hNonneg hWithSender
  have hRecipientInv := RecipientStep.run_inv hSenderInv hWithRecipient
  have hRecipientPos := RecipientStep.run_amountsPositive hSenderPos hRecipient hWithRecipient
  have hNotSender := RecipientStep.run_recipientNotSender hWithRecipient
  exact ⟨converted, LPFBWithRecipientWallet.withConversion_sound hRecipientInv hRecipientPos
    hNotSender hPositive hConverted, hRoute⟩

/-- The flow of a chain has positive amounts, so a ratio of its own. -/
theorem buildLightningPaymentFlow_amounts
    (hInvoice : ∀ invoice a, invoiceStep = .withInvoice invoice → invoice.paymentAmount = some a →
      0 ≤ a.amount)
    (hRecipient : ∀ args u, recipientStep = .withRecipientWallet args →
      args.usdPaymentAmount = some u → 0 < u.amount)
    (hPositive : conversion.Positive)
    (h : buildLightningPaymentFlow config invoiceStep senderWallet recipientStep conversion
      createdAt routeStep = .ok flow) :
    0 < flow.btcPaymentAmount.amount ∧ 0 < flow.usdPaymentAmount.amount := by
  obtain ⟨converted, hSound, hRoute⟩ :=
    buildLightningPaymentFlow_converted hInvoice hRecipient hPositive h
  -- a route changes only the fees
  have hCarries : flow.btcPaymentAmount = converted.btcPaymentAmount ∧
      flow.usdPaymentAmount = converted.usdPaymentAmount := by
    cases routeStep with
    | withoutRoute =>
      obtain ⟨-, hCarries⟩ := LPFBWithConversion.paymentFromState_ok hRoute
      exact ⟨hCarries.btcPaymentAmount, hCarries.usdPaymentAmount⟩
    | withRoute pubkey rawRoute =>
      obtain ⟨_, -, hFlow⟩ := LPFBWithConversion.withRoute_ok hRoute
      obtain ⟨-, hCarries⟩ := LPFBWithConversion.paymentFromState_ok hFlow
      exact ⟨hCarries.btcPaymentAmount, hCarries.usdPaymentAmount⟩
  rw [hCarries.1, hCarries.2]
  exact ⟨hSound.btc_pos, hSound.usd_pos⟩

/-- The fees of a chain's flow are tied at the flow's ratio, by the path: the
    USD fee is the BTC fee rounded up when the sender is a BTC wallet, the
    invoice carries an amount or a route sets the fee; otherwise the BTC fee is
    converted from the USD one. -/
theorem buildLightningPaymentFlow_fees
    (h : buildLightningPaymentFlow config invoiceStep senderWallet recipientStep conversion
      createdAt routeStep = .ok flow) {priceRatio : WalletPriceRatio}
    (hRatio : WalletPriceRatio.of flow.usdPaymentAmount flow.btcPaymentAmount = .ok priceRatio) :
    ((senderWallet.currency = .Btc ∨ (∃ invoice, invoiceStep = .withInvoice invoice) ∨
        ∃ pubkey rawRoute, routeStep = .withRoute pubkey rawRoute) →
      flow.usdProtocolAndBankFee = priceRatio.convertFromBtcToCeil flow.btcProtocolAndBankFee) ∧
    (senderWallet.currency = .Usd → (∀ invoice, invoiceStep ≠ .withInvoice invoice) →
      routeStep = .withoutRoute →
      flow.btcProtocolAndBankFee = priceRatio.convertFromUsd flow.usdProtocolAndBankFee) := by
  obtain ⟨withInvoice, hWithInvoice, h⟩ := Except.bind_eq_ok h
  obtain ⟨withSender, hWithSender, h⟩ := Except.bind_eq_ok h
  obtain ⟨withRecipient, hWithRecipient, h⟩ := Except.bind_eq_ok h
  obtain ⟨converted, hConverted, hRoute⟩ := Except.bind_eq_ok h
  have hInvoiceInv := InvoiceStep.run_inv hWithInvoice
  have hRecipientInv :=
    RecipientStep.run_inv (LPFBWithInvoice.withSenderWallet_inv hInvoiceInv hWithSender)
      hWithRecipient
  obtain ⟨hSenderBtc, hSenderUsd⟩ :=
    LPFBWithInvoice.withSenderWallet_btcAmounts hInvoiceInv hWithSender
  obtain ⟨hKeepBtc, hKeepFee⟩ := RecipientStep.run_btcAmounts hWithRecipient
  cases routeStep with
  | withoutRoute =>
    -- the conversion decided the fees, by the amounts the earlier stages set
    obtain ⟨-, hCarries⟩ := LPFBWithConversion.paymentFromState_ok hRoute
    rw [hCarries.usdPaymentAmount, hCarries.btcPaymentAmount] at hRatio
    rw [hCarries.btcProtocolAndBankFee, hCarries.usdProtocolAndBankFee]
    obtain ⟨hFromBtc, hFromUsd⟩ :=
      LPFBWithRecipientWallet.withConversion_fees hRecipientInv hConverted hRatio
    refine ⟨fun hPath => hFromBtc ?_, fun hUsd hNoAmount _ => hFromUsd ?_⟩
    · -- a BTC sender, or an invoice with an amount, sets the BTC amount and fee
      have hWhy : senderWallet.currency = .Btc ∨ withInvoice.uncheckedAmount = none := by
        rcases hPath with hBtc | ⟨invoice, rfl⟩ | ⟨_, _, hRouteStep⟩
        · exact .inl hBtc
        · exact .inr (InvoiceStep.run_withInvoice_uncheckedAmount hWithInvoice)
        · cases hRouteStep
      obtain ⟨b, bf, hb, hbf⟩ := hSenderBtc hWhy
      simp [LPFBWithRecipientWalletState.btcAmounts, hKeepBtc, hKeepFee, hb, hbf]
    · -- a USD sender of an unchecked amount sets no BTC amount
      have hUnchecked : withInvoice.uncheckedAmount ≠ none := by
        intro hNone
        obtain ⟨invoice, -, hStep, -⟩ := InvoiceStep.run_uncheckedAmount_none hWithInvoice hNone
        exact hNoAmount invoice hStep
      simp [LPFBWithRecipientWalletState.btcAmounts, hKeepBtc, hSenderUsd hUsd hUnchecked]
  | withRoute pubkey rawRoute =>
    -- the route's fee is converted to USD at the flow's ratio
    obtain ⟨p, hP, hFlow⟩ := LPFBWithConversion.withRoute_ok hRoute
    obtain ⟨-, hCarries⟩ := LPFBWithConversion.paymentFromState_ok hFlow
    rw [hCarries.usdPaymentAmount, hCarries.btcPaymentAmount] at hRatio
    have hSame : priceRatio = p := Except.ok.inj (hRatio.symm.trans hP)
    subst hSame
    refine ⟨fun _ => ?_, fun _ _ hRouteStep => by cases hRouteStep⟩
    rw [hCarries.btcProtocolAndBankFee, hCarries.usdProtocolAndBankFee]

/-- Along every path one of the two fees is converted from the other. -/
theorem buildLightningPaymentFlow_fees_tied
    (h : buildLightningPaymentFlow config invoiceStep senderWallet recipientStep conversion
      createdAt routeStep = .ok flow) {priceRatio : WalletPriceRatio}
    (hRatio : WalletPriceRatio.of flow.usdPaymentAmount flow.btcPaymentAmount = .ok priceRatio) :
    flow.usdProtocolAndBankFee = priceRatio.convertFromBtcToCeil flow.btcProtocolAndBankFee ∨
      flow.btcProtocolAndBankFee = priceRatio.convertFromUsd flow.usdProtocolAndBankFee := by
  obtain ⟨hFromBtc, hFromUsd⟩ := buildLightningPaymentFlow_fees h hRatio
  cases hCurrency : senderWallet.currency with
  | Btc => exact .inl (hFromBtc (.inl hCurrency))
  | Usd =>
    -- a USD sender converts its own fee unless an invoice amount or a route sets the BTC one
    cases routeStep with
    | withRoute pubkey rawRoute => exact .inl (hFromBtc (.inr (.inr ⟨pubkey, rawRoute, rfl⟩)))
    | withoutRoute =>
      cases invoiceStep with
      | withInvoice invoice => exact .inl (hFromBtc (.inr (.inl ⟨invoice, rfl⟩)))
      | withNoAmountInvoice => exact .inr (hFromUsd hCurrency (fun _ hStep => by cases hStep) rfl)
      | withoutInvoice => exact .inr (hFromUsd hCurrency (fun _ hStep => by cases hStep) rfl)

/-- Every chain that succeeds gives a flow with exactly one hash, a recipient
    other than the sender, positive amounts, and fees tied at the flow's own
    ratio along its path; a flow without a route that settles on the ledger
    has no fee. -/
theorem buildLightningPaymentFlow_invariants
    (hInvoice : ∀ invoice a, invoiceStep = .withInvoice invoice → invoice.paymentAmount = some a →
      0 ≤ a.amount)
    (hRecipient : ∀ args u, recipientStep = .withRecipientWallet args →
      args.usdPaymentAmount = some u → 0 < u.amount)
    (hPositive : conversion.Positive)
    (h : buildLightningPaymentFlow config invoiceStep senderWallet recipientStep conversion
      createdAt routeStep = .ok flow) :
    Xor (∃ paymentHash, flow.paymentHashForFlow = .ok paymentHash)
        (∃ intraLedgerHash, flow.intraLedgerHashForFlow = .ok intraLedgerHash) ∧
      (∀ r, flow.recipientWalletId = some r → r ≠ flow.senderWalletId) ∧
      (routeStep = .withoutRoute → flow.settlementMethod = .IntraLedger →
        flow.btcProtocolAndBankFee = ZERO_SATS ∧ flow.usdProtocolAndBankFee = ZERO_CENTS) ∧
      0 < flow.btcPaymentAmount.amount ∧ 0 < flow.usdPaymentAmount.amount ∧
      ∃ priceRatio, WalletPriceRatio.of flow.usdPaymentAmount flow.btcPaymentAmount = .ok priceRatio ∧
        ((senderWallet.currency = .Btc ∨ (∃ invoice, invoiceStep = .withInvoice invoice) ∨
            ∃ pubkey rawRoute, routeStep = .withRoute pubkey rawRoute) →
          flow.usdProtocolAndBankFee = priceRatio.convertFromBtcToCeil flow.btcProtocolAndBankFee) ∧
        (senderWallet.currency = .Usd → (∀ invoice, invoiceStep ≠ .withInvoice invoice) →
          routeStep = .withoutRoute →
          flow.btcProtocolAndBankFee = priceRatio.convertFromUsd flow.usdProtocolAndBankFee) := by
  obtain ⟨converted, hSound, hRoute⟩ :=
    buildLightningPaymentFlow_converted hInvoice hRecipient hPositive h
  obtain ⟨hBtcPos, hUsdPos⟩ := buildLightningPaymentFlow_amounts hInvoice hRecipient hPositive h
  -- positive amounts make a ratio, and the fees are tied at it
  have hRatio := WalletPriceRatio.of_eq_ok (ne_of_gt hUsdPos) (ne_of_gt hBtcPos)
  have hFees := buildLightningPaymentFlow_fees h hRatio
  cases routeStep with
  | withoutRoute =>
    -- the flow is the converted state as it is
    obtain ⟨hOne, hCarries⟩ := LPFBWithConversion.paymentFromState_ok hRoute
    refine ⟨hOne.xor_hashForFlow, ?_, ?_, hBtcPos, hUsdPos, _, hRatio, hFees⟩
    · rw [hCarries.recipientWalletId, hCarries.senderWalletId]
      exact hSound.recipient_ne_sender
    · intro _ hIntraLedger
      rw [hCarries.settlementMethod] at hIntraLedger
      rw [hCarries.btcProtocolAndBankFee, hCarries.usdProtocolAndBankFee]
      exact hSound.intraLedger_fees hIntraLedger
  | withRoute pubkey rawRoute =>
    -- only the fees change
    obtain ⟨priceRatio, -, hFlow⟩ := LPFBWithConversion.withRoute_ok hRoute
    obtain ⟨hOne, hCarries⟩ := LPFBWithConversion.paymentFromState_ok hFlow
    refine ⟨hOne.xor_hashForFlow, ?_, ?_, hBtcPos, hUsdPos, _, hRatio, hFees⟩
    · rw [hCarries.recipientWalletId, hCarries.senderWalletId]
      exact hSound.recipient_ne_sender
    · intro hRouteStep
      cases hRouteStep

/-- A price service that quotes 2000 cents for any BTC amount and 1000 sats for
    any USD amount. -/
def fixedQuotes : ConversionFns where
  usdFromBtc _ := .ok ⟨2000⟩
  btcFromUsd _ := .ok ⟨1000⟩

def fixedConversion : WithConversionArgs := ⟨fixedQuotes, fixedQuotes, fixedQuotes⟩

theorem fixedConversion_positive : fixedConversion.Positive := by
  have hQuotes : fixedQuotes.Positive := by
    constructor
    · intro b u h
      cases h
      decide
    · intro u b h
      cases h
      decide
  exact ⟨hQuotes, hQuotes, hQuotes⟩

/-- A BTC wallet tipping another user's BTC wallet on the ledger. -/
def tipRecipient : LPFBWithRecipientArgs where
  defaultWalletCurrency := .Btc
  recipientWalletDescriptors :=
    ⟨⟨"recipient-btc", .Btc, "recipient-account"⟩, ⟨"recipient-usd", .Usd, "recipient-account"⟩⟩
  userId := "recipient-user"

theorem buildLightningPaymentFlow_invariants_tip :
    ∃ flow, buildLightningPaymentFlow ⟨[], ⟨[], []⟩⟩ (.withoutInvoice 1000 "tip" "intraledger-hash")
        ⟨"sender", .Btc, "sender-account"⟩ (.withRecipientWallet tipRecipient) fixedConversion 0
        .withoutRoute = .ok flow ∧
      (Xor (∃ paymentHash, flow.paymentHashForFlow = .ok paymentHash)
        (∃ intraLedgerHash, flow.intraLedgerHashForFlow = .ok intraLedgerHash) ∧
      (∀ r, flow.recipientWalletId = some r → r ≠ flow.senderWalletId) ∧
      (RouteStep.withoutRoute = .withoutRoute → flow.settlementMethod = .IntraLedger →
        flow.btcProtocolAndBankFee = ZERO_SATS ∧ flow.usdProtocolAndBankFee = ZERO_CENTS) ∧
      0 < flow.btcPaymentAmount.amount ∧ 0 < flow.usdPaymentAmount.amount ∧
      ∃ priceRatio, WalletPriceRatio.of flow.usdPaymentAmount flow.btcPaymentAmount = .ok priceRatio ∧
        ((WalletCurrency.Btc = .Btc ∨
            (∃ invoice, InvoiceStep.withoutInvoice 1000 "tip" "intraledger-hash" =
              .withInvoice invoice) ∨
            ∃ pubkey rawRoute, RouteStep.withoutRoute = .withRoute pubkey rawRoute) →
          flow.usdProtocolAndBankFee = priceRatio.convertFromBtcToCeil flow.btcProtocolAndBankFee) ∧
        (WalletCurrency.Btc = .Usd →
          (∀ invoice, InvoiceStep.withoutInvoice 1000 "tip" "intraledger-hash" ≠
            .withInvoice invoice) →
          RouteStep.withoutRoute = .withoutRoute →
          flow.btcProtocolAndBankFee = priceRatio.convertFromUsd flow.usdProtocolAndBankFee)) :=
  ⟨_, rfl, @buildLightningPaymentFlow_invariants ⟨[], ⟨[], []⟩⟩
    (.withoutInvoice 1000 "tip" "intraledger-hash") ⟨"sender", .Btc, "sender-account"⟩
    (.withRecipientWallet tipRecipient) fixedConversion 0 .withoutRoute _
    (fun _ _ hStep _ => by cases hStep)
    (fun _ _ hStep hUsd => by cases hStep; simp [tipRecipient] at hUsd)
    fixedConversion_positive rfl⟩

/-- `withRoute` prices a ledger payment as if it went out over Lightning. -/
theorem buildLightningPaymentFlow_withRoute_intraLedger_fee :
    ∃ flow, buildLightningPaymentFlow ⟨[], ⟨[], []⟩⟩ (.withoutInvoice 1000 "tip" "intraledger-hash")
        ⟨"sender", .Btc, "sender-account"⟩ (.withRecipientWallet tipRecipient) fixedConversion 0
        (.withRoute "route-pubkey" ⟨5⟩) = .ok flow ∧
      flow.settlementMethod = .IntraLedger ∧ flow.btcProtocolAndBankFee = ⟨5⟩ :=
  ⟨_, rfl, rfl, rfl⟩

end Chain

-- ============================================================================
-- The routeless fee check
-- ============================================================================

/-- The invoice a chain starts from, if any. -/
def InvoiceStep.invoice? : InvoiceStep → Option LnInvoice
  | .withInvoice invoice => some invoice
  | .withNoAmountInvoice invoice _ => some invoice
  | .withoutInvoice .. => none

namespace LPFBWithInvoice

variable {state : LPFBWithInvoiceState} {senderWallet : WalletDescriptor}
  {s : LPFBWithSenderWalletState}

/-- The sender stage keeps the settlement and takes the sender's currency. -/
theorem withSenderWallet_settlementMethod (h : withSenderWallet state senderWallet = .ok s) :
    s.settlementMethod = state.settlementMethod ∧ s.senderWalletCurrency = senderWallet.currency := by
  rcases withSenderWallet_ok h with
    ⟨q, a, -, -, -, rfl⟩ | ⟨q, a, -, -, -, rfl⟩ | ⟨inputAmount, a, -, -, -, -, rfl⟩ <;>
    exact ⟨rfl, rfl⟩

/-- Over Lightning the sender stage holds exactly one amount and its capped fee:
    the BTC one, for a BTC sender or an invoice with an amount, or else the USD one. -/
theorem withSenderWallet_lightning (hInv : state.Inv)
    (hLightning : state.settlementMethod ≠ .IntraLedger)
    (h : withSenderWallet state senderWallet = .ok s) :
    (∃ a, s.btcPaymentAmount = some a ∧
        s.btcProtocolAndBankFee = some (LnFees.maxProtocolAndBankFee a) ∧
        s.usdPaymentAmount = none ∧ s.usdProtocolAndBankFee = none ∧
        (senderWallet.currency = .Btc ∨ state.uncheckedAmount = none)) ∨
      (∃ a, s.usdPaymentAmount = some a ∧
        s.usdProtocolAndBankFee = some (LnFees.maxProtocolAndBankFee a) ∧
        s.btcPaymentAmount = none ∧ s.btcProtocolAndBankFee = none ∧
        senderWallet.currency = .Usd) := by
  obtain ⟨hNoBtcFee, hNoUsdFee⟩ := hInv.lightning_fees hLightning
  rcases withSenderWallet_ok h with
    ⟨q, a, -, hBtc, -, rfl⟩ | ⟨q, a, hq, hUsd, -, rfl⟩ |
      ⟨inputAmount, a, hq, -, -, hAmount, rfl⟩
  · refine .inl ⟨a, rfl, ?_, rfl, ?_, .inl hBtc⟩
    · simp [hNoBtcFee]
    · simp [LPFBWithInvoiceState.withSender, hNoUsdFee]
  · -- an unchecked amount comes without a BTC amount
    have hNoBtc : state.btcPaymentAmount = none := by
      cases hb : state.btcPaymentAmount with
      | none => rfl
      | some b => simp [(hInv.btc_input b hb).2] at hq
    have hCurrency : senderWallet.currency = .Usd := by
      cases hc : senderWallet.currency with
      | Btc => exact absurd hc hUsd
      | Usd => rfl
    refine .inr ⟨a, rfl, ?_, ?_, ?_, hCurrency⟩
    · simp [hNoUsdFee]
    · simp [LPFBWithInvoiceState.withSender, hNoBtc]
    · simp [LPFBWithInvoiceState.withSender, hNoBtcFee]
  · refine .inl ⟨a, rfl, ?_, rfl, ?_, .inr hq⟩
    · simp [hNoBtcFee]
    · simp [LPFBWithInvoiceState.withSender, hNoUsdFee]

end LPFBWithInvoice

section RoutelessFee

variable {config : LightningPaymentFlowBuilderConfig} {invoiceStep : InvoiceStep}
  {senderWallet : WalletDescriptor} {conversion : WithConversionArgs} {createdAt : ℤ}
  {flow : PaymentFlow}

theorem verifyMaxFee_routelessFlow {invoice : LnInvoice}
    (hInvoice : invoiceStep.invoice? = some invoice)
    (h : buildLightningPaymentFlow config invoiceStep senderWallet .withoutRecipientWallet
      conversion createdAt .withoutRoute = .ok flow) :
    ∃ priceRatio, WalletPriceRatio.of flow.usdPaymentAmount flow.btcPaymentAmount = .ok priceRatio ∧
      LnFees.verifyMaxFee
        { maxFeeAmount := flow.btcProtocolAndBankFee
          btcPaymentAmount := flow.btcPaymentAmount
          usdPaymentAmount := flow.usdPaymentAmount
          priceRatio := priceRatio
          senderWalletCurrency := senderWallet.currency
          isFromNoAmountInvoice := invoice.paymentAmount.isNone } = .ok true := by
  obtain ⟨withInvoice, hWithInvoice, h⟩ := Except.bind_eq_ok h
  obtain ⟨withSender, hWithSender, h⟩ := Except.bind_eq_ok h
  obtain ⟨withRecipient, hWithRecipient, h⟩ := Except.bind_eq_ok h
  obtain ⟨converted, hConverted, hRoute⟩ := Except.bind_eq_ok h
  obtain ⟨hLightning, rfl⟩ := LPFBWithSenderWallet.withoutRecipientWallet_ok hWithRecipient
  obtain ⟨-, hCarries⟩ := LPFBWithConversion.paymentFromState_ok hRoute
  obtain ⟨hSettlement, -⟩ := LPFBWithInvoice.withSenderWallet_settlementMethod hWithSender
  have hInvoiceInv := InvoiceStep.run_inv hWithInvoice
  rcases LPFBWithInvoice.withSenderWallet_lightning hInvoiceInv (hSettlement ▸ hLightning)
      hWithSender with
    ⟨a, hBtc, hBtcFee, hUsd, -, hWhy⟩ | ⟨a, hUsd, hUsdFee, hBtc, -, hCurrency⟩
  · -- the BTC amount and its capped fee: the USD amount is quoted from it
    have hBtcAmounts : LPFBWithRecipientWalletState.btcAmounts
        { toLPFBWithSenderWalletState := withSender } = some (a, LnFees.maxProtocolAndBankFee a) := by
      simp [LPFBWithRecipientWalletState.btcAmounts, hBtc, hBtcFee]
    have hUsdAmounts : LPFBWithRecipientWalletState.usdAmounts
        { toLPFBWithSenderWalletState := withSender } = none := by
      simp [LPFBWithRecipientWalletState.usdAmounts, hUsd]
    rcases LPFBWithRecipientWallet.withConversion_ok hConverted with
      ⟨b, bf, u, uf, -, hU, -⟩ | ⟨b, bf, u, priceRatio, recipientState, hB, -, hRatio, -, rfl⟩ |
        ⟨u, uf, b, priceRatio, -, hU, -⟩
    · rw [hUsdAmounts] at hU
      cases hU
    · rw [hBtcAmounts] at hB
      cases hB
      have hFlowBtc : flow.btcPaymentAmount = a := hCarries.btcPaymentAmount
      have hFlowFee : flow.btcProtocolAndBankFee = LnFees.maxProtocolAndBankFee a :=
        hCarries.btcProtocolAndBankFee
      refine ⟨priceRatio, ?_, LnFees.verifyMaxFee_eq_ok ?_⟩
      · rw [hCarries.usdPaymentAmount, hFlowBtc]
        exact hRatio
      · rw [hFlowFee, hFlowBtc]
        cases hc : senderWallet.currency with
        | Btc => rw [LnFees.calculatedMaxFeeAmount_btc rfl]
        | Usd =>
          -- a USD sender holds a BTC amount only from an invoice with an amount
          have hNoUnchecked : withInvoice.uncheckedAmount = none := by
            rcases hWhy with hBtcSender | hNone
            · rw [hc] at hBtcSender
              cases hBtcSender
            · exact hNone
          obtain ⟨invoice', a', rfl, hAmount⟩ :=
            InvoiceStep.run_uncheckedAmount_none hWithInvoice hNoUnchecked
          have hSame : invoice' = invoice := by
            simpa [InvoiceStep.invoice?] using hInvoice
          subst hSame
          have hFromAmount : invoice'.paymentAmount.isNone = false := by simp [hAmount]
          exact LnFees.le_calculatedMaxFeeAmount rfl hFromAmount
    · rw [hUsdAmounts] at hU
      cases hU
  · -- the USD amount and its capped fee: the BTC amount and fee are quoted from them
    have hBtcAmounts : LPFBWithRecipientWalletState.btcAmounts
        { toLPFBWithSenderWalletState := withSender } = none := by
      simp [LPFBWithRecipientWalletState.btcAmounts, hBtc]
    have hUsdAmounts : LPFBWithRecipientWalletState.usdAmounts
        { toLPFBWithSenderWalletState := withSender } = some (a, LnFees.maxProtocolAndBankFee a) := by
      simp [LPFBWithRecipientWalletState.usdAmounts, hUsd, hUsdFee]
    rcases LPFBWithRecipientWallet.withConversion_ok hConverted with
      ⟨b, bf, u, uf, hB, -⟩ | ⟨b, bf, u, priceRatio, recipientState, hB, -⟩ |
        ⟨u, uf, b, priceRatio, -, hU, -, hRatio, rfl⟩
    · rw [hBtcAmounts] at hB
      cases hB
    · rw [hBtcAmounts] at hB
      cases hB
    · rw [hUsdAmounts] at hU
      cases hU
      have hFlowUsd : flow.usdPaymentAmount = a := hCarries.usdPaymentAmount
      have hFlowFee : flow.btcProtocolAndBankFee =
          priceRatio.convertFromUsd (LnFees.maxProtocolAndBankFee a) :=
        hCarries.btcProtocolAndBankFee
      refine ⟨priceRatio, ?_, LnFees.verifyMaxFee_eq_ok ?_⟩
      · rw [hFlowUsd, hCarries.btcPaymentAmount]
        exact hRatio
      · rw [hFlowFee, hFlowUsd, hCurrency]
        exact LnFees.usdCap_le_calculatedMaxFeeAmount rfl

/-- An invoice of 1000 sats to a remote node. -/
def coffeeInvoice : LnInvoice := ⟨"remote-node", "coffee-hash", "coffee", some ⟨1000⟩, []⟩

/-- A USD wallet pays the invoice: its fee of 5 sats passes the routeless check. -/
theorem verifyMaxFee_routelessFlow_coffee :
    ∃ flow, buildLightningPaymentFlow ⟨[], ⟨[], []⟩⟩ (.withInvoice coffeeInvoice)
        ⟨"sender-usd", .Usd, "sender-account"⟩ .withoutRecipientWallet fixedConversion 0
        .withoutRoute = .ok flow ∧
      ∃ priceRatio, WalletPriceRatio.of flow.usdPaymentAmount flow.btcPaymentAmount = .ok priceRatio ∧
        LnFees.verifyMaxFee
          { maxFeeAmount := flow.btcProtocolAndBankFee
            btcPaymentAmount := flow.btcPaymentAmount
            usdPaymentAmount := flow.usdPaymentAmount
            priceRatio := priceRatio
            senderWalletCurrency := .Usd
            isFromNoAmountInvoice := coffeeInvoice.paymentAmount.isNone } = .ok true :=
  ⟨_, rfl, @verifyMaxFee_routelessFlow ⟨[], ⟨[], []⟩⟩ (.withInvoice coffeeInvoice)
    ⟨"sender-usd", .Usd, "sender-account"⟩ fixedConversion 0 _ coffeeInvoice rfl rfl⟩

end RoutelessFee

end Galoy
