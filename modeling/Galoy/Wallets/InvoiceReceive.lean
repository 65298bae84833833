/-
  Galoy.Wallets.InvoiceReceive

  What a paid Lightning invoice credits
  (`domain/wallet-invoices/wallet-invoice-builder.ts`, `wallet-invoice-receiver.ts`,
  `app/prices/mid-price.ts`, `services/ledger/facade/offchain-receive.ts`).

  The builder fixes the cents of an invoice to a USD wallet that has an amount,
  and refuses one whose sats are worth no cent.  Once the invoice is paid with
  `receivedBtc`, `WalletInvoiceReceiver.withConversion` prices the receipt in
  cents: at the mid price for a BTC wallet, at the invoice's own cents for a
  USD invoice with an amount, and otherwise at the dealer's buy quote.  A quote
  of zero cents makes no price ratio, and sends the receipt to the account's
  BTC wallet at the mid price instead.  `updatePendingInvoice` then records it
  with `recordReceiveOffChain`.

  That journal balances, debits the Lightning asset account every sat received,
  credits the bank owner the sats fee, and credits one wallet of the account
  the receipt net of the bank fee, never a negative amount; the wallet is the
  invoice's own, or the BTC wallet after a zero-cent dealer quote
  (`lnReceive_journal_credits_recipient`).  The mid price converts with
  `convertFromBtc`, which turns a positive amount of sats into at least one
  cent, so the fallback never meets a zero quote itself, and the builder never
  stores zero cents: a receipt is refused only when a price service fails
  (`builtInvoice_receipt_priced`).

  The price services (`usdFromBtc` of the dealer and of the mid price) are
  functions into `Except`; a positive price is a hypothesis where it is needed.
-/

import Galoy.Ledger.EntryBalance
import Galoy.Payments.FlowBuilder

namespace Galoy

open AmountCalculator

-- ============================================================================
-- The invoice's amounts
-- ============================================================================

/-- `InvalidWalletInvoiceBuilderStateError`, `SubOneCentSatAmountForUsdReceiveError`
    and the dealer's errors, as `WIBWithExpiration.withAmount` returns them. -/
inductive WalletInvoiceBuilderError (E : Type) where
  | invalidWalletInvoiceBuilderState
  | subOneCentSatAmountForUsdReceive (message : String)
  | dealerPriceService (e : E)
  deriving DecidableEq, Repr

/-- The amounts of `WIBWithAmountState`, which `registerInvoice` copies to the
    wallet invoice. -/
structure WIBAmounts where
  hasAmount : Bool
  btcAmount : BtcPaymentAmount
  usdAmount : Option UsdPaymentAmount
  deriving DecidableEq, Repr

namespace WIBWithExpiration

variable {E : Type}

/-- `withAmount`: a USD wallet's invoice gets both amounts from the dealer, and
    one whose sats are worth no cent is refused; a BTC wallet's invoice takes
    only sats. -/
def withAmount (recipientCurrency : WalletCurrency)
    (dealerBtcFromUsd : UsdPaymentAmount → Except E BtcPaymentAmount)
    (dealerUsdFromBtc : BtcPaymentAmount → Except E UsdPaymentAmount) {c : WalletCurrency}
    (amount : PaymentAmount c) : Except (WalletInvoiceBuilderError E) WIBAmounts :=
  match recipientCurrency, c, amount with
  | .Usd, .Usd, usdAmount =>
    match dealerBtcFromUsd usdAmount with
    | .error e => .error (.dealerPriceService e)
    | .ok btcAmount => .ok ⟨true, btcAmount, some usdAmount⟩
  | .Usd, .Btc, btcAmount =>
    match dealerUsdFromBtc btcAmount with
    | .error e => .error (.dealerPriceService e)
    | .ok usdAmount =>
      if usdAmount.amount = 0 then
        .error (.subOneCentSatAmountForUsdReceive (toString btcAmount.amount ++ " sats"))
      else .ok ⟨true, btcAmount, some usdAmount⟩
  | .Btc, .Usd, _ => .error .invalidWalletInvoiceBuilderState
  | .Btc, .Btc, btcAmount => .ok ⟨true, btcAmount, none⟩

/-- `withoutAmount`. -/
def withoutAmount : WIBAmounts := ⟨false, ZERO_SATS, none⟩

/-- An invoice the builder makes from a non-zero amount carries no cents, or
    non-zero cents. -/
theorem withAmount_usdAmount_ne_zero {recipientCurrency : WalletCurrency}
    {dealerBtcFromUsd : UsdPaymentAmount → Except E BtcPaymentAmount}
    {dealerUsdFromBtc : BtcPaymentAmount → Except E UsdPaymentAmount} {c : WalletCurrency}
    {amount : PaymentAmount c} (hAmount : amount.amount ≠ 0) {amounts : WIBAmounts}
    (h : withAmount recipientCurrency dealerBtcFromUsd dealerUsdFromBtc amount = .ok amounts) :
    ∀ usd, amounts.usdAmount = some usd → usd.amount ≠ 0 := by
  intro usd hUsd
  cases recipientCurrency <;> cases c <;> simp only [withAmount] at h
  · -- a BTC wallet's invoice has no cents
    cases h
    cases hUsd
  · cases h
  · -- sats priced by the dealer: zero cents were refused
    split at h
    · cases h
    · rename_i usdAmount _
      split at h
      · cases h
      · rename_i hZero
        cases h
        cases hUsd
        exact hZero
  · -- cents given by the payee
    split at h
    · cases h
    · cases h
      cases hUsd
      exact hAmount

end WIBWithExpiration

-- ============================================================================
-- Pricing the receipt
-- ============================================================================

/-- `partialWalletDescriptor`: the invoice's `recipientWalletDescriptor`,
    without the account, which the receiver replaces. -/
structure PartialWalletDescriptor where
  id : String
  currency : WalletCurrency
  deriving DecidableEq, Repr

/-- `WalletInvoiceReceiverArgs`, with the two fields of `walletInvoice` that
    the receiver reads. -/
structure WalletInvoiceReceiverArgs where
  partialWalletDescriptor : PartialWalletDescriptor
  usdAmountFromInvoice : Option UsdPaymentAmount
  recipientWalletDescriptors : AccountWalletDescriptors
  receivedBtc : BtcPaymentAmount
  satsFee : BtcPaymentAmount := ZERO_BANK_FEE.1

/-- `ReceivedWalletInvoice`. -/
structure ReceivedWalletInvoice where
  btcToCreditReceiver : BtcPaymentAmount
  usdToCreditReceiver : UsdPaymentAmount
  usdBankFee : UsdPaymentAmount
  btcBankFee : BtcPaymentAmount
  recipientWalletDescriptor : WalletDescriptor
  deriving DecidableEq, Repr

/-- The errors of `withConversion`: a price ratio of a zero amount, or a price
    service's error. -/
inductive WalletInvoiceReceiverError (E : Type) where
  | invalidZeroAmountPriceRatioInput
  | dealerPriceService (e : E)
  deriving DecidableEq, Repr

/-- The sats fee converted up at the price of a positive receipt: non-negative,
    positive on a positive fee, and within the quote while the fee is within
    the receipt. -/
theorem WalletPriceRatio.convertFromBtcToCeil_bounds {ratio : WalletPriceRatio}
    {receivedUsd : UsdPaymentAmount} {receivedBtc satsFee : BtcPaymentAmount}
    (hRatio : ratio.priceRatio.other = receivedUsd.amount ∧
      ratio.priceRatio.walletAmount = receivedBtc)
    (hUsd : 0 < receivedUsd.amount) (hBtc : 0 < receivedBtc.amount)
    (hFee : 0 ≤ satsFee.amount) :
    let usdBankFee := (ratio.convertFromBtcToCeil satsFee).amount
    0 ≤ usdBankFee ∧ (0 < satsFee.amount → 0 < usdBankFee) ∧
      (satsFee.amount ≤ receivedBtc.amount → usdBankFee ≤ receivedUsd.amount) := by
  obtain ⟨hOther, hWallet⟩ := hRatio
  have hOther' : 0 < ratio.priceRatio.other := hOther ▸ hUsd
  have hWallet' : 0 < ratio.priceRatio.walletAmount.amount := hWallet ▸ hBtc
  have hCeil := WalletPriceRatio.convertFromBtcToCeil_eq hOther' hWallet' hFee
  have hPerSat : ratio.usdPerSat = (receivedUsd.amount : ℚ) / receivedBtc.amount := by
    rw [WalletPriceRatio.usdPerSat, PriceRatio.otherUnitPerWalletUnit, hOther, hWallet]
  have hPerSatPos := WalletPriceRatio.usdPerSat_pos hOther' hWallet'
  intro usdBankFee
  refine ⟨?_, fun hPos => ?_, fun hLe => ?_⟩
  · rw [show usdBankFee = _ from hCeil]
    exact Int.ceil_nonneg (mul_nonneg (by exact_mod_cast hFee) hPerSatPos.le)
  · rw [show usdBankFee = _ from hCeil]
    exact Int.ceil_pos.mpr (mul_pos (by exact_mod_cast hPos) hPerSatPos)
  · -- the fee is a part of the receipt, so its price is a part of the quote
    rw [show usdBankFee = _ from hCeil, Int.ceil_le, hPerSat]
    have hBtcQ : (0 : ℚ) < receivedBtc.amount := by exact_mod_cast hBtc
    have hLeQ : (satsFee.amount : ℚ) ≤ receivedBtc.amount := by exact_mod_cast hLe
    calc (satsFee.amount : ℚ) * ((receivedUsd.amount : ℚ) / receivedBtc.amount)
        ≤ receivedBtc.amount * ((receivedUsd.amount : ℚ) / receivedBtc.amount) :=
          mul_le_mul_of_nonneg_right hLeQ (div_nonneg (by exact_mod_cast hUsd.le) hBtcQ.le)
      _ = receivedUsd.amount := by field_simp

namespace WalletInvoiceReceiver

variable {E : Type} (args : WalletInvoiceReceiverArgs)

/-- The invoice's recipient, with the account of the account's BTC wallet. -/
def recipientWalletDescriptor : WalletDescriptor :=
  ⟨args.partialWalletDescriptor.id, args.partialWalletDescriptor.currency,
    args.recipientWalletDescriptors.BTC.accountId⟩

/-- The body the conversion methods share: the receipt priced at
    `receivedUsd`, with the bank fee converted up, credited to
    `walletDescriptor`. -/
def receivedAt (receivedUsd : UsdPaymentAmount) (walletDescriptor : WalletDescriptor) :
    Except (WalletInvoiceReceiverError E) ReceivedWalletInvoice :=
  match WalletPriceRatio.of receivedUsd args.receivedBtc with
  | .error _ => .error .invalidZeroAmountPriceRatioInput
  | .ok priceRatio =>
    let btcBankFee := args.satsFee
    let usdBankFee := priceRatio.convertFromBtcToCeil btcBankFee
    .ok { btcToCreditReceiver := sub args.receivedBtc btcBankFee
          usdToCreditReceiver := sub receivedUsd usdBankFee
          usdBankFee
          btcBankFee
          recipientWalletDescriptor := walletDescriptor }

/-- `receivedWalletInvoiceFromBtcAmountMid`: priced at the mid price, credited
    to `newRecipientWalletDescriptor` if one is given. -/
def receivedWalletInvoiceFromBtcAmountMid (mid : BtcPaymentAmount → Except E UsdPaymentAmount)
    (newRecipientWalletDescriptor : Option WalletDescriptor) :
    Except (WalletInvoiceReceiverError E) ReceivedWalletInvoice :=
  match mid args.receivedBtc with
  | .error e => .error (.dealerPriceService e)
  | .ok receivedUsd =>
    receivedAt args receivedUsd (newRecipientWalletDescriptor.getD (recipientWalletDescriptor args))

/-- `receivedWalletInvoiceFromUsdAmountRatio`: priced at the invoice's cents. -/
def receivedWalletInvoiceFromUsdAmountRatio (receivedUsd : UsdPaymentAmount) :
    Except (WalletInvoiceReceiverError E) ReceivedWalletInvoice :=
  receivedAt args receivedUsd (recipientWalletDescriptor args)

/-- `receivedWalletInvoiceFromBtcAmountDealer`: priced at the dealer's quote. -/
def receivedWalletInvoiceFromBtcAmountDealer
    (hedgeBuyUsd : BtcPaymentAmount → Except E UsdPaymentAmount) :
    Except (WalletInvoiceReceiverError E) ReceivedWalletInvoice :=
  match hedgeBuyUsd args.receivedBtc with
  | .error e => .error (.dealerPriceService e)
  | .ok receivedUsd => receivedAt args receivedUsd (recipientWalletDescriptor args)

/-- `withConversion`. -/
def withConversion (hedgeBuyUsd mid : BtcPaymentAmount → Except E UsdPaymentAmount) :
    Except (WalletInvoiceReceiverError E) ReceivedWalletInvoice :=
  if args.partialWalletDescriptor.currency = .Btc then
    receivedWalletInvoiceFromBtcAmountMid args mid none
  else
    match args.usdAmountFromInvoice with
    -- an object is truthy
    | some usdAmountFromInvoice => receivedWalletInvoiceFromUsdAmountRatio args usdAmountFromInvoice
    | none =>
      match receivedWalletInvoiceFromBtcAmountDealer args hedgeBuyUsd with
      | .error .invalidZeroAmountPriceRatioInput =>
        receivedWalletInvoiceFromBtcAmountMid args mid (some args.recipientWalletDescriptors.BTC)
      | received => received

/-- `usdFromBtcMidPriceFn`: the amount at the ratio `getMidPriceRatio`
    returned. -/
def usdFromBtcMidPriceFn (midPriceRatio : Except E WalletPriceRatio) (amount : BtcPaymentAmount) :
    Except E UsdPaymentAmount :=
  match midPriceRatio with
  | .error e => .error e
  | .ok ratio => .ok (ratio.convertFromBtc amount)

-- ============================================================================
-- What a priced receipt holds
-- ============================================================================

/-- A receipt priced at `receivedUsd` and credited to `walletDescriptor`: the
    bank fee is the sats fee, each currency's credit and fee add up to what was
    received, and the fee in cents is the sats fee converted up. -/
structure PricedAt (receivedUsd : UsdPaymentAmount) (walletDescriptor : WalletDescriptor)
    (r : ReceivedWalletInvoice) : Prop where
  recipient : r.recipientWalletDescriptor = walletDescriptor
  btcBankFee_eq : r.btcBankFee = args.satsFee
  btc_add : r.btcToCreditReceiver.amount + r.btcBankFee.amount = args.receivedBtc.amount
  usd_add : r.usdToCreditReceiver.amount + r.usdBankFee.amount = receivedUsd.amount
  usdBankFee_nonneg : 0 ≤ r.usdBankFee.amount
  usdBankFee_pos : 0 < r.btcBankFee.amount → 0 < r.usdBankFee.amount
  usdBankFee_le :
    r.btcBankFee.amount ≤ args.receivedBtc.amount → r.usdBankFee.amount ≤ receivedUsd.amount

variable {args}

/-- `receivedAt` succeeds exactly on a non-zero quote, for a non-zero receipt. -/
theorem receivedAt_isOk_iff {receivedUsd : UsdPaymentAmount} {walletDescriptor : WalletDescriptor}
    (hBtc : args.receivedBtc.amount ≠ 0) :
    (∃ r, receivedAt (E := E) args receivedUsd walletDescriptor = .ok r) ↔
      receivedUsd.amount ≠ 0 := by
  constructor
  · rintro ⟨r, hr⟩ hZero
    simp only [receivedAt, WalletPriceRatio.of, PriceRatio.of, hZero, true_or, dif_pos] at hr
    cases hr
  · intro hUsd
    simp only [receivedAt, WalletPriceRatio.of_eq_ok hUsd hBtc]
    exact ⟨_, rfl⟩

/-- What `receivedAt` returns, on a non-negative quote and fee. -/
theorem pricedAt_of_receivedAt {receivedUsd : UsdPaymentAmount}
    {walletDescriptor : WalletDescriptor} {r : ReceivedWalletInvoice}
    (h : receivedAt (E := E) args receivedUsd walletDescriptor = .ok r)
    (hUsd : 0 ≤ receivedUsd.amount) (hBtc : 0 < args.receivedBtc.amount)
    (hFee : 0 ≤ args.satsFee.amount) : PricedAt args receivedUsd walletDescriptor r := by
  unfold receivedAt at h
  split at h
  · cases h
  · rename_i ratio hRatio
    cases h
    have hOk := WalletPriceRatio.of_ok hRatio
    -- the ratio exists, so the quote is not zero
    have hUsdPos : 0 < receivedUsd.amount := by
      have hNe := ratio.priceRatio.other_ne_zero
      rw [hOk.1] at hNe
      omega
    obtain ⟨hNonneg, hPos, hLe⟩ :=
      WalletPriceRatio.convertFromBtcToCeil_bounds hOk hUsdPos hBtc hFee
    exact ⟨rfl, rfl, by simp [sub], by simp [sub], hNonneg, hPos, hLe⟩

-- ============================================================================
-- Where a receipt goes
-- ============================================================================

variable (args) in
/-- How `withConversion` priced a receipt, and which wallet it credits. -/
inductive Route (hedgeBuyUsd mid : BtcPaymentAmount → Except E UsdPaymentAmount) :
    UsdPaymentAmount → WalletDescriptor → Prop where
  /-- a BTC wallet, at the mid price -/
  | btcMid {receivedUsd : UsdPaymentAmount}
      (hBtc : args.partialWalletDescriptor.currency = .Btc)
      (hMid : mid args.receivedBtc = .ok receivedUsd) :
      Route hedgeBuyUsd mid receivedUsd (recipientWalletDescriptor args)
  /-- a USD invoice with an amount, at its own cents -/
  | invoiceUsd {receivedUsd : UsdPaymentAmount}
      (hUsd : args.partialWalletDescriptor.currency ≠ .Btc)
      (hInvoice : args.usdAmountFromInvoice = some receivedUsd) :
      Route hedgeBuyUsd mid receivedUsd (recipientWalletDescriptor args)
  /-- a USD invoice without an amount, at the dealer's quote -/
  | dealer {receivedUsd : UsdPaymentAmount}
      (hUsd : args.partialWalletDescriptor.currency ≠ .Btc)
      (hNone : args.usdAmountFromInvoice = none)
      (hDealer : hedgeBuyUsd args.receivedBtc = .ok receivedUsd) :
      Route hedgeBuyUsd mid receivedUsd (recipientWalletDescriptor args)
  /-- a USD invoice without an amount whose dealer quote makes no ratio: the
      account's BTC wallet, at the mid price -/
  | fallback {zeroUsd receivedUsd : UsdPaymentAmount}
      (hUsd : args.partialWalletDescriptor.currency ≠ .Btc)
      (hNone : args.usdAmountFromInvoice = none)
      (hDealer : hedgeBuyUsd args.receivedBtc = .ok zeroUsd)
      (hZero : zeroUsd.amount = 0 ∨ args.receivedBtc.amount = 0)
      (hMid : mid args.receivedBtc = .ok receivedUsd) :
      Route hedgeBuyUsd mid receivedUsd args.recipientWalletDescriptors.BTC

/-- A quote whose ratio fails leaves only the zero-amount error. -/
theorem receivedAt_eq_error {receivedUsd : UsdPaymentAmount} {walletDescriptor : WalletDescriptor}
    {err : WalletInvoiceReceiverError E}
    (h : receivedAt (E := E) args receivedUsd walletDescriptor = .error err) :
    err = .invalidZeroAmountPriceRatioInput ∧
      (receivedUsd.amount = 0 ∨ args.receivedBtc.amount = 0) := by
  unfold receivedAt at h
  split at h
  · rename_i hRatio
    cases h
    refine ⟨rfl, ?_⟩
    by_contra hNe
    rw [not_or] at hNe
    rw [WalletPriceRatio.of_eq_ok hNe.1 hNe.2] at hRatio
    cases hRatio
  · cases h

/-- Every receipt `withConversion` prices follows one of the four routes. -/
theorem withConversion_eq_ok {hedgeBuyUsd mid : BtcPaymentAmount → Except E UsdPaymentAmount}
    {r : ReceivedWalletInvoice} (h : withConversion args hedgeBuyUsd mid = .ok r) :
    ∃ receivedUsd walletDescriptor, Route args hedgeBuyUsd mid receivedUsd walletDescriptor ∧
      receivedAt (E := E) args receivedUsd walletDescriptor = .ok r := by
  -- the mid price's two callers: the BTC wallet and the fallback
  have hMidOk : ∀ {newRecipient : Option WalletDescriptor},
      receivedWalletInvoiceFromBtcAmountMid args mid newRecipient = .ok r →
      ∃ receivedUsd, mid args.receivedBtc = .ok receivedUsd ∧
        receivedAt (E := E) args receivedUsd (newRecipient.getD (recipientWalletDescriptor args)) =
          .ok r := by
    intro newRecipient hr
    unfold receivedWalletInvoiceFromBtcAmountMid at hr
    split at hr
    · cases hr
    · exact ⟨_, ‹_›, hr⟩
  unfold withConversion at h
  split at h
  · rename_i hBtc
    obtain ⟨receivedUsd, hMid, hr⟩ := hMidOk h
    exact ⟨_, _, .btcMid hBtc hMid, hr⟩
  · rename_i hUsd
    split at h
    · rename_i receivedUsd hInvoice
      exact ⟨_, _, .invoiceUsd hUsd hInvoice, h⟩
    · rename_i hNone
      split at h
      · -- the dealer's quote made no ratio
        rename_i hDealerErr
        obtain ⟨receivedUsd, hMid, hr⟩ := hMidOk h
        unfold receivedWalletInvoiceFromBtcAmountDealer at hDealerErr
        split at hDealerErr
        · cases hDealerErr
        · rename_i zeroUsd hDealer
          obtain ⟨-, hZero⟩ := receivedAt_eq_error hDealerErr
          exact ⟨_, _, .fallback hUsd hNone hDealer hZero hMid, hr⟩
      · unfold receivedWalletInvoiceFromBtcAmountDealer at h
        split at h
        · cases h
        · rename_i receivedUsd hDealer
          exact ⟨_, _, .dealer hUsd hNone hDealer, h⟩

/-- Each route prices at a quote some price service gave, or the invoice's own
    cents. -/
theorem Route.quote_nonneg {hedgeBuyUsd mid : BtcPaymentAmount → Except E UsdPaymentAmount}
    {receivedUsd : UsdPaymentAmount} {walletDescriptor : WalletDescriptor}
    (hRoute : Route args hedgeBuyUsd mid receivedUsd walletDescriptor)
    (hQuotes : ∀ receivedUsd, (hedgeBuyUsd args.receivedBtc = .ok receivedUsd ∨
      mid args.receivedBtc = .ok receivedUsd ∨ args.usdAmountFromInvoice = some receivedUsd) →
      0 ≤ receivedUsd.amount) :
    0 ≤ receivedUsd.amount := by
  cases hRoute with
  | btcMid _ hMid => exact hQuotes _ (.inr (.inl hMid))
  | invoiceUsd _ hInvoice => exact hQuotes _ (.inr (.inr hInvoice))
  | dealer _ _ hDealer => exact hQuotes _ (.inl hDealer)
  | fallback _ _ _ _ hMid => exact hQuotes _ (.inr (.inl hMid))

/-- Only the fallback leaves the invoice's wallet, for the account's BTC wallet,
    and only from a USD invoice without an amount. -/
theorem Route.recipient {hedgeBuyUsd mid : BtcPaymentAmount → Except E UsdPaymentAmount}
    {receivedUsd : UsdPaymentAmount} {walletDescriptor : WalletDescriptor}
    (hRoute : Route args hedgeBuyUsd mid receivedUsd walletDescriptor) :
    walletDescriptor = recipientWalletDescriptor args ∨
      (args.partialWalletDescriptor.currency = .Usd ∧ args.usdAmountFromInvoice = none ∧
        walletDescriptor = args.recipientWalletDescriptors.BTC) := by
  cases hRoute with
  | btcMid => exact .inl rfl
  | invoiceUsd => exact .inl rfl
  | dealer => exact .inl rfl
  | fallback hUsdWallet hNone =>
    refine .inr ⟨?_, hNone, rfl⟩
    cases hCur : args.partialWalletDescriptor.currency
    · exact absurd hCur hUsdWallet
    · rfl

-- ============================================================================
-- No receipt is refused on a zero amount
-- ============================================================================

/-- With the mid price at a positive ratio, a dealer that answers, and an
    invoice whose cents, if any, are not zero, `withConversion` prices every
    positive receipt: a zero-cent dealer quote falls back to the BTC wallet,
    where the mid price is at least one cent. -/
theorem withConversion_ok_of_midPriceRatio {ratio : WalletPriceRatio}
    (hOther : 0 < ratio.priceRatio.other) (hWallet : 0 < ratio.priceRatio.walletAmount.amount)
    {hedgeBuyUsd : BtcPaymentAmount → Except E UsdPaymentAmount} {dealerUsd : UsdPaymentAmount}
    (hDealer : hedgeBuyUsd args.receivedBtc = .ok dealerUsd)
    (hInvoice : ∀ usd, args.usdAmountFromInvoice = some usd → usd.amount ≠ 0)
    (hBtc : 0 < args.receivedBtc.amount) :
    ∃ r, withConversion args hedgeBuyUsd (usdFromBtcMidPriceFn (.ok ratio)) = .ok r := by
  -- the mid price of a positive receipt is not zero
  have hMid : ∀ newRecipient, ∃ r, receivedWalletInvoiceFromBtcAmountMid args
      (usdFromBtcMidPriceFn (E := E) (.ok ratio)) newRecipient = .ok r := by
    intro newRecipient
    have hPos := WalletPriceRatio.convertFromBtc_pos hOther hWallet hBtc
    exact (receivedAt_isOk_iff hBtc.ne').mpr hPos.ne'
  unfold withConversion
  split
  · exact hMid none
  · split
    · rename_i usd hSome
      exact (receivedAt_isOk_iff hBtc.ne').mpr (hInvoice usd hSome)
    · unfold receivedWalletInvoiceFromBtcAmountDealer
      rw [hDealer]
      by_cases hZero : dealerUsd.amount = 0
      · -- the dealer's zero quote makes no ratio
        have hErr : receivedAt (E := E) args dealerUsd (recipientWalletDescriptor args) =
            .error .invalidZeroAmountPriceRatioInput := by
          simp only [receivedAt, WalletPriceRatio.of, PriceRatio.of, hZero, true_or, dif_pos]
        simp only [hErr]
        exact hMid _
      · have hOk : ∃ r, receivedAt (E := E) args dealerUsd (recipientWalletDescriptor args) =
            .ok r := (receivedAt_isOk_iff hBtc.ne').mpr hZero
        obtain ⟨r, hr⟩ := hOk
        simp only [hr]
        exact ⟨r, rfl⟩

/-- A paid invoice that the builder registered, without an amount or with a
    non-zero one, is priced whenever the mid price is a positive ratio and the
    dealer answers: the builder never stores zero cents, so no receipt is
    refused for a zero amount. -/
theorem builtInvoice_receipt_priced {E' : Type} {recipientCurrency : WalletCurrency}
    {dealerBtcFromUsd : UsdPaymentAmount → Except E' BtcPaymentAmount}
    {dealerUsdFromBtc : BtcPaymentAmount → Except E' UsdPaymentAmount} {amounts : WIBAmounts}
    (hBuilt : amounts = WIBWithExpiration.withoutAmount ∨
      ∃ (c : WalletCurrency) (amount : PaymentAmount c), amount.amount ≠ 0 ∧
        WIBWithExpiration.withAmount recipientCurrency dealerBtcFromUsd dealerUsdFromBtc amount =
          .ok amounts)
    (hInvoice : args.usdAmountFromInvoice = amounts.usdAmount) {ratio : WalletPriceRatio}
    (hOther : 0 < ratio.priceRatio.other) (hWallet : 0 < ratio.priceRatio.walletAmount.amount)
    {hedgeBuyUsd : BtcPaymentAmount → Except E UsdPaymentAmount} {dealerUsd : UsdPaymentAmount}
    (hDealer : hedgeBuyUsd args.receivedBtc = .ok dealerUsd) (hBtc : 0 < args.receivedBtc.amount) :
    ∃ r, withConversion args hedgeBuyUsd (usdFromBtcMidPriceFn (.ok ratio)) = .ok r := by
  have hCents : ∀ usd, args.usdAmountFromInvoice = some usd → usd.amount ≠ 0 := by
    rw [hInvoice]
    rcases hBuilt with rfl | ⟨c, amount, hAmount, hWith⟩
    · intro usd hUsd
      cases hUsd
    · exact WIBWithExpiration.withAmount_usdAmount_ne_zero hAmount hWith
  exact withConversion_ok_of_midPriceRatio hOther hWallet hDealer hCents hBtc

/-- A USD wallet's invoice without an amount, paid 1000 sats with a 10 sat
    fee. -/
def noAmountUsdInvoiceReceipt : WalletInvoiceReceiverArgs where
  partialWalletDescriptor := ⟨"usd-wallet", .Usd⟩
  usdAmountFromInvoice := none
  recipientWalletDescriptors :=
    ⟨⟨"btc-wallet", .Btc, "account"⟩, ⟨"usd-wallet", .Usd, "account"⟩⟩
  receivedBtc := ⟨1000⟩
  satsFee := ⟨10⟩

/-- The dealer quotes zero cents for it, and the mid price of 50 cents per
    1000 sats still prices it. -/
theorem noAmountInvoice_priced_at_zeroDealerQuote :
    ∃ r, withConversion (E := String) noAmountUsdInvoiceReceipt (fun _ => .ok ⟨0⟩)
      (usdFromBtcMidPriceFn (.ok ⟨⟨50, ⟨1000⟩, by decide, by decide⟩⟩)) = .ok r := by
  have hBuilt : WIBWithExpiration.withoutAmount = WIBWithExpiration.withoutAmount ∨
      ∃ (c : WalletCurrency) (amount : PaymentAmount c), amount.amount ≠ 0 ∧
        WIBWithExpiration.withAmount (E := String) .Usd (fun _ => .ok ⟨0⟩)
          (fun _ => .ok ⟨0⟩) amount = .ok WIBWithExpiration.withoutAmount := .inl rfl
  exact builtInvoice_receipt_priced hBuilt rfl (by decide) (by decide) rfl (by decide)

end WalletInvoiceReceiver

-- ============================================================================
-- Recording the receipt
-- ============================================================================

/-- `RecordReceiveArgs`, without the entry's description and the `txMetadata`
    that `persistAndReturnEntry` saves beside the journal. -/
structure RecordReceiveArgs where
  recipientWalletDescriptor : WalletDescriptor
  amountToCreditReceiver : PaymentAmountInAllCurrencies
  bankFee : Option PaymentAmountInAllCurrencies
  externalId : Option String
  metadata : TxMetadata
  additionalCreditMetadata : TxMetadata
  additionalInternalMetadata : TxMetadata

section Recording

variable {Entry : Type} (ops : MediciEntryOps Entry)

/-- `recordReceiveOffChain`: the entry it hands to `persistAndReturnEntry`. -/
def recordReceiveOffChain (accountIds : StaticAccountIds) (entry : Entry)
    (receiveArgs : RecordReceiveArgs) : Entry :=
  -- `bankFee || {...}`: only an absent fee defaults
  let actualFee := receiveArgs.bankFee.getD ⟨ZERO_SATS, ZERO_CENTS⟩
  let builder : EntryBuilderConfig Entry :=
    { staticAccountIds := accountIds
      externalId := receiveArgs.externalId
      entry
      metadata := receiveArgs.metadata
      additionalInternalMetadata := receiveArgs.additionalInternalMetadata }
  let usdWithFees := add receiveArgs.amountToCreditReceiver.usd actualFee.usd
  let btcWithFees := add receiveArgs.amountToCreditReceiver.btc actualFee.btc
  EntryBuilderCredit.creditAccount ops
    (EntryBuilderDebit.debitOffChain ops
      (EntryBuilderFee.withBankFee ops
        (EntryBuilder.withTotalAmount builder usdWithFees btcWithFees) actualFee.btc actualFee.usd))
    (toLedgerAccountDescriptor receiveArgs.recipientWalletDescriptor)
    (some receiveArgs.additionalCreditMetadata)

/-- The arguments `lockedUpdatePendingInvoiceSteps` passes for a priced
    receipt. -/
def lnReceiveRecordArgs (r : ReceivedWalletInvoice) (externalId : Option String)
    (metadata additionalCreditMetadata additionalInternalMetadata : TxMetadata) :
    RecordReceiveArgs where
  recipientWalletDescriptor := r.recipientWalletDescriptor
  amountToCreditReceiver := ⟨r.btcToCreditReceiver, r.usdToCreditReceiver⟩
  bankFee := some ⟨r.btcBankFee, r.usdBankFee⟩
  externalId
  metadata
  additionalCreditMetadata
  additionalInternalMetadata

/-- The journal of a receipt is the legs of one builder chain: the Lightning
    asset debited, the recipient credited. -/
theorem transactions_recordReceiveOffChain (hops : ops.Lawful) (accountIds : StaticAccountIds)
    (entry : Entry) (hfresh : ops.transactions entry = []) (receiveArgs : RecordReceiveArgs) :
    let actualFee := receiveArgs.bankFee.getD ⟨ZERO_SATS, ZERO_CENTS⟩
    ops.transactions (recordReceiveOffChain ops accountIds entry receiveArgs) =
      (entryLegs ⟨accountIds, receiveArgs.externalId, entry, receiveArgs.metadata,
          receiveArgs.additionalInternalMetadata⟩
        (add receiveArgs.amountToCreditReceiver.usd actualFee.usd)
        (add receiveArgs.amountToCreditReceiver.btc actualFee.btc) actualFee.btc actualFee.usd
        (lndLedgerAccountDescriptor, some receiveArgs.additionalInternalMetadata)
        (toLedgerAccountDescriptor receiveArgs.recipientWalletDescriptor,
          some receiveArgs.additionalCreditMetadata)).filter Journal.nonZero := by
  intro actualFee
  rw [show recordReceiveOffChain ops accountIds entry receiveArgs =
      (CreditMethod.creditAccount (toLedgerAccountDescriptor receiveArgs.recipientWalletDescriptor)
        (some receiveArgs.additionalCreditMetadata)).call ops
        (DebitMethod.debitOffChain.call ops _) from rfl,
    transactions_chain ops hops]
  simp only [hfresh, List.nil_append]
  rfl

open WalletInvoiceReceiver

variable {E : Type} {args : WalletInvoiceReceiverArgs}

open Journal in
/-- The legs of a receipt of sats: the BTC debit of the receipt with its fee,
    the bank fee, and the credit net of the fee.  They balance when a positive
    sats fee has a positive price. -/
theorem receiptLegs_totals (config : EntryBuilderConfig Entry)
    {btcToCredit btcBankFee : BtcPaymentAmount} {usdToCredit usdBankFee : UsdPaymentAmount}
    (debitTarget creditTarget : LedgerAccountDescriptor × Option TxMetadata)
    (hDebit : debitTarget.1.currency = .Btc) (hFee : 0 ≤ btcBankFee.amount)
    (hUsdFee : 0 ≤ usdBankFee.amount) (hPos : 0 < btcBankFee.amount → 0 < usdBankFee.amount)
    (hbankDealer : config.staticAccountIds.bankOwnerAccountId ≠
      config.staticAccountIds.dealerBtcAccountId)
    (hbank : creditTarget.1.id ≠ config.staticAccountIds.bankOwnerAccountId)
    (hdealer : creditTarget.1.id ≠ config.staticAccountIds.dealerUsdAccountId) :
    let legs := (entryLegs config (add usdToCredit usdBankFee) (add btcToCredit btcBankFee)
      btcBankFee usdBankFee debitTarget creditTarget).filter nonZero
    Balanced legs ∧
      total (atAccount debitTarget.1.id .Btc) (·.debit) legs =
        ((btcToCredit.amount + btcBankFee.amount : ℤ) : ℚ) ∧
      total (atAccount creditTarget.1.id creditTarget.1.currency) (·.credit) legs =
        amountIn creditTarget.1.currency btcToCredit usdToCredit ∧
      total (atAccount config.staticAccountIds.bankOwnerAccountId .Btc) (·.credit) legs =
        btcBankFee.amount := by
  intro legs
  refine ⟨fun cur => ?_, ?_, ?_, ?_⟩
  · rw [total_filter_nonZero_debit, total_filter_nonZero_credit]
    refine entryLegs_balanced _ _ _ _ _ _ _ hFee hUsdFee (fun hZero => ?_) cur
    -- a positive sats fee has a positive price
    by_contra hNe
    have := hPos (lt_of_le_of_ne hFee (Ne.symm hNe))
    omega
  · have hTotal := entryLegs_debitAccount_total config (add usdToCredit usdBankFee)
      (add btcToCredit btcBankFee) btcBankFee usdBankFee debitTarget creditTarget
    rw [hDebit] at hTotal
    rw [total_filter_nonZero_debit, hTotal]
    simp only [amountIn_btc, add]
  · rw [total_filter_nonZero_credit, entryLegs_creditAccount_total _ _ _ _ _ _ _ hbank hdealer]
    cases creditTarget.1.currency <;> simp [add]
  · rw [total_filter_nonZero_credit,
      entryLegs_bankOwner_total _ _ _ _ _ _ _ hFee hbank hbankDealer]

open Journal in
/-- The journal of a receipt priced at any quote: balanced, the Lightning
    asset debited every sat received, the bank owner credited the sats fee, and
    the recipient credited the receipt net of the fee, never a negative amount. -/
theorem lnReceiveJournal_of_pricedAt (hops : ops.Lawful) {accountIds : StaticAccountIds}
    {entry : Entry} (hfresh : ops.transactions entry = [])
    {receivedUsd : UsdPaymentAmount} {walletDescriptor : WalletDescriptor}
    {r : ReceivedWalletInvoice} (hPriced : PricedAt args receivedUsd walletDescriptor r)
    (hFee : 0 ≤ args.satsFee.amount ∧ args.satsFee.amount ≤ args.receivedBtc.amount)
    (hbankDealer : accountIds.bankOwnerAccountId ≠ accountIds.dealerBtcAccountId)
    (hbank : toLedgerAccountId r.recipientWalletDescriptor.id ≠ accountIds.bankOwnerAccountId)
    (hdealer : toLedgerAccountId r.recipientWalletDescriptor.id ≠ accountIds.dealerUsdAccountId)
    (externalId : Option String)
    (metadata additionalCreditMetadata additionalInternalMetadata : TxMetadata) :
    let txns := ops.transactions (recordReceiveOffChain ops accountIds entry
      (lnReceiveRecordArgs r externalId metadata additionalCreditMetadata
        additionalInternalMetadata))
    let credited := r.recipientWalletDescriptor
    Balanced txns ∧
      total (atAccount lndLedgerAccountId .Btc) (·.debit) txns = args.receivedBtc.amount ∧
      total (atAccount (toLedgerAccountId credited.id) credited.currency) (·.credit) txns =
        amountIn credited.currency r.btcToCreditReceiver r.usdToCreditReceiver ∧
      0 ≤ amountIn credited.currency r.btcToCreditReceiver r.usdToCreditReceiver ∧
      total (atAccount accountIds.bankOwnerAccountId .Btc) (·.credit) txns =
        args.satsFee.amount := by
  intro txns credited
  obtain ⟨-, hBankFee, hBtcAdd, hUsdAdd, hNonneg, hPos, hLe⟩ := hPriced
  have hTxns := transactions_recordReceiveOffChain ops hops accountIds entry hfresh
    (lnReceiveRecordArgs r externalId metadata additionalCreditMetadata additionalInternalMetadata)
  simp only [lnReceiveRecordArgs, Option.getD_some] at hTxns
  change txns = _ at hTxns
  have hFeeBtc : 0 ≤ r.btcBankFee.amount := hBankFee ▸ hFee.1
  obtain ⟨hBalanced, hLnd, hCredit, hBank⟩ := receiptLegs_totals
    ⟨accountIds, externalId, entry, metadata, additionalInternalMetadata⟩
    (lndLedgerAccountDescriptor, _) (toLedgerAccountDescriptor credited, _) rfl hFeeBtc hNonneg
    hPos hbankDealer hbank hdealer
  rw [← hTxns] at hBalanced hLnd hCredit hBank
  refine ⟨hBalanced, ?_, hCredit, ?_, ?_⟩
  · rw [show lndLedgerAccountId = lndLedgerAccountDescriptor.id from rfl, hLnd, hBtcAdd]
  · -- the fee is within the receipt in either currency
    have hBtcFeeLe : r.btcBankFee.amount ≤ args.receivedBtc.amount := hBankFee ▸ hFee.2
    have := hLe hBtcFeeLe
    cases credited.currency <;> simp only [amountIn_btc, amountIn_usd] <;> omega
  · rw [hBank, hBankFee]

open Journal in
/-- The journal of a paid invoice's receipt balances, debits the Lightning
    asset account every sat received, credits the bank owner the sats fee, and
    credits one wallet of the account the receipt net of the bank fee, never
    less than zero: the invoice's own wallet, or the account's BTC wallet when a
    USD invoice without an amount got a dealer quote that makes no price
    ratio. -/
theorem lnReceive_journal_credits_recipient (hops : ops.Lawful) {accountIds : StaticAccountIds}
    {entry : Entry} (hfresh : ops.transactions entry = [])
    {hedgeBuyUsd mid : BtcPaymentAmount → Except E UsdPaymentAmount}
    (hBtc : 0 < args.receivedBtc.amount)
    (hFee : 0 ≤ args.satsFee.amount ∧ args.satsFee.amount ≤ args.receivedBtc.amount)
    (hQuotes : ∀ receivedUsd, (hedgeBuyUsd args.receivedBtc = .ok receivedUsd ∨
      mid args.receivedBtc = .ok receivedUsd ∨ args.usdAmountFromInvoice = some receivedUsd) →
      0 ≤ receivedUsd.amount)
    {r : ReceivedWalletInvoice} (hr : withConversion args hedgeBuyUsd mid = .ok r)
    (hbankDealer : accountIds.bankOwnerAccountId ≠ accountIds.dealerBtcAccountId)
    (hbank : toLedgerAccountId r.recipientWalletDescriptor.id ≠ accountIds.bankOwnerAccountId)
    (hdealer : toLedgerAccountId r.recipientWalletDescriptor.id ≠ accountIds.dealerUsdAccountId)
    (externalId : Option String)
    (metadata additionalCreditMetadata additionalInternalMetadata : TxMetadata) :
    let txns := ops.transactions (recordReceiveOffChain ops accountIds entry
      (lnReceiveRecordArgs r externalId metadata additionalCreditMetadata
        additionalInternalMetadata))
    let credited := r.recipientWalletDescriptor
    Balanced txns ∧
      total (atAccount lndLedgerAccountId .Btc) (·.debit) txns = args.receivedBtc.amount ∧
      total (atAccount (toLedgerAccountId credited.id) credited.currency) (·.credit) txns =
        amountIn credited.currency r.btcToCreditReceiver r.usdToCreditReceiver ∧
      0 ≤ amountIn credited.currency r.btcToCreditReceiver r.usdToCreditReceiver ∧
      total (atAccount accountIds.bankOwnerAccountId .Btc) (·.credit) txns =
        args.satsFee.amount ∧
      (credited = recipientWalletDescriptor args ∨
        (args.partialWalletDescriptor.currency = .Usd ∧ args.usdAmountFromInvoice = none ∧
          credited = args.recipientWalletDescriptors.BTC)) := by
  intro txns credited
  -- the route the receipt took fixes its quote and its wallet
  obtain ⟨receivedUsd, walletDescriptor, hRoute, hAt⟩ := withConversion_eq_ok hr
  have hPriced := pricedAt_of_receivedAt hAt (hRoute.quote_nonneg hQuotes) hBtc hFee.1
  obtain ⟨hBalanced, hLnd, hCredit, hNonneg, hBank⟩ := lnReceiveJournal_of_pricedAt ops hops
    hfresh hPriced hFee hbankDealer hbank hdealer externalId metadata additionalCreditMetadata
    additionalInternalMetadata
  refine ⟨hBalanced, hLnd, hCredit, hNonneg, hBank, ?_⟩
  have hRecipient : credited = walletDescriptor := hPriced.recipient
  rw [hRecipient]
  exact hRoute.recipient

/-- The dealer quotes it zero cents: at the mid price of 50 cents the receipt
    goes to the BTC wallet, 990 sats, and the bank owner takes the 10 sat fee. -/
theorem zeroDealerQuote_credits_btcWallet :
    let r : ReceivedWalletInvoice :=
      ⟨⟨990⟩, ⟨49⟩, ⟨1⟩, ⟨10⟩, ⟨"btc-wallet", .Btc, "account"⟩⟩
    let txns := MediciEntryOps.ofList.transactions (recordReceiveOffChain MediciEntryOps.ofList
      ⟨"bankOwner", "dealerBtc", "dealerUsd"⟩ [] (lnReceiveRecordArgs r none {} {} {}))
    withConversion (E := String) noAmountUsdInvoiceReceipt (fun _ => .ok ⟨0⟩)
        (fun _ => .ok ⟨50⟩) = .ok r ∧
      Journal.Balanced txns ∧
      Journal.total (Journal.atAccount lndLedgerAccountId .Btc) (·.debit) txns = 1000 ∧
      Journal.total (Journal.atAccount (toLedgerAccountId "btc-wallet") .Btc) (·.credit) txns =
        990 ∧
      Journal.total (Journal.atAccount "bankOwner" .Btc) (·.credit) txns = 10 := by
  intro r txns
  have hr : withConversion (E := String) noAmountUsdInvoiceReceipt (fun _ => .ok ⟨0⟩)
      (fun _ => .ok ⟨50⟩) = .ok r := by decide
  have hQuotes : ∀ receivedUsd : UsdPaymentAmount,
      ((fun _ => .ok ⟨0⟩ : BtcPaymentAmount → Except String UsdPaymentAmount)
          noAmountUsdInvoiceReceipt.receivedBtc = .ok receivedUsd ∨
        (fun _ => .ok ⟨50⟩ : BtcPaymentAmount → Except String UsdPaymentAmount)
          noAmountUsdInvoiceReceipt.receivedBtc = .ok receivedUsd ∨
        noAmountUsdInvoiceReceipt.usdAmountFromInvoice = some receivedUsd) →
      0 ≤ receivedUsd.amount := by
    rintro receivedUsd (hDealer | hMid | hInvoice)
    · cases hDealer
      decide
    · cases hMid
      decide
    · cases hInvoice
  have hIds : StaticAccountIds.bankOwnerAccountId ⟨"bankOwner", "dealerBtc", "dealerUsd"⟩ ≠
      StaticAccountIds.dealerBtcAccountId ⟨"bankOwner", "dealerBtc", "dealerUsd"⟩ := by decide
  obtain ⟨hBalanced, hLnd, hCredit, -, hBank, -⟩ :=
    lnReceive_journal_credits_recipient MediciEntryOps.ofList MediciEntryOps.ofList_lawful rfl
      (by decide) (by decide) hQuotes hr hIds (by decide) (by decide) none {} {} {}
  refine ⟨hr, hBalanced, ?_, ?_, ?_⟩
  · rw [hLnd]
    rfl
  · rw [hCredit]
    rfl
  · rw [hBank]
    rfl

end Recording

end Galoy
