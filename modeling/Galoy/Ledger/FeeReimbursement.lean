/-
  Galoy.Ledger.FeeReimbursement

  The refund of the unspent part of a prepaid Lightning fee
  (`domain/ledger/fee-reimbursement.ts`, as `app/payments/reimburse-fee.ts`
  calls it with the flow's own fees and ratio).

  The sender prepaid the flow's protocol and bank fee in both currencies.  Once
  the payment settles with its actual routing fee, the difference in sats is
  refunded, together with its value in cents at the flow's ratio: rounded to
  the nearest cent when nothing was spent, rounded down otherwise.

  For a flow that `LightningPaymentFlowBuilder` built, at or below sat-cent
  parity, the refund is never more than the prepaid USD fee and never worth
  more than the unspent sats.  What the sender keeps paying covers the spent
  sats when the USD fee is the BTC fee rounded up (every flow with a route, and
  every flow whose amount was given in sats); when the BTC fee was converted
  from a USD fee, rounding may have given the bank half a sat too few, and the
  cents kept can fall short of the spent sats by that much.
-/

import Galoy.Payments.FlowBuilderSpec

namespace Galoy

open Rounding

/-- `FeeDifferenceError`. -/
structure FeeDifferenceError where
  deriving DecidableEq, Repr

namespace FeeReimbursement

/-- `FeeReimbursement({ prepaidFeeAmount, priceRatio }).getReimbursement(actualFee)`. -/
def getReimbursement (prepaidFeeAmount : PaymentAmountInAllCurrencies)
    (priceRatio : WalletPriceRatio) (actualFee : BtcPaymentAmount) :
    Except FeeDifferenceError PaymentAmountInAllCurrencies :=
  let feeDifferenceBtc := prepaidFeeAmount.btc.amount - actualFee.amount
  if feeDifferenceBtc < 0 then .error ⟨⟩
  else
    let feeDifferenceBtcAmount : BtcPaymentAmount := ⟨feeDifferenceBtc⟩
    let feeDifferenceUsdAmount :=
      if actualFee.amount = 0 then priceRatio.convertFromBtc feeDifferenceBtcAmount
      else priceRatio.convertFromBtcToFloor feeDifferenceBtcAmount
    .ok ⟨feeDifferenceBtcAmount, feeDifferenceUsdAmount⟩

variable {prepaidFeeAmount : PaymentAmountInAllCurrencies} {priceRatio : WalletPriceRatio}
  {actualFee : BtcPaymentAmount}

/-- A routing fee above the prepaid one is an error. -/
theorem getReimbursement_eq_error (h : prepaidFeeAmount.btc.amount < actualFee.amount) :
    getReimbursement prepaidFeeAmount priceRatio actualFee = .error ⟨⟩ := by
  have hNeg : prepaidFeeAmount.btc.amount - actualFee.amount < 0 := by omega
  simp only [getReimbursement, hNeg, if_true]

/-- Within the prepaid fee, the difference in sats and its rounded value. -/
theorem getReimbursement_eq_ok (h : actualFee.amount ≤ prepaidFeeAmount.btc.amount) :
    getReimbursement prepaidFeeAmount priceRatio actualFee =
      .ok ⟨⟨prepaidFeeAmount.btc.amount - actualFee.amount⟩,
        if actualFee.amount = 0 then
          priceRatio.convertFromBtc ⟨prepaidFeeAmount.btc.amount - actualFee.amount⟩
        else priceRatio.convertFromBtcToFloor ⟨prepaidFeeAmount.btc.amount - actualFee.amount⟩⟩ := by
  have hNonneg : ¬ prepaidFeeAmount.btc.amount - actualFee.amount < 0 := by omega
  simp only [getReimbursement, hNonneg, if_false]

-- ============================================================================
-- The refund against the exact value of the unspent sats
-- ============================================================================

/-- The cents refunded for `actualFee` sats spent of `btcFee`, at `usdPerSat`
    cents a sat: the unspent sats' value to the nearest cent when nothing was
    spent, rounded down otherwise. -/
def refundUsd (btcFee actualFee : ℤ) (usdPerSat : ℚ) : ℤ :=
  if actualFee = 0 then roundHalfDownPos ((btcFee - actualFee) * usdPerSat)
  else ⌊(btcFee - actualFee) * usdPerSat⌋

/-- What a refund of a fee prepaid as `btcFee` sats and `usdFee` cents
    guarantees once `actualFee` sats were spent, at `usdPerSat` cents a sat. -/
structure RefundBounded (btcFee usdFee actualFee : ℤ) (usdPerSat : ℚ) (refund : ℤ) : Prop where
  nonneg : 0 ≤ refund
  le_prepaid : refund ≤ usdFee
  le_unspent : 0 < actualFee → (refund : ℚ) ≤ (btcFee - actualFee) * usdPerSat
  kept : 0 < actualFee → (actualFee - 1 / 2) * usdPerSat ≤ usdFee - refund

theorem getReimbursement_usd (hUsd : 0 < priceRatio.priceRatio.other)
    (hBtc : 0 < priceRatio.priceRatio.walletAmount.amount)
    (h : actualFee.amount ≤ prepaidFeeAmount.btc.amount) :
    getReimbursement prepaidFeeAmount priceRatio actualFee =
      .ok ⟨⟨prepaidFeeAmount.btc.amount - actualFee.amount⟩,
        ⟨refundUsd prepaidFeeAmount.btc.amount actualFee.amount priceRatio.usdPerSat⟩⟩ := by
  have hUnspent : 0 ≤ prepaidFeeAmount.btc.amount - actualFee.amount := by omega
  rw [getReimbursement_eq_ok h]
  unfold refundUsd
  split_ifs with hZero
  · have hConvert := @WalletPriceRatio.convertFromBtc_eq priceRatio hUsd hBtc ⟨_⟩ hUnspent
    push_cast at hConvert
    rw [← hConvert]
  · have hConvert := @WalletPriceRatio.convertFromBtcToFloor_eq priceRatio hUsd hBtc ⟨_⟩ hUnspent
    push_cast at hConvert
    rw [← hConvert]

section Bounds

variable {btcFee usdFee actualFee : ℤ} {usdPerSat : ℚ}

/-- Nothing spent: the refund of a fee whose value is at most half a cent above
    `usdFee` (and at least one cent when positive) is within `usdFee`. -/
theorem refundBounded_of_unspent (hp : 0 < usdPerSat) (hFee : 0 ≤ btcFee)
    (hWithin : roundHalfDownPos (btcFee * usdPerSat) ≤ usdFee) :
    RefundBounded btcFee usdFee 0 usdPerSat (refundUsd btcFee 0 usdPerSat) := by
  have hValue : (0 : ℚ) ≤ btcFee * usdPerSat := mul_nonneg (by exact_mod_cast hFee) hp.le
  simp only [refundUsd, if_true, Int.cast_zero, sub_zero]
  exact ⟨roundHalfDownPos_nonneg hValue, hWithin, fun h => absurd h (lt_irrefl 0),
    fun h => absurd h (lt_irrefl 0)⟩

/-- Something spent: the refund is the floor of the unspent sats' value, so it
    is bounded as soon as the prepaid cents cover the prepaid sats' value less
    half a sat. -/
theorem refundBounded_of_spent (hp : 0 < usdPerSat) (hActual : 0 < actualFee)
    (hle : actualFee ≤ btcFee) (hCover : (btcFee - 1 / 2) * usdPerSat ≤ usdFee) :
    RefundBounded btcFee usdFee actualFee usdPerSat (refundUsd btcFee actualFee usdPerSat) := by
  have hUnspent : (0 : ℚ) ≤ (btcFee - actualFee) * usdPerSat :=
    mul_nonneg (by rw [sub_nonneg]; exact_mod_cast hle) hp.le
  have hOne : (1 : ℚ) ≤ actualFee := by exact_mod_cast hActual
  have hFloor := Int.floor_le (((btcFee : ℚ) - actualFee) * usdPerSat)
  simp only [refundUsd, hActual.ne', if_false]
  refine ⟨Int.floor_nonneg.mpr hUnspent, ?_, fun _ => hFloor, fun _ => ?_⟩
  · -- the refund is below the prepaid cents by at least half a spent sat's value
    have hBelow : ((⌊((btcFee : ℚ) - actualFee) * usdPerSat⌋ : ℤ) : ℚ) < usdFee := by
      nlinarith
    exact_mod_cast hBelow.le
  · nlinarith

/-- A USD fee that is the BTC fee rounded up covers every spent sat in full. -/
theorem kept_of_ceil (hActual : 0 < actualFee) (hCeil : usdFee = ⌈btcFee * usdPerSat⌉) :
    actualFee * usdPerSat ≤ usdFee - refundUsd btcFee actualFee usdPerSat := by
  have hFloor := Int.floor_le (((btcFee : ℚ) - actualFee) * usdPerSat)
  have hCeilLe := Int.le_ceil ((btcFee : ℚ) * usdPerSat)
  simp only [refundUsd, hActual.ne', if_false]
  rw [hCeil]
  nlinarith

/-- Fees tied by rounding the BTC fee up to cents. -/
theorem refundBounded_of_ceil (hp : 0 < usdPerSat) (hActual : 0 ≤ actualFee)
    (hle : actualFee ≤ btcFee) (hCeil : usdFee = ⌈btcFee * usdPerSat⌉) :
    RefundBounded btcFee usdFee actualFee usdPerSat (refundUsd btcFee actualFee usdPerSat) := by
  rcases hActual.lt_or_eq with hSpent | rfl
  · have hCover : (btcFee - 1 / 2) * usdPerSat ≤ usdFee := by
      have hCeilLe := Int.le_ceil ((btcFee : ℚ) * usdPerSat)
      rw [hCeil]
      nlinarith
    exact refundBounded_of_spent hp hSpent hle hCover
  · apply refundBounded_of_unspent hp hle
    rw [hCeil]
    exact roundHalfDownPos_le_ceil _

/-- Fees tied by converting the USD fee to sats, at or below sat-cent parity. -/
theorem refundBounded_of_roundHalfDownPos (hp : 0 < usdPerSat) (hParity : usdPerSat ≤ 1)
    (hActual : 0 ≤ actualFee) (hle : actualFee ≤ btcFee) (hUsdFee : 0 ≤ usdFee)
    (hFee : btcFee = roundHalfDownPos (usdFee / usdPerSat)) :
    RefundBounded btcFee usdFee actualFee usdPerSat (refundUsd btcFee actualFee usdPerSat) := by
  rcases hUsdFee.lt_or_eq with hPos | hZero
  · -- the BTC fee is at most half a sat above the USD fee's value
    have hQuot : (1 : ℚ) ≤ usdFee / usdPerSat := by
      rw [le_div_iff₀ hp]
      have : (1 : ℚ) ≤ usdFee := by exact_mod_cast hPos
      linarith
    have hFeeLe : (btcFee : ℚ) ≤ usdFee / usdPerSat + 1 / 2 := by
      rw [hFee, roundHalfDownPos_of_pos (by linarith)]
      push_cast
      exact max_le (by linarith) (roundHalfDown_le_add_half _)
    have hCover : (btcFee - 1 / 2) * usdPerSat ≤ usdFee := by
      have := mul_le_mul_of_nonneg_right hFeeLe hp.le
      rw [add_mul, div_mul_cancel₀ _ hp.ne'] at this
      linarith
    rcases hActual.lt_or_eq with hSpent | rfl
    · exact refundBounded_of_spent hp hSpent hle hCover
    · -- nothing spent: the whole fee's value is at most half a cent above `usdFee`
      apply refundBounded_of_unspent hp hle
      have hValue : (0 : ℚ) < btcFee * usdPerSat := by
        have : (0 : ℚ) < btcFee := by
          rw [hFee, roundHalfDownPos_of_pos (by linarith)]
          exact_mod_cast lt_max_of_lt_left one_pos
        positivity
      rw [roundHalfDownPos_of_pos hValue]
      refine max_le (by exact_mod_cast hPos) (roundHalfDown_le_of_le ?_)
      linarith
  · -- no USD fee: no BTC fee, nothing to spend
    rw [← hZero, Int.cast_zero, zero_div, roundHalfDownPos_zero] at hFee
    have hNone : actualFee = 0 := by omega
    subst hNone hFee
    apply refundBounded_of_unspent hp le_rfl
    rw [← hZero, Int.cast_zero, zero_mul, roundHalfDownPos_zero]

end Bounds

-- ============================================================================
-- The refund of a built flow's fees
-- ============================================================================

section Flow

variable {config : LightningPaymentFlowBuilderConfig} {invoiceStep : InvoiceStep}
  {senderWallet : WalletDescriptor} {recipientStep : RecipientStep}
  {conversion : WithConversionArgs} {createdAt : ℤ} {routeStep : RouteStep} {flow : PaymentFlow}

/-- For a flow the builder made, at or below sat-cent parity: a routing fee
    above the prepaid one is an error; any other refunds the unspent sats and
    at most the prepaid cents, never more than the unspent sats are worth, and
    leaves the sender paying at least the spent sats' value less half a sat's,
    or their whole value when the USD fee was the BTC fee rounded up. -/
theorem getReimbursement_flow_bounded
    (hInvoice : ∀ invoice a, invoiceStep = .withInvoice invoice → invoice.paymentAmount = some a →
      0 ≤ a.amount)
    (hRecipient : ∀ args u, recipientStep = .withRecipientWallet args →
      args.usdPaymentAmount = some u → 0 < u.amount)
    (hPositive : conversion.Positive)
    (h : buildLightningPaymentFlow config invoiceStep senderWallet recipientStep conversion
      createdAt routeStep = .ok flow)
    (hParity : flow.usdPaymentAmount.amount ≤ flow.btcPaymentAmount.amount) :
    ∃ priceRatio, WalletPriceRatio.of flow.usdPaymentAmount flow.btcPaymentAmount = .ok priceRatio ∧
      ∀ actualFee : BtcPaymentAmount,
        (flow.btcProtocolAndBankFee.amount < actualFee.amount →
          getReimbursement ⟨flow.btcProtocolAndBankFee, flow.usdProtocolAndBankFee⟩ priceRatio
            actualFee = .error ⟨⟩) ∧
        (0 ≤ actualFee.amount → actualFee.amount ≤ flow.btcProtocolAndBankFee.amount →
          ∃ usd : UsdPaymentAmount,
            getReimbursement ⟨flow.btcProtocolAndBankFee, flow.usdProtocolAndBankFee⟩ priceRatio
              actualFee = .ok ⟨⟨flow.btcProtocolAndBankFee.amount - actualFee.amount⟩, usd⟩ ∧
            0 ≤ usd.amount ∧ usd.amount ≤ flow.usdProtocolAndBankFee.amount ∧
            (0 < actualFee.amount →
              (usd.amount : ℚ) ≤ (flow.btcProtocolAndBankFee.amount - actualFee.amount) *
                flow.usdPaymentAmount.amount / flow.btcPaymentAmount.amount ∧
              (actualFee.amount - 1 / 2) * flow.usdPaymentAmount.amount /
                  flow.btcPaymentAmount.amount ≤
                (flow.usdProtocolAndBankFee.amount - usd.amount : ℚ) ∧
              (flow.usdProtocolAndBankFee =
                  priceRatio.convertFromBtcToCeil flow.btcProtocolAndBankFee →
                (actualFee.amount : ℚ) * flow.usdPaymentAmount.amount / flow.btcPaymentAmount.amount ≤
                  flow.usdProtocolAndBankFee.amount - usd.amount))) := by
  obtain ⟨hBtcPos, hUsdPos⟩ := buildLightningPaymentFlow_amounts hInvoice hRecipient hPositive h
  obtain ⟨priceRatio, hRatio⟩ : ∃ priceRatio,
      WalletPriceRatio.of flow.usdPaymentAmount flow.btcPaymentAmount = .ok priceRatio :=
    ⟨_, WalletPriceRatio.of_eq_ok (ne_of_gt hUsdPos) (ne_of_gt hBtcPos)⟩
  have hFees := buildLightningPaymentFlow_fees_tied h hRatio
  obtain ⟨hOther, hWallet⟩ := WalletPriceRatio.of_ok hRatio
  have hUsd : 0 < priceRatio.priceRatio.other := by rw [hOther]; exact hUsdPos
  have hBtc : 0 < priceRatio.priceRatio.walletAmount.amount := by rw [hWallet]; exact hBtcPos
  have hParity' : priceRatio.priceRatio.other ≤ priceRatio.priceRatio.walletAmount.amount := by
    rw [hOther, hWallet]
    exact hParity
  have hp := WalletPriceRatio.usdPerSat_pos hUsd hBtc
  have hPerSat : priceRatio.usdPerSat =
      (flow.usdPaymentAmount.amount : ℚ) / flow.btcPaymentAmount.amount := by
    rw [WalletPriceRatio.usdPerSat, PriceRatio.otherUnitPerWalletUnit, hOther, hWallet]
  refine ⟨priceRatio, hRatio, fun actualFee =>
    ⟨@getReimbursement_eq_error ⟨flow.btcProtocolAndBankFee, flow.usdProtocolAndBankFee⟩ priceRatio
      actualFee, fun hActual hle => ?_⟩⟩
  have hFee : 0 ≤ flow.btcProtocolAndBankFee.amount := hActual.trans hle
  -- a USD fee that is the BTC fee rounded up is the ceiling of its value
  have hCeilOf : flow.usdProtocolAndBankFee = priceRatio.convertFromBtcToCeil flow.btcProtocolAndBankFee →
      flow.usdProtocolAndBankFee.amount =
        ⌈flow.btcProtocolAndBankFee.amount * priceRatio.usdPerSat⌉ := by
    intro hCeil
    rw [hCeil]
    exact WalletPriceRatio.convertFromBtcToCeil_eq hUsd hBtc hFee
  -- the refund is bounded whichever way the builder tied the two fees
  have hBounded : RefundBounded flow.btcProtocolAndBankFee.amount
      flow.usdProtocolAndBankFee.amount actualFee.amount priceRatio.usdPerSat
      (refundUsd flow.btcProtocolAndBankFee.amount actualFee.amount priceRatio.usdPerSat) := by
    rcases hFees with hCeil | hConvert
    · exact refundBounded_of_ceil hp hActual hle (hCeilOf hCeil)
    · -- at or below parity a negative USD fee would convert to a negative BTC fee
      have hUsdFee : 0 ≤ flow.usdProtocolAndBankFee.amount := by
        by_contra hNeg
        have hBtcFeeNeg := PriceRatio.convertFromOther_neg hUsd hBtc hParity' (not_le.mp hNeg)
        rw [hConvert] at hFee
        exact absurd hFee (not_le.mpr hBtcFeeNeg)
      have hFeeEq : flow.btcProtocolAndBankFee.amount =
          roundHalfDownPos (flow.usdProtocolAndBankFee.amount / priceRatio.usdPerSat) := by
        rw [hConvert]
        exact WalletPriceRatio.convertFromUsd_eq hUsd hBtc hUsdFee
      exact refundBounded_of_roundHalfDownPos hp (WalletPriceRatio.usdPerSat_le_one hBtc hParity')
        hActual hle hUsdFee hFeeEq
  refine ⟨⟨refundUsd flow.btcProtocolAndBankFee.amount actualFee.amount priceRatio.usdPerSat⟩,
    getReimbursement_usd hUsd hBtc hle, hBounded.nonneg, hBounded.le_prepaid,
    fun hSpent => ⟨?_, ?_, fun hCeil => ?_⟩⟩
  · rw [mul_div_assoc, ← hPerSat]
    exact hBounded.le_unspent hSpent
  · rw [mul_div_assoc, ← hPerSat]
    exact hBounded.kept hSpent
  · rw [mul_div_assoc, ← hPerSat]
    exact kept_of_ceil hSpent (hCeilOf hCeil)

/-- A price service that quotes 810 cents for any BTC amount and 1350 sats for
    any USD amount: 3 cents for 5 sats. -/
def threeCentsPerFiveSats : ConversionFns where
  usdFromBtc _ := .ok ⟨810⟩
  btcFromUsd _ := .ok ⟨1350⟩

def threeCentsPerFiveSatsConversion : WithConversionArgs :=
  ⟨threeCentsPerFiveSats, threeCentsPerFiveSats, threeCentsPerFiveSats⟩

/-- An invoice without an amount, to a node of someone else. -/
def remoteNoAmountInvoice : LnInvoice := ⟨"remote-node", "remote-hash", "remote", none, []⟩

theorem threeCentsPerFiveSatsConversion_positive : threeCentsPerFiveSatsConversion.Positive := by
  have hQuotes : threeCentsPerFiveSats.Positive := by
    constructor
    · intro b u h
      cases h
      decide
    · intro u b h
      cases h
      decide
  exact ⟨hQuotes, hQuotes, hQuotes⟩

/-- A USD wallet pays that invoice 810 cents at 3 cents for 5 sats: 1350 sats,
    and a fee capped at 4 cents that converts to 7 sats. -/
theorem usdSenderFlow_exists :
    ∃ flow, buildLightningPaymentFlow ⟨[], ⟨[], []⟩⟩
        (.withNoAmountInvoice remoteNoAmountInvoice 810) ⟨"sender-usd", .Usd, "sender-account"⟩
        .withoutRecipientWallet threeCentsPerFiveSatsConversion 0 .withoutRoute = .ok flow ∧
      flow.btcPaymentAmount = ⟨1350⟩ ∧ flow.usdPaymentAmount = ⟨810⟩ ∧
      flow.btcProtocolAndBankFee = ⟨7⟩ ∧ flow.usdProtocolAndBankFee = ⟨4⟩ := by
  have hBuild : (buildLightningPaymentFlow ⟨[], ⟨[], []⟩⟩
      (.withNoAmountInvoice remoteNoAmountInvoice 810) ⟨"sender-usd", .Usd, "sender-account"⟩
      .withoutRecipientWallet threeCentsPerFiveSatsConversion 0 .withoutRoute).map
        (fun flow => (flow.btcPaymentAmount, flow.usdPaymentAmount, flow.btcProtocolAndBankFee,
          flow.usdProtocolAndBankFee)) =
      .ok (⟨1350⟩, ⟨810⟩, ⟨7⟩, ⟨4⟩) := rfl
  obtain ⟨flow, hFlow, hFields⟩ := Except.map_eq_ok hBuild
  simp only [Prod.mk.injEq] at hFields
  exact ⟨flow, hFlow, hFields⟩

/-- With 2 of those 7 sats spent, the refund stays within the 4 prepaid cents. -/
theorem getReimbursement_flow_bounded_usdSender :
    ∃ flow, buildLightningPaymentFlow ⟨[], ⟨[], []⟩⟩
        (.withNoAmountInvoice remoteNoAmountInvoice 810) ⟨"sender-usd", .Usd, "sender-account"⟩
        .withoutRecipientWallet threeCentsPerFiveSatsConversion 0 .withoutRoute = .ok flow ∧
      ∃ priceRatio, WalletPriceRatio.of flow.usdPaymentAmount flow.btcPaymentAmount =
          .ok priceRatio ∧
        ∃ usd : UsdPaymentAmount,
          getReimbursement ⟨flow.btcProtocolAndBankFee, flow.usdProtocolAndBankFee⟩ priceRatio
            ⟨2⟩ = .ok ⟨⟨flow.btcProtocolAndBankFee.amount - 2⟩, usd⟩ ∧
          usd.amount ≤ flow.usdProtocolAndBankFee.amount := by
  obtain ⟨flow, hFlow, hBtc, hUsd, hBtcFee, -⟩ := usdSenderFlow_exists
  obtain ⟨priceRatio, hRatio, hRefund⟩ := getReimbursement_flow_bounded
    (fun _ _ hStep _ => by cases hStep) (fun _ _ hStep _ => by cases hStep)
    threeCentsPerFiveSatsConversion_positive hFlow (by rw [hBtc, hUsd]; decide)
  obtain ⟨usd, hOk, -, hLe, -⟩ := (hRefund ⟨2⟩).2 (by decide) (by rw [hBtcFee]; decide)
  exact ⟨flow, hFlow, priceRatio, hRatio, usd, hOk, hLe⟩

/-- The same flow, with the same 2 sats spent: the refund is 3 cents, and the
    1 cent kept is less than the 1.2 cents that the spent sats are worth. -/
theorem getReimbursement_keeps_less_than_spent :
    ∃ flow priceRatio, buildLightningPaymentFlow ⟨[], ⟨[], []⟩⟩
        (.withNoAmountInvoice remoteNoAmountInvoice 810) ⟨"sender-usd", .Usd, "sender-account"⟩
        .withoutRecipientWallet threeCentsPerFiveSatsConversion 0 .withoutRoute = .ok flow ∧
      flow.usdPaymentAmount.amount ≤ flow.btcPaymentAmount.amount ∧
      WalletPriceRatio.of flow.usdPaymentAmount flow.btcPaymentAmount = .ok priceRatio ∧
      ∃ usd : UsdPaymentAmount,
        getReimbursement ⟨flow.btcProtocolAndBankFee, flow.usdProtocolAndBankFee⟩ priceRatio ⟨2⟩ =
          .ok ⟨⟨flow.btcProtocolAndBankFee.amount - 2⟩, usd⟩ ∧
        (flow.usdProtocolAndBankFee.amount - usd.amount : ℚ) <
          2 * flow.usdPaymentAmount.amount / flow.btcPaymentAmount.amount := by
  obtain ⟨flow, hFlow, hBtc, hUsd, hBtcFee, hUsdFee⟩ := usdSenderFlow_exists
  refine ⟨flow, ⟨⟨810, ⟨1350⟩, by decide, by decide⟩⟩, hFlow, ?_, ?_, ⟨3⟩, ?_, ?_⟩
  · rw [hBtc, hUsd]
    decide
  · rw [hBtc, hUsd]
    exact WalletPriceRatio.of_eq_ok (by decide) (by decide)
  · rw [hBtcFee, hUsdFee]
    rfl
  · rw [hUsdFee, hUsd, hBtc]
    norm_num

end Flow

end FeeReimbursement

end Galoy
