/-
  Galoy.Payments.LnFees

  The protocol and bank fee of a Lightning payment (`domain/payments/ln-fees.ts`).

  Without a probed route the fee is capped at `FEECAP_BASIS_POINTS` of the
  amount, and never below one unit of a non-zero amount.  `verifyMaxFee` checks
  a prepaid fee against that cap before a routeless send; for a USD sender the
  cap is taken in USD and converted back, and for an invoice with an amount the
  larger of the two caps counts.
-/

import Galoy.Payments.PriceRatio

namespace Galoy

open AmountCalculator

/-- `FEECAP_BASIS_POINTS` of `domain/bitcoin`: 100 basis points are 1%. -/
def FEECAP_BASIS_POINTS : ℤ := 50

/-- `PaymentAmountInAllCurrencies`. -/
structure PaymentAmountInAllCurrencies where
  btc : BtcPaymentAmount
  usd : UsdPaymentAmount
  deriving DecidableEq, Repr

/-- The field of an lnd route that the fee is read from. -/
structure RawRoute where
  safe_fee : ℚ
  deriving DecidableEq, Repr

/-- The arguments of `verifyMaxFee`. -/
structure VerifyMaxFeeArgs where
  maxFeeAmount : BtcPaymentAmount
  btcPaymentAmount : BtcPaymentAmount
  usdPaymentAmount : UsdPaymentAmount
  priceRatio : WalletPriceRatio
  senderWalletCurrency : WalletCurrency
  isFromNoAmountInvoice : Bool

/-- `MaxFeeTooLargeForRoutelessPaymentError`, with the fields its message serialises. -/
structure MaxFeeTooLargeForRoutelessPaymentError where
  btcPaymentAmount : ℤ
  usdPaymentAmount : ℤ
  maxFeeBtcAmount : ℤ
  senderWalletCurrency : WalletCurrency
  calculatedMaxFeeBtcAmount : ℤ
  deriving DecidableEq, Repr

namespace LnFees

variable {c : WalletCurrency}

def maxProtocolAndBankFee (amount : PaymentAmount c) : PaymentAmount c :=
  if amount.amount = 0 then amount
  else
    let maxFee := mulBasisPoints amount FEECAP_BASIS_POINTS
    ⟨if maxFee.amount = 0 then 1 else maxFee.amount⟩

def intraLedgerFees : PaymentAmountInAllCurrencies := ⟨ZERO_SATS, ZERO_CENTS⟩

/-- The cap `verifyMaxFee` compares the prepaid fee with: the BTC cap, or for a
    USD sender the USD cap in sats, or the larger of the two when the invoice
    had an amount. -/
def calculatedMaxFeeAmount (args : VerifyMaxFeeArgs) : BtcPaymentAmount :=
  let btcCalculatedMaxFeeAmount := maxProtocolAndBankFee args.btcPaymentAmount
  if args.senderWalletCurrency = .Usd then
    let maxFeeInUsd := maxProtocolAndBankFee args.usdPaymentAmount
    let usdCalculatedMaxFeeAmount := args.priceRatio.convertFromUsd maxFeeInUsd
    if args.isFromNoAmountInvoice = false then
      if btcCalculatedMaxFeeAmount.amount > usdCalculatedMaxFeeAmount.amount then
        btcCalculatedMaxFeeAmount
      else usdCalculatedMaxFeeAmount
    else usdCalculatedMaxFeeAmount
  else btcCalculatedMaxFeeAmount

def verifyMaxFee (args : VerifyMaxFeeArgs) : Except MaxFeeTooLargeForRoutelessPaymentError Bool :=
  let calculatedMaxFeeAmount := calculatedMaxFeeAmount args
  let calculatedMinFeeAmount := args.priceRatio.convertFromUsd ONE_CENT
  if (args.senderWalletCurrency = .Btc ∨
        args.maxFeeAmount.amount > calculatedMinFeeAmount.amount) ∧
      args.maxFeeAmount.amount > calculatedMaxFeeAmount.amount then
    .error {
      btcPaymentAmount := args.btcPaymentAmount.amount
      usdPaymentAmount := args.usdPaymentAmount.amount
      maxFeeBtcAmount := args.maxFeeAmount.amount
      senderWalletCurrency := args.senderWalletCurrency
      calculatedMaxFeeBtcAmount := calculatedMaxFeeAmount.amount }
  else .ok true

/-- `feeFromRawRoute`: the route's safe fee rounded up. -/
def feeFromRawRoute (rawRoute : RawRoute) : Except ValidationError BtcPaymentAmount :=
  let amount := ⌈rawRoute.safe_fee⌉
  paymentAmountFromNumber amount .Btc

/-- A rounded-up fee is a whole number of sats, so reading it never fails. -/
theorem feeFromRawRoute_eq (rawRoute : RawRoute) :
    feeFromRawRoute rawRoute = .ok ⟨⌈rawRoute.safe_fee⌉⟩ := by
  simp [feeFromRawRoute]

/-- A prepaid fee within the cap passes. -/
theorem verifyMaxFee_eq_ok {args : VerifyMaxFeeArgs}
    (h : args.maxFeeAmount.amount ≤ (calculatedMaxFeeAmount args).amount) :
    verifyMaxFee args = .ok true := by
  have hNotAbove : ¬ args.maxFeeAmount.amount > (calculatedMaxFeeAmount args).amount := by omega
  simp [verifyMaxFee, hNotAbove]

theorem calculatedMaxFeeAmount_btc {args : VerifyMaxFeeArgs} (h : args.senderWalletCurrency = .Btc) :
    calculatedMaxFeeAmount args = maxProtocolAndBankFee args.btcPaymentAmount := by
  simp [calculatedMaxFeeAmount, h]

/-- For a USD sender paying an invoice with an amount, the BTC cap is a lower bound. -/
theorem le_calculatedMaxFeeAmount {args : VerifyMaxFeeArgs} (h : args.senderWalletCurrency = .Usd)
    (hAmount : args.isFromNoAmountInvoice = false) :
    (maxProtocolAndBankFee args.btcPaymentAmount).amount ≤ (calculatedMaxFeeAmount args).amount := by
  simp only [calculatedMaxFeeAmount, h, hAmount, if_true]
  split <;> omega

/-- For a USD sender the USD cap, in sats, is a lower bound. -/
theorem usdCap_le_calculatedMaxFeeAmount {args : VerifyMaxFeeArgs}
    (h : args.senderWalletCurrency = .Usd) :
    (args.priceRatio.convertFromUsd (maxProtocolAndBankFee args.usdPaymentAmount)).amount ≤
      (calculatedMaxFeeAmount args).amount := by
  simp only [calculatedMaxFeeAmount, h, if_true]
  split
  · split <;> omega
  · exact le_refl _

end LnFees

end Galoy
