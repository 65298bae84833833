/-
  Galoy.Wallets.WithdrawalFee

  The bank fee of an on-chain withdrawal (`domain/wallets/withdrawal-fee-calculator.ts`).

  The proportional part is charged on the share of the amount that takes the
  swap-out imbalance past `thresholdImbalance`, clamped to `[0, amount]`, at
  `feeRatioAsBasisPoints`; the bank fee is the larger of that charge and the
  flat `minBankFee`, and the miner fee is added on top.  Every bound and
  monotonicity fact below comes from the clamp being monotone and `divRound`
  being monotone on non-negative amounts.
-/

import Galoy.Shared.Amount

namespace Galoy

open AmountCalculator

/-- `OnchainWithdrawalConfig`. -/
structure OnchainWithdrawalConfig where
  thresholdImbalance : BtcPaymentAmount
  feeRatioAsBasisPoints : ℤ
  deriving DecidableEq, Repr

/-- The arguments of `withdrawalFee`. -/
structure OnChainWithdrawalFeeArgs where
  minerFee : BtcPaymentAmount
  amount : BtcPaymentAmount
  minBankFee : BtcPaymentAmount
  imbalance : BtcPaymentAmount
  deriving DecidableEq, Repr

/-- What `withdrawalFee` returns. -/
structure OnChainWithdrawalFees where
  totalFee : BtcPaymentAmount
  bankFee : BtcPaymentAmount
  deriving DecidableEq, Repr

namespace OnChainFees

variable (config : OnchainWithdrawalConfig)

/-- The amount the proportional fee is charged on: the share of the withdrawal
    above the threshold of imbalance, clamped to `[0, amount]`. -/
def baseAmount (args : OnChainWithdrawalFeeArgs) : BtcPaymentAmount :=
  let amountWithImbalanceCalcs : BtcPaymentAmount :=
    ⟨args.imbalance.amount - config.thresholdImbalance.amount + args.amount.amount⟩
  max (min amountWithImbalanceCalcs [args.amount]) [ZERO_SATS]

def withdrawalFee (args : OnChainWithdrawalFeeArgs) : OnChainWithdrawalFees :=
  let bankFee :=
    max args.minBankFee [mulBasisPoints (baseAmount config args) config.feeRatioAsBasisPoints]
  { totalFee := add bankFee args.minerFee
    bankFee }

-- ============================================================================
-- The clamp and the fee
-- ============================================================================

variable {config}

/-- The clamp as integers: `max (min (imbalance - threshold + amount) amount) 0`. -/
theorem baseAmount_amount (args : OnChainWithdrawalFeeArgs) :
    (baseAmount config args).amount =
      Max.max (Min.min (args.imbalance.amount - config.thresholdImbalance.amount +
        args.amount.amount) args.amount.amount) 0 := by
  simp only [baseAmount, max_pair, min_pair, ZERO_SATS]
  split_ifs <;> simp_all <;> omega

theorem baseAmount_nonneg (args : OnChainWithdrawalFeeArgs) : 0 ≤ (baseAmount config args).amount := by
  rw [baseAmount_amount]
  omega

/-- For a non-negative amount the clamp never exceeds it. -/
theorem baseAmount_le (args : OnChainWithdrawalFeeArgs) (hAmount : 0 ≤ args.amount.amount) :
    (baseAmount config args).amount ≤ args.amount.amount := by
  rw [baseAmount_amount]
  omega

/-- The bank fee is the larger of the flat fee and the proportional one. -/
theorem withdrawalFee_bankFee (args : OnChainWithdrawalFeeArgs) :
    (withdrawalFee config args).bankFee.amount =
      Max.max args.minBankFee.amount
        (mulBasisPoints (baseAmount config args) config.feeRatioAsBasisPoints).amount := by
  simp only [withdrawalFee, max_pair]
  split_ifs <;> omega

/-- The clamp is monotone in the imbalance and in the amount together. -/
theorem baseAmount_mono {args args' : OnChainWithdrawalFeeArgs}
    (hImbalance : args.imbalance.amount ≤ args'.imbalance.amount)
    (hAmount : args.amount.amount ≤ args'.amount.amount) :
    (baseAmount config args).amount ≤ (baseAmount config args').amount := by
  rw [baseAmount_amount, baseAmount_amount]
  omega

/-- The bank fee is at least the flat fee and at most the larger of the flat fee
    and the proportional fee on the whole amount; the total adds the miner fee;
    a larger imbalance or a larger amount is never charged a smaller bank fee. -/
theorem withdrawalFee_bounded_monotone (hRatio : 0 ≤ config.feeRatioAsBasisPoints)
    {args : OnChainWithdrawalFeeArgs} (hAmount : 0 ≤ args.amount.amount) :
    args.minBankFee.amount ≤ (withdrawalFee config args).bankFee.amount ∧
    (withdrawalFee config args).bankFee.amount ≤
      Max.max args.minBankFee.amount
        (mulBasisPoints args.amount config.feeRatioAsBasisPoints).amount ∧
    (withdrawalFee config args).totalFee = add (withdrawalFee config args).bankFee args.minerFee ∧
    ∀ imbalance amount : BtcPaymentAmount, args.imbalance.amount ≤ imbalance.amount →
      args.amount.amount ≤ amount.amount →
      (withdrawalFee config args).bankFee.amount ≤
        (withdrawalFee config { args with imbalance, amount }).bankFee.amount := by
  refine ⟨?_, ?_, rfl, ?_⟩
  · rw [withdrawalFee_bankFee]
    exact le_max_left _ _
  · -- the clamped amount is at most the whole amount
    have hBase : (baseAmount config args).amount ≤ args.amount.amount := baseAmount_le args hAmount
    rw [withdrawalFee_bankFee]
    exact max_le_max le_rfl (mulBasisPoints_mono hRatio (baseAmount_nonneg args) hBase)
  · intro imbalance amount hImbalance hAmount'
    have hBase : (baseAmount config args).amount ≤
        (baseAmount config { args with imbalance, amount }).amount :=
      baseAmount_mono hImbalance hAmount'
    rw [withdrawalFee_bankFee, withdrawalFee_bankFee]
    exact max_le_max le_rfl (mulBasisPoints_mono hRatio (baseAmount_nonneg args) hBase)

/-- A withdrawal of 50000 sats with a miner fee of 2000 sats, a flat fee of
    1000 sats and a swap-out imbalance of -20000 sats. -/
def sampleWithdrawal : OnChainWithdrawalFeeArgs := ⟨⟨2000⟩, ⟨50000⟩, ⟨1000⟩, ⟨-20000⟩⟩

theorem withdrawalFee_bounded_monotone_sample :
    0 ≤ (50 : ℤ) ∧ 0 ≤ sampleWithdrawal.amount.amount ∧
      sampleWithdrawal.minBankFee.amount ≤
        (withdrawalFee ⟨⟨10000⟩, 50⟩ sampleWithdrawal).bankFee.amount := by
  have h := @withdrawalFee_bounded_monotone ⟨⟨10000⟩, 50⟩ (by decide) sampleWithdrawal (by decide)
  exact ⟨by decide, by decide, h.1⟩

end OnChainFees

end Galoy
