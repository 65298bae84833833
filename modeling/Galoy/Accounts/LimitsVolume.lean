/-
  Galoy.Accounts.LimitsVolume

  The 24-hour volume limits of an account (`domain/accounts/limits-volume.ts`,
  `domain/accounts/limits-checker.ts`, `app/accounts/account-limit.ts`).

  The volume remaining is the configured limit less the outgoing volume of the
  account's wallets, in cents, and never below zero; a payment passes when its
  USD amount is no larger than the volume remaining.  The three limits (for
  intraledger payments, withdrawals and trades between an account's own
  wallets) are computed and checked by the same bodies with a different limit
  and error, so each family is one definition here.
-/

import Galoy.Payments.PriceRatio
import Galoy.Lib.Except

namespace Galoy

open AmountCalculator

/-- `IAccountLimits`: the configured amounts, in cents. -/
structure AccountLimits where
  intraLedgerLimit : ℚ
  withdrawalLimit : ℚ
  tradeIntraAccountLimit : ℚ
  deriving DecidableEq, Repr

/-- The outgoing volume of one wallet, in the wallet's currency. -/
abbrev WalletVolume := (c : WalletCurrency) × PaymentAmount c

/-- `WalletVolumesAggregator({walletVolumes, priceRatio}).aggregate()`: the
    volumes in cents, BTC ones converted at the price ratio. -/
def WalletVolumesAggregator.aggregate (priceRatio : WalletPriceRatio)
    (walletVolumes : List WalletVolume) : UsdPaymentAmount :=
  walletVolumes.foldl (fun volumeInUsdAmount walletVolume =>
    let usdAmount : UsdPaymentAmount :=
      match walletVolume with
      | ⟨.Btc, btcVolume⟩ => priceRatio.convertFromBtc btcVolume
      | ⟨.Usd, usdVolume⟩ => usdVolume
    add volumeInUsdAmount usdAmount) ZERO_CENTS

/-- The body shared by the three methods of `AccountTxVolumeRemaining`. -/
def volumeRemaining (limit : ℚ) (priceRatio : WalletPriceRatio)
    (outWalletVolumes : List WalletVolume) : Except ValidationError UsdPaymentAmount := do
  let limitAmount ← paymentAmountFromNumber limit .Usd
  let outUsdVolumeAmount := WalletVolumesAggregator.aggregate priceRatio outWalletVolumes
  let volumeRemaining := sub limitAmount outUsdVolumeAmount
  pure (max ZERO_CENTS [volumeRemaining])

namespace AccountTxVolumeRemaining

variable (accountLimits : AccountLimits)

def intraLedger : WalletPriceRatio → List WalletVolume → Except ValidationError UsdPaymentAmount :=
  volumeRemaining accountLimits.intraLedgerLimit

/-- `withdrawal`, over the net outgoing volumes. -/
def withdrawal : WalletPriceRatio → List WalletVolume → Except ValidationError UsdPaymentAmount :=
  volumeRemaining accountLimits.withdrawalLimit

def tradeIntraAccount :
    WalletPriceRatio → List WalletVolume → Except ValidationError UsdPaymentAmount :=
  volumeRemaining accountLimits.tradeIntraAccountLimit

end AccountTxVolumeRemaining

/-- The errors of the limit checks of an account. -/
inductive LimitCheckError where
  | validation (e : ValidationError)
  | IntraledgerLimitsExceededError (msg : String)
  | WithdrawalLimitsExceededError (msg : String)
  | TradeIntraAccountLimitsExceededError (msg : String)
  deriving DecidableEq, Repr

/-- `x.toFixed(2)` for a non-negative number of hundredths, rounded to the
    nearest hundredth. -/
def toFixed2 (x : ℚ) : String :=
  let hundredths := (round (x * 100)).toNat
  let fraction := hundredths % 100
  toString (hundredths / 100) ++ "." ++ (if fraction < 10 then "0" else "") ++ toString fraction

/-- The body shared by the three methods of `AccountTxVolumeLimitChecker`. -/
def checkVolume (limit : ℚ) (limitsExceededError : String → LimitCheckError)
    (amount volumeRemaining : UsdPaymentAmount) : Except LimitCheckError Bool :=
  let limitAsUsd := "$" ++ toFixed2 (limit / 100)
  let limitErrMsg := "Cannot transfer more than " ++ limitAsUsd ++ " in 24 hours"
  if volumeRemaining.amount ≥ amount.amount then .ok true
  else .error (limitsExceededError limitErrMsg)

namespace AccountTxVolumeLimitChecker

variable (accountLimits : AccountLimits)

def checkIntraledger : UsdPaymentAmount → UsdPaymentAmount → Except LimitCheckError Bool :=
  checkVolume accountLimits.intraLedgerLimit .IntraledgerLimitsExceededError

def checkWithdrawal : UsdPaymentAmount → UsdPaymentAmount → Except LimitCheckError Bool :=
  checkVolume accountLimits.withdrawalLimit .WithdrawalLimitsExceededError

def checkTradeIntraAccount : UsdPaymentAmount → UsdPaymentAmount → Except LimitCheckError Bool :=
  checkVolume accountLimits.tradeIntraAccountLimit .TradeIntraAccountLimitsExceededError

end AccountTxVolumeLimitChecker

/-- `AccountLimitsType`. -/
inductive AccountLimitsType where
  | Withdrawal
  | IntraLedger
  | SelfTrade
  deriving DecidableEq, Repr

/-- `totalLimit`: the configured amount of a limit type. -/
def AccountLimits.totalLimit (accountLimits : AccountLimits) : AccountLimitsType → ℚ
  | .IntraLedger => accountLimits.intraLedgerLimit
  | .Withdrawal => accountLimits.withdrawalLimit
  | .SelfTrade => accountLimits.tradeIntraAccountLimit

/-- The app's check of a payment against one limit (`checkIntraledgerLimits`,
    `checkWithdrawalLimits`, `checkTradeIntraAccountLimits`), given the volumes
    that `remainingIntraLedgerLimit` and its siblings read from the ledger:
    the volume remaining for that limit, then the checker's method for it. -/
def checkLimit (accountLimits : AccountLimits) (limitType : AccountLimitsType)
    (priceRatio : WalletPriceRatio) (walletVolumes : List WalletVolume)
    (amount : UsdPaymentAmount) : Except LimitCheckError Bool :=
  match limitType with
  | .IntraLedger => do
    let volumeRemaining ← (AccountTxVolumeRemaining.intraLedger accountLimits priceRatio
      walletVolumes).mapError .validation
    AccountTxVolumeLimitChecker.checkIntraledger accountLimits amount volumeRemaining
  | .Withdrawal => do
    let volumeRemaining ← (AccountTxVolumeRemaining.withdrawal accountLimits priceRatio
      walletVolumes).mapError .validation
    AccountTxVolumeLimitChecker.checkWithdrawal accountLimits amount volumeRemaining
  | .SelfTrade => do
    let volumeRemaining ← (AccountTxVolumeRemaining.tradeIntraAccount accountLimits priceRatio
      walletVolumes).mapError .validation
    AccountTxVolumeLimitChecker.checkTradeIntraAccount accountLimits amount volumeRemaining

/-- Payments checked one after another against one limit at a fixed ratio:
    each accepted amount joins the volumes, in cents, before the next check.
    Returns the accepted payments. -/
def checkSequentially (accountLimits : AccountLimits) (limitType : AccountLimitsType)
    (priceRatio : WalletPriceRatio) : List WalletVolume → List UsdPaymentAmount →
    List UsdPaymentAmount
  | _, [] => []
  | walletVolumes, amount :: amounts =>
    match checkLimit accountLimits limitType priceRatio walletVolumes amount with
    | .ok true =>
      amount :: checkSequentially accountLimits limitType priceRatio
        (walletVolumes ++ [⟨.Usd, amount⟩]) amounts
    | _ => checkSequentially accountLimits limitType priceRatio walletVolumes amounts

/-- `checkIntraledgerLimits` of `app/accounts/account-limit.ts`, given the
    outgoing intraledger volumes of the account's BTC and USD wallets since a
    day ago that `remainingIntraLedgerLimit` reads from the ledger. -/
def checkIntraledgerLimits (accountLimits : AccountLimits) (priceRatio : WalletPriceRatio)
    (btcWalletVolume : BtcPaymentAmount) (usdWalletVolume : UsdPaymentAmount)
    (amount : UsdPaymentAmount) : Except LimitCheckError Bool := do
  let volumeRemaining ← (AccountTxVolumeRemaining.intraLedger accountLimits priceRatio
    [⟨.Btc, btcWalletVolume⟩, ⟨.Usd, usdWalletVolume⟩]).mapError .validation
  AccountTxVolumeLimitChecker.checkIntraledger accountLimits amount volumeRemaining

-- ============================================================================
-- What the checks decide
-- ============================================================================

@[simp] theorem WalletVolumesAggregator.aggregate_usd (priceRatio : WalletPriceRatio)
    (btcVolume : BtcPaymentAmount) (usdVolume : UsdPaymentAmount) :
    (WalletVolumesAggregator.aggregate priceRatio [⟨.Btc, btcVolume⟩, ⟨.Usd, usdVolume⟩]).amount =
      (priceRatio.convertFromBtc btcVolume).amount + usdVolume.amount := by
  simp [WalletVolumesAggregator.aggregate, ZERO_CENTS]

/-- A limit that is a whole number of cents leaves the limit less the volume,
    and nothing once the volume reaches the limit. -/
theorem volumeRemaining_intCast (limit : ℤ) (priceRatio : WalletPriceRatio)
    (outWalletVolumes : List WalletVolume) :
    volumeRemaining limit priceRatio outWalletVolumes =
      .ok ⟨Max.max 0 (limit - (WalletVolumesAggregator.aggregate priceRatio outWalletVolumes).amount)⟩ := by
  simp only [volumeRemaining, paymentAmountFromNumber_intCast, bind_pure_comp, Functor.map,
    Except.map, AmountCalculator.max, List.foldl_cons, List.foldl_nil, ZERO_CENTS, Except.ok.injEq]
  split
  · rename_i hAbove
    simp only [sub_amount] at hAbove
    rw [max_eq_right hAbove.le]
    rfl
  · rename_i hBelow
    simp only [sub_amount] at hBelow
    rw [max_eq_left (not_lt.mp hBelow)]

/-- A check passes exactly when the amount is within the volume remaining. -/
theorem checkVolume_eq_ok {limit : ℚ} {limitsExceededError : String → LimitCheckError}
    {amount volumeRemaining : UsdPaymentAmount} {b : Bool} :
    checkVolume limit limitsExceededError amount volumeRemaining = .ok b ↔
      b = true ∧ amount.amount ≤ volumeRemaining.amount := by
  unfold checkVolume
  split
  · rename_i hWithin
    simp only [Except.ok.injEq]
    exact ⟨fun h => ⟨h.symm, hWithin⟩, fun h => h.1.symm⟩
  · rename_i hOver
    simp only [reduceCtorEq, false_iff, not_and]
    intro _ hle
    exact hOver hle

/-- An intraledger payment passes the limit check exactly when the limit is a
    whole number of cents and the payment fits in what the volume leaves of it. -/
theorem checkIntraledgerLimits_eq_ok {accountLimits : AccountLimits}
    {priceRatio : WalletPriceRatio} {btcWalletVolume : BtcPaymentAmount}
    {usdWalletVolume : UsdPaymentAmount} {amount : UsdPaymentAmount} {b : Bool}
    (h : checkIntraledgerLimits accountLimits priceRatio btcWalletVolume usdWalletVolume amount =
      .ok b) :
    ∃ limit : ℤ, accountLimits.intraLedgerLimit = limit ∧
      amount.amount ≤ Max.max 0 (limit - ((priceRatio.convertFromBtc btcWalletVolume).amount +
        usdWalletVolume.amount)) := by
  unfold checkIntraledgerLimits at h
  obtain ⟨remaining, hRemaining, hCheck⟩ := Except.bind_eq_ok h
  have hRemaining' := Except.mapError_eq_ok hRemaining
  -- `paymentAmountFromNumber` accepts only a whole number of cents
  have hWhole : ∃ limit : ℤ, accountLimits.intraLedgerLimit = limit := by
    unfold AccountTxVolumeRemaining.intraLedger volumeRemaining at hRemaining'
    obtain ⟨limitAmount, hLimit, -⟩ := Except.bind_eq_ok hRemaining'
    unfold paymentAmountFromNumber safeBigInt at hLimit
    split at hLimit
    · rename_i hDen
      exact ⟨_, (Rat.coe_int_num_of_den_eq_one hDen).symm⟩
    · cases hLimit
  obtain ⟨limit, hLimit⟩ := hWhole
  rw [AccountTxVolumeRemaining.intraLedger, hLimit, volumeRemaining_intCast] at hRemaining'
  cases hRemaining'
  exact ⟨limit, hLimit, by simpa using (checkVolume_eq_ok.mp hCheck).2⟩

-- ============================================================================
-- A check against any volumes, and a sequential run of checks
-- ============================================================================

/-- A volume in cents: a BTC volume at the price ratio. -/
def WalletVolume.usdAmount (priceRatio : WalletPriceRatio) : WalletVolume → ℤ
  | ⟨.Btc, btcVolume⟩ => (priceRatio.convertFromBtc btcVolume).amount
  | ⟨.Usd, usdVolume⟩ => usdVolume.amount

/-- The aggregate is the sum of the volumes in cents. -/
theorem WalletVolumesAggregator.aggregate_amount (priceRatio : WalletPriceRatio)
    (walletVolumes : List WalletVolume) :
    (aggregate priceRatio walletVolumes).amount =
      (walletVolumes.map (WalletVolume.usdAmount priceRatio)).sum := by
  -- the fold from any running total adds the sum of the rest
  have hFold : ∀ (total : UsdPaymentAmount) (rest : List WalletVolume),
      (rest.foldl (fun volumeInUsdAmount walletVolume =>
        add volumeInUsdAmount (match walletVolume with
          | ⟨.Btc, btcVolume⟩ => priceRatio.convertFromBtc btcVolume
          | ⟨.Usd, usdVolume⟩ => usdVolume)) total).amount =
        total.amount + (rest.map (WalletVolume.usdAmount priceRatio)).sum := by
    intro total rest
    induction rest generalizing total with
    | nil => simp
    | cons walletVolume rest ih =>
      obtain ⟨c, volume⟩ := walletVolume
      cases c with
      | Btc =>
        rw [List.foldl_cons, ih]
        simp only [add_amount, List.map_cons, List.sum_cons, WalletVolume.usdAmount]
        ring
      | Usd =>
        rw [List.foldl_cons, ih]
        simp only [add_amount, List.map_cons, List.sum_cons, WalletVolume.usdAmount]
        ring
  rw [aggregate, hFold]
  simp [ZERO_CENTS]

/-- Each limit type checks against its own configured amount. -/
theorem checkLimit_eq (accountLimits : AccountLimits) (limitType : AccountLimitsType) :
    ∃ limitsExceededError : String → LimitCheckError, ∀ priceRatio walletVolumes amount,
      checkLimit accountLimits limitType priceRatio walletVolumes amount =
        ((volumeRemaining (accountLimits.totalLimit limitType) priceRatio walletVolumes).mapError
            .validation >>= fun volumeRemaining =>
          checkVolume (accountLimits.totalLimit limitType) limitsExceededError amount
            volumeRemaining) := by
  cases limitType with
  | Withdrawal => exact ⟨_, fun _ _ _ => rfl⟩
  | IntraLedger => exact ⟨_, fun _ _ _ => rfl⟩
  | SelfTrade => exact ⟨_, fun _ _ _ => rfl⟩

/-- Against a limit of a whole number of cents, a positive amount passes exactly
    when it fits, with the volumes in cents, within the limit: clamping the
    volume remaining at zero never lets a positive amount through. -/
theorem checkLimit_eq_ok_true_iff {accountLimits : AccountLimits} {limitType : AccountLimitsType}
    {limit : ℤ} (hLimit : accountLimits.totalLimit limitType = limit)
    (priceRatio : WalletPriceRatio) (walletVolumes : List WalletVolume)
    {amount : UsdPaymentAmount} (hAmount : 0 < amount.amount) :
    checkLimit accountLimits limitType priceRatio walletVolumes amount = .ok true ↔
      amount.amount + (walletVolumes.map (WalletVolume.usdAmount priceRatio)).sum ≤ limit := by
  obtain ⟨limitsExceededError, hCheck⟩ := checkLimit_eq accountLimits limitType
  rw [hCheck, hLimit, volumeRemaining_intCast]
  change checkVolume limit limitsExceededError amount _ = .ok true ↔ _
  rw [checkVolume_eq_ok, WalletVolumesAggregator.aggregate_amount]
  simp only [true_and]
  omega

section Sequential

variable {accountLimits : AccountLimits} {limitType : AccountLimitsType}
  {priceRatio : WalletPriceRatio}

theorem checkSequentially_cons_of_pass {walletVolumes : List WalletVolume}
    {amount : UsdPaymentAmount} (amounts : List UsdPaymentAmount)
    (h : checkLimit accountLimits limitType priceRatio walletVolumes amount = .ok true) :
    checkSequentially accountLimits limitType priceRatio walletVolumes (amount :: amounts) =
      amount :: checkSequentially accountLimits limitType priceRatio
        (walletVolumes ++ [⟨.Usd, amount⟩]) amounts := by
  simp only [checkSequentially, h]

theorem checkSequentially_cons_of_refuse {walletVolumes : List WalletVolume}
    {amount : UsdPaymentAmount} (amounts : List UsdPaymentAmount)
    (h : checkLimit accountLimits limitType priceRatio walletVolumes amount ≠ .ok true) :
    checkSequentially accountLimits limitType priceRatio walletVolumes (amount :: amounts) =
      checkSequentially accountLimits limitType priceRatio walletVolumes amounts := by
  rw [checkSequentially.eq_2]
  split
  · rename_i hPass
    exact absurd hPass h
  · rfl

/-- The accepted amounts of a run of positive payments never exceed what the
    starting volumes leave of the limit. -/
theorem checkSequentially_accepted {limit : ℤ} (hLimit : accountLimits.totalLimit limitType = limit)
    (walletVolumes : List WalletVolume) (amounts : List UsdPaymentAmount)
    (hAmounts : ∀ a ∈ amounts, 0 < a.amount) :
    ((checkSequentially accountLimits limitType priceRatio walletVolumes amounts).map
        (·.amount)).sum ≤
      Max.max 0 (limit - (walletVolumes.map (WalletVolume.usdAmount priceRatio)).sum) := by
  -- induction on the payments; the volumes grow by each accepted amount
  induction amounts generalizing walletVolumes with
  | nil =>
    simp only [checkSequentially, List.map_nil, List.sum_nil]
    exact le_max_left _ _
  | cons amount amounts ih =>
    have hAmount : 0 < amount.amount := hAmounts amount List.mem_cons_self
    have hRest : ∀ a ∈ amounts, 0 < a.amount := fun a ha => hAmounts a (List.mem_cons_of_mem _ ha)
    by_cases hPass : checkLimit accountLimits limitType priceRatio walletVolumes amount = .ok true
    · -- accepted: it fits, and the rest fit in what it leaves
      have hFits := (checkLimit_eq_ok_true_iff hLimit priceRatio walletVolumes hAmount).mp hPass
      have hTail := ih (walletVolumes ++ [⟨.Usd, amount⟩]) hRest
      rw [checkSequentially_cons_of_pass amounts hPass, List.map_cons, List.sum_cons]
      simp only [List.map_append, List.map_cons, List.map_nil, List.sum_append, List.sum_cons,
        List.sum_nil, WalletVolume.usdAmount] at hTail
      omega
    · rw [checkSequentially_cons_of_refuse amounts hPass]
      exact ih walletVolumes hRest

end Sequential

/-- For each limit type, a positive amount passes the check against the volume
    remaining exactly when it fits with the volumes, in cents, within the limit;
    in a sequential run the accepted amounts never exceed what the starting
    volumes leave of the limit, so never the limit itself when those volumes
    are not negative. -/
theorem checkLimit_exact_sequential {accountLimits : AccountLimits}
    {limitType : AccountLimitsType} {limit : ℤ} (hLimit : accountLimits.totalLimit limitType = limit)
    (priceRatio : WalletPriceRatio) :
    (∀ (walletVolumes : List WalletVolume) (amount : UsdPaymentAmount), 0 < amount.amount →
      (checkLimit accountLimits limitType priceRatio walletVolumes amount = .ok true ↔
        amount.amount + (walletVolumes.map (WalletVolume.usdAmount priceRatio)).sum ≤ limit)) ∧
    (∀ (walletVolumes : List WalletVolume) (amounts : List UsdPaymentAmount),
      (∀ a ∈ amounts, 0 < a.amount) →
      ((checkSequentially accountLimits limitType priceRatio walletVolumes amounts).map
          (·.amount)).sum ≤
        Max.max 0 (limit - (walletVolumes.map (WalletVolume.usdAmount priceRatio)).sum) ∧
      (0 ≤ (walletVolumes.map (WalletVolume.usdAmount priceRatio)).sum → 0 ≤ limit →
        ((checkSequentially accountLimits limitType priceRatio walletVolumes amounts).map
          (·.amount)).sum ≤ limit)) := by
  refine ⟨fun walletVolumes _ hAmount =>
    checkLimit_eq_ok_true_iff hLimit priceRatio walletVolumes hAmount, ?_⟩
  intro walletVolumes amounts hAmounts
  have hAccepted :=
    @checkSequentially_accepted accountLimits limitType priceRatio limit hLimit walletVolumes amounts
      hAmounts
  refine ⟨hAccepted, fun hVolumes hNonneg => ?_⟩
  omega

/-- One cent per sat. -/
def centPerSat : WalletPriceRatio := ⟨⟨1, ⟨1⟩, by decide, by decide⟩⟩

/-- A withdrawal limit of one dollar: one dollar fits after an empty day. -/
theorem checkLimit_exact_sequential_dollar :
    (⟨0, 100, 0⟩ : AccountLimits).totalLimit .Withdrawal = ((100 : ℤ) : ℚ) ∧
      checkLimit ⟨0, 100, 0⟩ .Withdrawal centPerSat [] ⟨100⟩ = .ok true := by
  have hLimit : (⟨0, 100, 0⟩ : AccountLimits).totalLimit .Withdrawal = ((100 : ℤ) : ℚ) := by
    norm_num [AccountLimits.totalLimit]
  exact ⟨hLimit, ((checkLimit_exact_sequential hLimit centPerSat).1 [] ⟨100⟩ (by decide)).mpr
    (by decide)⟩

/-- A withdrawal limit of one dollar, after a day whose net outgoing volume is
    minus one dollar: two payments of one dollar both pass, two dollars in all. -/
theorem checkSequentially_exceeds_withdrawalLimit :
    (100 : ℤ) < ((checkSequentially ⟨0, 100, 0⟩ .Withdrawal centPerSat [⟨.Usd, ⟨-100⟩⟩]
      [⟨100⟩, ⟨100⟩]).map (·.amount)).sum := by
  decide

end Galoy
