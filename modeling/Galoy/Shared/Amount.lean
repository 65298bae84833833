/-
  Galoy.Shared.Amount

  Wallet currencies and payment amounts of `domain/shared` (`amount.ts`,
  `calculator.ts`, `safe.ts`).

  A `PaymentAmount<T>` is a bigint tagged with its currency `T`; here the tag is
  the type index, so `calc.add` and `calc.sub` keep it by construction and
  `amount.currency` is the index itself.  bigint `/` and `%` truncate toward
  zero, which is `Int.tdiv` and `Int.tmod`.

  JS numbers that carry amounts (`Number(bigint)`, the ledger's `debit` and
  `credit`, GraphQL inputs) are exact rationals.  `Number(bigint)` is exact on
  every amount below 2^53, and the code bounds amounts far below that
  (`MAX_SATS`, `MAX_CENTS`); a non-integral input stays visible to
  `safeBigInt` and to the `Math.floor` check of `checkedTo*PaymentAmount`.
-/

import Mathlib.Data.Rat.Floor
import Mathlib.Algebra.Order.Ring.Int
import Galoy.Lib.Rounding

namespace Galoy

inductive WalletCurrency where
  | Btc
  | Usd
  deriving DecidableEq, Repr

/-- `PaymentAmount<T>`: a bigint amount of currency `T`. -/
structure PaymentAmount (c : WalletCurrency) where
  amount : ℤ
  deriving DecidableEq, Repr

abbrev BtcPaymentAmount := PaymentAmount .Btc
abbrev UsdPaymentAmount := PaymentAmount .Usd

/-- The runtime `currency` field: the type's tag. -/
def PaymentAmount.currency {c : WalletCurrency} (_ : PaymentAmount c) : WalletCurrency := c

@[simp] theorem PaymentAmount.currency_eq {c : WalletCurrency} (a : PaymentAmount c) :
    a.currency = c := rfl

@[ext] theorem PaymentAmount.ext' {c : WalletCurrency} {a b : PaymentAmount c}
    (h : a.amount = b.amount) : a = b := by
  cases a; cases b; simp_all

def ZERO_SATS : BtcPaymentAmount := ⟨0⟩
def ZERO_CENTS : UsdPaymentAmount := ⟨0⟩
def ONE_SAT : BtcPaymentAmount := ⟨1⟩
def ONE_CENT : UsdPaymentAmount := ⟨1⟩

-- 100_000 BTC is the max amount you can make a hodl invoice for in lnd
def MAX_SATS : BtcPaymentAmount := ⟨10000000000000⟩
-- Assumes optimistic price under sat-cent parity
def MAX_CENTS : UsdPaymentAmount := ⟨10000000000000⟩

/-- `ZERO_BANK_FEE`. -/
def ZERO_BANK_FEE : BtcPaymentAmount × UsdPaymentAmount := (ZERO_SATS, ZERO_CENTS)

-- ============================================================================
-- AmountCalculator
-- ============================================================================

namespace AmountCalculator

variable {c : WalletCurrency}

def add (a b : PaymentAmount c) : PaymentAmount c := ⟨a.amount + b.amount⟩

def sub (a b : PaymentAmount c) : PaymentAmount c := ⟨a.amount - b.amount⟩

/-- Round half down: the quotient moves up only when the remainder is strictly
    above `b / 2`. -/
def divRound (a : PaymentAmount c) (b : ℤ) : PaymentAmount c :=
  let quotient := a.amount.tdiv b
  let roundDownBound := b.tdiv 2
  let mod := a.amount.tmod b
  if mod > roundDownBound then ⟨quotient + 1⟩ else ⟨quotient⟩

def divFloor (a : PaymentAmount c) (b : ℤ) : PaymentAmount c := ⟨a.amount.tdiv b⟩

def divCeil (a : PaymentAmount c) (b : ℤ) : PaymentAmount c :=
  let quotient := a.amount.tdiv b
  let mod := a.amount.tmod b
  if mod > 0 then ⟨quotient + 1⟩ else ⟨quotient⟩

def mul (a : PaymentAmount c) (multiplier : ℤ) : PaymentAmount c := ⟨a.amount * multiplier⟩

def mulBasisPoints (a : PaymentAmount c) (basisPoints : ℤ) : PaymentAmount c :=
  divRound ⟨a.amount * basisPoints⟩ 10000

/-- `max(...args)` as `args.reduce`: a later argument replaces the running
    maximum only when it is strictly larger. -/
def max (a : PaymentAmount c) (rest : List (PaymentAmount c)) : PaymentAmount c :=
  rest.foldl (fun m v => if v.amount > m.amount then v else m) a

/-- `min(...args)` as `args.reduce`. -/
def min (a : PaymentAmount c) (rest : List (PaymentAmount c)) : PaymentAmount c :=
  rest.foldl (fun m v => if v.amount < m.amount then v else m) a

@[simp] theorem add_amount (a b : PaymentAmount c) : (add a b).amount = a.amount + b.amount := rfl

@[simp] theorem sub_amount (a b : PaymentAmount c) : (sub a b).amount = a.amount - b.amount := rfl

/-- `max(a, b)` of two amounts. -/
@[simp] theorem max_pair (a b : PaymentAmount c) :
    max a [b] = if b.amount > a.amount then b else a := rfl

/-- `min(a, b)` of two amounts. -/
@[simp] theorem min_pair (a b : PaymentAmount c) :
    min a [b] = if b.amount < a.amount then b else a := rfl

-- ============================================================================
-- The divisions as roundings of the exact quotient
-- ============================================================================

section Rounding

open Rounding

variable {a a' : PaymentAmount c} {b : ℤ}

/-- On a non-negative amount and a positive divisor, `divFloor` is the floor. -/
theorem divFloor_eq_floor (ha : 0 ≤ a.amount) (hb : 0 < b) :
    (divFloor a b).amount = ⌊(a.amount : ℚ) / b⌋ :=
  tdiv_eq_floor ha hb

/-- On a non-negative amount and a positive divisor, `divCeil` is the ceiling. -/
theorem divCeil_eq_ceil (ha : 0 ≤ a.amount) (hb : 0 < b) :
    (divCeil a b).amount = ⌈(a.amount : ℚ) / b⌉ := by
  rw [← tdiv_up_eq_ceil ha hb]
  simp only [divCeil]
  split_ifs <;> rfl

/-- On a non-negative amount and a positive divisor, `divRound` is the nearest
    integer, halves rounded down. -/
theorem divRound_eq_roundHalfDown (ha : 0 ≤ a.amount) (hb : 0 < b) :
    (divRound a b).amount = roundHalfDown ((a.amount : ℚ) / b) := by
  rw [← tdiv_round_eq_roundHalfDown ha hb]
  simp only [divRound]
  split_ifs <;> rfl

theorem divRound_mono (ha : 0 ≤ a.amount) (h : a.amount ≤ a'.amount) (hb : 0 < b) :
    (divRound a b).amount ≤ (divRound a' b).amount := by
  have hb' : (0 : ℚ) < b := by exact_mod_cast hb
  have hq : (a.amount : ℚ) / b ≤ (a'.amount : ℚ) / b :=
    div_le_div_of_nonneg_right (by exact_mod_cast h) hb'.le
  rw [divRound_eq_roundHalfDown ha hb, divRound_eq_roundHalfDown (ha.trans h) hb]
  exact roundHalfDown_mono hq

/-- The half test never fires on a remainder that is not positive. -/
theorem divRound_of_tmod_nonpos (hb : 0 < b) (hMod : a.amount.tmod b ≤ 0) :
    (divRound a b).amount = a.amount.tdiv b := by
  have hHalf : 0 ≤ b.tdiv 2 := by
    rw [Int.tdiv_eq_ediv_of_nonneg hb.le]
    omega
  simp only [divRound]
  split_ifs with hAbove
  · omega
  · rfl

/-- An amount at or below `-b` divides to at most `-1`. -/
theorem divRound_le_neg_one (hb : 0 < b) (ha : a.amount ≤ -b) : (divRound a b).amount ≤ -1 := by
  obtain ⟨hQuot, hMod⟩ := tdiv_le_neg_one hb ha
  rw [divRound_of_tmod_nonpos hb hMod]
  exact hQuot

/-- A non-positive amount divides to a non-positive one. -/
theorem divRound_nonpos (hb : 0 < b) (ha : a.amount ≤ 0) : (divRound a b).amount ≤ 0 := by
  obtain ⟨hQuot, hMod⟩ := tdiv_nonpos_of_nonpos hb ha
  rw [divRound_of_tmod_nonpos hb hMod]
  exact hQuot

/-- A larger non-negative amount never gets fewer basis points. -/
theorem mulBasisPoints_mono {basisPoints : ℤ} (hBasisPoints : 0 ≤ basisPoints)
    (ha : 0 ≤ a.amount) (h : a.amount ≤ a'.amount) :
    (mulBasisPoints a basisPoints).amount ≤ (mulBasisPoints a' basisPoints).amount :=
  divRound_mono (c := c) (mul_nonneg ha hBasisPoints)
    (mul_le_mul_of_nonneg_right h hBasisPoints) (by norm_num)

end Rounding

end AmountCalculator

-- ============================================================================
-- Amounts as they run
-- ============================================================================

/-- A `PaymentAmount` as the object `{ currency, amount }` it is at run time, where
    nothing ties the `currency` field to the type parameter. -/
structure PaymentAmountObject where
  currency : WalletCurrency
  amount : ℤ
  deriving DecidableEq, Repr

/-- The object a typed amount is at run time. -/
def PaymentAmount.toObject {c : WalletCurrency} (a : PaymentAmount c) : PaymentAmountObject :=
  ⟨a.currency, a.amount⟩

/-- `calc.add` as it runs: the sum takes the currency of its first argument. -/
def AmountCalculator.addObject (a b : PaymentAmountObject) : PaymentAmountObject :=
  ⟨a.currency, a.amount + b.amount⟩

-- ============================================================================
-- Checked conversions from JS numbers
-- ============================================================================

/-- The errors of `domain/shared/errors.ts` that the amount conversions return. -/
inductive ValidationError where
  | InvalidBtcPaymentAmountError
  | InvalidUsdPaymentAmountError
  | BtcAmountTooLargeError
  | UsdAmountTooLargeError
  /-- `BigInt(num)` threw a `RangeError`: `num` is not an integer. -/
  | BigIntFloatConversionError (num : ℚ)
  deriving DecidableEq, Repr

/-- `safeBigInt`: `BigInt(num)`, which throws on a non-integral number. -/
def safeBigInt (num : ℚ) : Except ValidationError ℤ :=
  if num.den = 1 then .ok num.num else .error (.BigIntFloatConversionError num)

def paymentAmountFromNumber (amount : ℚ) (currency : WalletCurrency) :
    Except ValidationError (PaymentAmount currency) :=
  (safeBigInt amount).map fun safeAmount => ⟨safeAmount⟩

/-- The body shared by `checkedToBtcPaymentAmount` and `checkedToUsdPaymentAmount`:
    null, too large, non-integral and non-positive inputs are rejected, in that
    order. -/
def checkedToPaymentAmount (currency : WalletCurrency) (maxAmount : PaymentAmount currency)
    (invalid tooLarge : ValidationError) (amount : Option ℚ) :
    Except ValidationError (PaymentAmount currency) :=
  match amount with
  | none => .error invalid
  | some amount =>
    if amount > maxAmount.amount then .error tooLarge
    else if (⌊amount⌋ : ℚ) ≠ amount then .error invalid
    else if ¬(amount ≠ 0 ∧ amount > 0) then .error invalid
    else paymentAmountFromNumber amount currency

def checkedToBtcPaymentAmount (amount : Option ℚ) : Except ValidationError BtcPaymentAmount :=
  checkedToPaymentAmount .Btc MAX_SATS .InvalidBtcPaymentAmountError .BtcAmountTooLargeError amount

def checkedToUsdPaymentAmount (amount : Option ℚ) : Except ValidationError UsdPaymentAmount :=
  checkedToPaymentAmount .Usd MAX_CENTS .InvalidUsdPaymentAmountError .UsdAmountTooLargeError amount

/-- `safeBigInt` gives back every integer it is handed. -/
@[simp] theorem safeBigInt_intCast (n : ℤ) : safeBigInt (n : ℚ) = .ok n := by
  simp [safeBigInt]

@[simp] theorem paymentAmountFromNumber_intCast (n : ℤ) (c : WalletCurrency) :
    paymentAmountFromNumber (n : ℚ) c = .ok ⟨n⟩ := by
  simp [paymentAmountFromNumber, Except.map]

/-- What a successful checked conversion returns: a positive integer amount no
    larger than the currency's maximum. -/
theorem checkedToPaymentAmount_ok {currency : WalletCurrency} {maxAmount : PaymentAmount currency}
    {invalid tooLarge : ValidationError} {amount : Option ℚ} {a : PaymentAmount currency}
    (h : checkedToPaymentAmount currency maxAmount invalid tooLarge amount = .ok a) :
    amount = some (a.amount : ℚ) ∧ 0 < a.amount ∧ a.amount ≤ maxAmount.amount := by
  cases amount with
  | none => simp [checkedToPaymentAmount] at h
  | some q =>
    simp only [checkedToPaymentAmount] at h
    split_ifs at h with hmax hfloor hpos
    have hint : ((⌊q⌋ : ℤ) : ℚ) = q := not_not.mp hfloor
    have hq : q = ((⌊q⌋ : ℤ) : ℚ) := hint.symm
    rw [hq, paymentAmountFromNumber_intCast] at h
    cases h
    refine ⟨by rw [← hq], ?_, ?_⟩
    · have : (0 : ℚ) < ((⌊q⌋ : ℤ) : ℚ) := by rw [hint]; exact hpos.2
      exact_mod_cast this
    · have : ((⌊q⌋ : ℤ) : ℚ) ≤ (maxAmount.amount : ℚ) := by rw [hint]; exact not_lt.mp hmax
      exact_mod_cast this

end Galoy
