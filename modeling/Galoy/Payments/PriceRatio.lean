/-
  Galoy.Payments.PriceRatio

  Conversions between wallet currencies at the ratio of two amounts
  (`domain/payments/price-ratio.ts`).

  `PriceRatio` rejects a zero amount on either side, so a value of the
  structure carries both non-zero facts.  `convertFromOther` and
  `convertFromWallet` round half down and never turn a non-zero amount into
  zero; the floor and ceiling conversions do not have that floor of one.
-/

import Galoy.Shared.Amount

namespace Galoy

open AmountCalculator

/-- `InvalidZeroAmountPriceRatioInputError`. -/
structure InvalidZeroAmountPriceRatioInputError where
  deriving DecidableEq, Repr

/-- `PriceRatio<S>`: `other` units per `walletAmount`, neither of them zero. -/
structure PriceRatio (c : WalletCurrency) where
  other : ℤ
  walletAmount : PaymentAmount c
  other_ne_zero : other ≠ 0
  walletAmount_ne_zero : walletAmount.amount ≠ 0

namespace PriceRatio

variable {c : WalletCurrency}

/-- `PriceRatio({ other, walletAmount })`. -/
def of (other : ℤ) (walletAmount : PaymentAmount c) :
    Except InvalidZeroAmountPriceRatioInputError (PriceRatio c) :=
  if h : other = 0 ∨ walletAmount.amount = 0 then .error ⟨⟩
  else .ok ⟨other, walletAmount, fun h0 => h (.inl h0), fun h0 => h (.inr h0)⟩

variable (r : PriceRatio c)

def convertFromOther (otherToConvert : ℤ) : PaymentAmount c :=
  if otherToConvert = 0 then ⟨0⟩
  else
    let amount := (divRound (c := c) ⟨otherToConvert * r.walletAmount.amount⟩ r.other).amount
    -- `amount || 1n`
    ⟨if amount = 0 then 1 else amount⟩

def convertFromWallet (walletAmountToConvert : PaymentAmount c) : ℤ :=
  if walletAmountToConvert.amount = 0 then 0
  else
    let amount :=
      (divRound (c := c) ⟨walletAmountToConvert.amount * r.other⟩ r.walletAmount.amount).amount
    if amount = 0 then 1 else amount

def convertFromWalletToFloor (walletAmountToConvert : PaymentAmount c) : ℤ :=
  (divFloor (c := c) ⟨walletAmountToConvert.amount * r.other⟩ r.walletAmount.amount).amount

def convertFromWalletToCeil (walletAmountToConvert : PaymentAmount c) : ℤ :=
  (divCeil (c := c) ⟨walletAmountToConvert.amount * r.other⟩ r.walletAmount.amount).amount

/-- `otherUnitPerWalletUnit`: `Number(other) / Number(walletAmount.amount)`. -/
def otherUnitPerWalletUnit : ℚ := (r.other : ℚ) / r.walletAmount.amount

theorem of_eq_ok {other : ℤ} {walletAmount : PaymentAmount c} (ho : other ≠ 0)
    (hw : walletAmount.amount ≠ 0) :
    of other walletAmount = .ok ⟨other, walletAmount, ho, hw⟩ := by
  simp [of, ho, hw]

theorem of_ok {other : ℤ} {walletAmount : PaymentAmount c} {r : PriceRatio c}
    (h : of other walletAmount = .ok r) : r.other = other ∧ r.walletAmount = walletAmount := by
  unfold of at h
  split at h
  · cases h
  · cases h
    exact ⟨rfl, rfl⟩

@[simp] theorem convertFromOther_zero : r.convertFromOther 0 = ⟨0⟩ := by
  simp [convertFromOther]

@[simp] theorem convertFromWallet_zero : r.convertFromWallet ⟨0⟩ = 0 := by
  simp [convertFromWallet]

@[simp] theorem convertFromWalletToCeil_zero : r.convertFromWalletToCeil ⟨0⟩ = 0 := by
  simp [convertFromWalletToCeil, divCeil]

-- ============================================================================
-- The conversions as roundings of the exact value
-- ============================================================================

section Rounding

open Rounding

/-- The exact value `walletAmountToConvert * other / walletAmount` that the three
    conversions from the wallet round. -/
def exactFromWallet (walletAmountToConvert : PaymentAmount c) : ℚ :=
  ((walletAmountToConvert.amount * r.other : ℤ) : ℚ) / r.walletAmount.amount

/-- The exact value `otherToConvert * walletAmount / other` that `convertFromOther`
    rounds. -/
def exactFromOther (otherToConvert : ℤ) : ℚ :=
  ((otherToConvert * r.walletAmount.amount : ℤ) : ℚ) / r.other

theorem exactFromWallet_eq_mul (x : PaymentAmount c) :
    r.exactFromWallet x = x.amount * r.otherUnitPerWalletUnit := by
  simp only [exactFromWallet, otherUnitPerWalletUnit, Int.cast_mul]
  ring

variable {r} (hOther : 0 < r.other) (hWallet : 0 < r.walletAmount.amount)
include hOther hWallet

theorem exactFromWallet_mono {x y : PaymentAmount c} (h : x.amount ≤ y.amount) :
    r.exactFromWallet x ≤ r.exactFromWallet y := by
  have hNum : ((x.amount * r.other : ℤ) : ℚ) ≤ ((y.amount * r.other : ℤ) : ℚ) := by
    exact_mod_cast mul_le_mul_of_nonneg_right h hOther.le
  exact div_le_div_of_nonneg_right hNum (by exact_mod_cast hWallet.le)

theorem exactFromWallet_pos_iff {x : PaymentAmount c} : 0 < r.exactFromWallet x ↔ 0 < x.amount := by
  have hWallet' : (0 : ℚ) < r.walletAmount.amount := by exact_mod_cast hWallet
  unfold exactFromWallet
  rw [div_pos_iff_of_pos_right hWallet', Int.cast_pos]
  exact mul_pos_iff_of_pos_right hOther

theorem exactFromWallet_nonneg {x : PaymentAmount c} (hx : 0 ≤ x.amount) :
    0 ≤ r.exactFromWallet x := by
  have hNum : (0 : ℚ) ≤ ((x.amount * r.other : ℤ) : ℚ) := by
    exact_mod_cast mul_nonneg hx hOther.le
  exact div_nonneg hNum (by exact_mod_cast hWallet.le)

theorem exactFromOther_nonneg {y : ℤ} (hy : 0 ≤ y) : 0 ≤ r.exactFromOther y := by
  have hNum : (0 : ℚ) ≤ ((y * r.walletAmount.amount : ℤ) : ℚ) := by
    exact_mod_cast mul_nonneg hy hWallet.le
  exact div_nonneg hNum (by exact_mod_cast hOther.le)

theorem exactFromOther_mono {y y' : ℤ} (h : y ≤ y') : r.exactFromOther y ≤ r.exactFromOther y' := by
  have hNum : ((y * r.walletAmount.amount : ℤ) : ℚ) ≤ ((y' * r.walletAmount.amount : ℤ) : ℚ) := by
    exact_mod_cast mul_le_mul_of_nonneg_right h hWallet.le
  exact div_le_div_of_nonneg_right hNum (by exact_mod_cast hOther.le)

theorem exactFromOther_pos_iff {y : ℤ} : 0 < r.exactFromOther y ↔ 0 < y := by
  have hOther' : (0 : ℚ) < r.other := by exact_mod_cast hOther
  unfold exactFromOther
  rw [div_pos_iff_of_pos_right hOther', Int.cast_pos]
  exact mul_pos_iff_of_pos_right hWallet

/-- At a ratio of at least one wallet unit per other unit, a negative amount
    converts to a negative one: the floor of one never applies. -/
theorem convertFromOther_neg (hLe : r.other ≤ r.walletAmount.amount) {y : ℤ} (hy : y < 0) :
    (r.convertFromOther y).amount < 0 := by
  have hProduct : y * r.walletAmount.amount ≤ -r.other := by nlinarith
  have hRound := divRound_le_neg_one (c := c) (a := ⟨y * r.walletAmount.amount⟩) hOther hProduct
  unfold convertFromOther
  simp only [hy.ne, if_false]
  split <;> omega

/-- A non-positive amount converts to at most one: the floor of one lifts a
    quotient of zero, and no quotient is positive. -/
theorem convertFromOther_le_one {y : ℤ} (hy : y ≤ 0) : (r.convertFromOther y).amount ≤ 1 := by
  have hProduct : y * r.walletAmount.amount ≤ 0 := Int.mul_nonpos_of_nonpos_of_nonneg hy hWallet.le
  have hRound := divRound_nonpos (c := c) (a := ⟨y * r.walletAmount.amount⟩) hOther hProduct
  unfold convertFromOther
  split
  · show (0 : ℤ) ≤ 1
    omega
  · dsimp only
    split <;> omega

theorem exactFromOther_eq_div (y : ℤ) : r.exactFromOther y = y / r.otherUnitPerWalletUnit := by
  have hOther' : (r.other : ℚ) ≠ 0 := by exact_mod_cast hOther.ne'
  have hWallet' : (r.walletAmount.amount : ℚ) ≠ 0 := by exact_mod_cast hWallet.ne'
  simp only [exactFromOther, otherUnitPerWalletUnit, Int.cast_mul]
  field_simp

theorem convertFromWalletToFloor_eq_floor {x : PaymentAmount c} (hx : 0 ≤ x.amount) :
    r.convertFromWalletToFloor x = ⌊r.exactFromWallet x⌋ :=
  divFloor_eq_floor (c := c) (mul_nonneg hx hOther.le) hWallet

theorem convertFromWalletToCeil_eq_ceil {x : PaymentAmount c} (hx : 0 ≤ x.amount) :
    r.convertFromWalletToCeil x = ⌈r.exactFromWallet x⌉ :=
  divCeil_eq_ceil (c := c) (mul_nonneg hx hOther.le) hWallet

/-- `convertFromWallet` rounds to the nearest integer, and lifts a positive
    amount that rounds to zero to one. -/
theorem convertFromWallet_eq_roundHalfDownPos {x : PaymentAmount c} (hx : 0 ≤ x.amount) :
    r.convertFromWallet x = roundHalfDownPos (r.exactFromWallet x) := by
  rcases hx.lt_or_eq with hPos | hZero
  · have hRound := divRound_eq_roundHalfDown (c := c) (mul_nonneg hx hOther.le) hWallet
    have hExact : 0 < r.exactFromWallet x := (exactFromWallet_pos_iff hOther hWallet).mpr hPos
    unfold convertFromWallet roundHalfDownPos
    simp only [hPos.ne', if_false, hExact, true_and]
    rw [hRound]
    rfl
  · have hx0 : x = ⟨0⟩ := PaymentAmount.ext' hZero.symm
    subst hx0
    simp [exactFromWallet, roundHalfDownPos_zero]

/-- `convertFromOther` rounds to the nearest integer, and lifts a positive
    amount that rounds to zero to one. -/
theorem convertFromOther_eq_roundHalfDownPos {y : ℤ} (hy : 0 ≤ y) :
    (r.convertFromOther y).amount = roundHalfDownPos (r.exactFromOther y) := by
  rcases hy.lt_or_eq with hPos | rfl
  · have hRound := divRound_eq_roundHalfDown (c := c) (a := ⟨y * r.walletAmount.amount⟩)
      (mul_nonneg hy hWallet.le) hOther
    have hExact : 0 < r.exactFromOther y := (exactFromOther_pos_iff hOther hWallet).mpr hPos
    unfold convertFromOther roundHalfDownPos
    simp only [hPos.ne', if_false, hExact, true_and]
    rw [hRound]
    rfl
  · simp [exactFromOther, roundHalfDownPos_zero]

end Rounding

open Rounding in
/-- The ratio of two positive amounts exists, and its conversions round the
    exact value: the floor and the ceiling exactly, `convertFromWallet` and
    `convertFromOther` to the nearest integer with halves down, never to zero
    from a positive amount; every conversion is monotone. -/
theorem conversions_rounded {other : ℤ} {walletAmount : PaymentAmount c} (hOther : 0 < other)
    (hWallet : 0 < walletAmount.amount) :
    ∃ r : PriceRatio c, of other walletAmount = .ok r ∧
      (∀ x : PaymentAmount c, 0 ≤ x.amount →
        r.convertFromWalletToFloor x ≤ r.convertFromWallet x ∧
        r.convertFromWallet x ≤ r.convertFromWalletToCeil x ∧
        r.convertFromWalletToFloor x = ⌊r.exactFromWallet x⌋ ∧
        r.convertFromWalletToCeil x = ⌈r.exactFromWallet x⌉ ∧
        r.convertFromWalletToCeil x - r.convertFromWalletToFloor x ≤ 1 ∧
        r.convertFromWallet x =
          if 0 < x.amount ∧ roundHalfDown (r.exactFromWallet x) = 0 then 1
          else roundHalfDown (r.exactFromWallet x)) ∧
      (∀ x y : PaymentAmount c, 0 ≤ x.amount → x.amount ≤ y.amount →
        r.convertFromWalletToFloor x ≤ r.convertFromWalletToFloor y ∧
        r.convertFromWallet x ≤ r.convertFromWallet y ∧
        r.convertFromWalletToCeil x ≤ r.convertFromWalletToCeil y) ∧
      (∀ y : ℤ, 0 ≤ y →
        ⌊r.exactFromOther y⌋ ≤ (r.convertFromOther y).amount ∧
        (r.convertFromOther y).amount ≤ ⌈r.exactFromOther y⌉ ∧
        (r.convertFromOther y).amount =
          if 0 < y ∧ roundHalfDown (r.exactFromOther y) = 0 then 1
          else roundHalfDown (r.exactFromOther y)) ∧
      (∀ y y' : ℤ, 0 ≤ y → y ≤ y' →
        (r.convertFromOther y).amount ≤ (r.convertFromOther y').amount) := by
  let r : PriceRatio c := ⟨other, walletAmount, hOther.ne', hWallet.ne'⟩
  have hOther' : 0 < r.other := hOther
  have hWallet' : 0 < r.walletAmount.amount := hWallet
  refine ⟨r, of_eq_ok hOther.ne' hWallet.ne', ?_, ?_, ?_, ?_⟩
  · -- the three conversions of one amount, ordered around the exact value
    intro x hx
    rw [convertFromWallet_eq_roundHalfDownPos hOther' hWallet' hx,
      convertFromWalletToFloor_eq_floor hOther' hWallet' hx,
      convertFromWalletToCeil_eq_ceil hOther' hWallet' hx]
    refine ⟨floor_le_roundHalfDownPos _, roundHalfDownPos_le_ceil _, rfl, rfl, ?_, ?_⟩
    · have := Int.ceil_le_floor_add_one (r.exactFromWallet x)
      omega
    · unfold roundHalfDownPos
      simp only [exactFromWallet_pos_iff hOther' hWallet']
  · -- monotone, through the exact value
    intro x y hx hxy
    have hy := hx.trans hxy
    have hExact := exactFromWallet_mono hOther' hWallet' hxy
    rw [convertFromWallet_eq_roundHalfDownPos hOther' hWallet' hx,
      convertFromWallet_eq_roundHalfDownPos hOther' hWallet' hy,
      convertFromWalletToFloor_eq_floor hOther' hWallet' hx,
      convertFromWalletToFloor_eq_floor hOther' hWallet' hy,
      convertFromWalletToCeil_eq_ceil hOther' hWallet' hx,
      convertFromWalletToCeil_eq_ceil hOther' hWallet' hy]
    exact ⟨Int.floor_mono hExact,
      roundHalfDownPos_mono (exactFromWallet_nonneg hOther' hWallet' hx) hExact,
      Int.ceil_mono hExact⟩
  · -- the other direction rounds the same way
    intro y hy
    rw [convertFromOther_eq_roundHalfDownPos hOther' hWallet' hy]
    refine ⟨floor_le_roundHalfDownPos _, roundHalfDownPos_le_ceil _, ?_⟩
    unfold roundHalfDownPos
    simp only [exactFromOther_pos_iff hOther' hWallet']
  · intro y y' hy hyy'
    rw [convertFromOther_eq_roundHalfDownPos hOther' hWallet' hy,
      convertFromOther_eq_roundHalfDownPos hOther' hWallet' (hy.trans hyy')]
    exact roundHalfDownPos_mono (exactFromOther_nonneg hOther' hWallet' hy)
      (exactFromOther_mono hOther' hWallet' hyy')

/-- At 3 units per 2 sats, one sat converts between its floor and its ceiling. -/
theorem conversions_rounded_oneSat :
    ∃ r : PriceRatio .Btc, of 3 ⟨2⟩ = .ok r ∧
      r.convertFromWalletToFloor ⟨1⟩ ≤ r.convertFromWallet ⟨1⟩ ∧
      r.convertFromWallet ⟨1⟩ ≤ r.convertFromWalletToCeil ⟨1⟩ := by
  obtain ⟨r, hr, hWallet, -⟩ := @conversions_rounded .Btc 3 ⟨2⟩ (by decide) (by decide)
  obtain ⟨hFloor, hCeil, -⟩ := hWallet ⟨1⟩ (by decide)
  exact ⟨r, hr, hFloor, hCeil⟩

end PriceRatio

/-- `WalletPriceRatio`: USD cents per BTC satoshi, both amounts non-zero. -/
structure WalletPriceRatio where
  priceRatio : PriceRatio .Btc

namespace WalletPriceRatio

/-- `WalletPriceRatio({ usd, btc })`. -/
def of (usd : UsdPaymentAmount) (btc : BtcPaymentAmount) :
    Except InvalidZeroAmountPriceRatioInputError WalletPriceRatio :=
  match PriceRatio.of usd.amount btc with
  | .error e => .error e
  | .ok priceRatio => .ok ⟨priceRatio⟩

variable (r : WalletPriceRatio)

def convertFromUsd (usdWalletAmount : UsdPaymentAmount) : BtcPaymentAmount :=
  r.priceRatio.convertFromOther usdWalletAmount.amount

def convertFromBtc (btcWalletAmount : BtcPaymentAmount) : UsdPaymentAmount :=
  ⟨r.priceRatio.convertFromWallet btcWalletAmount⟩

def convertFromBtcToFloor (btcWalletAmount : BtcPaymentAmount) : UsdPaymentAmount :=
  ⟨r.priceRatio.convertFromWalletToFloor btcWalletAmount⟩

def convertFromBtcToCeil (btcWalletAmount : BtcPaymentAmount) : UsdPaymentAmount :=
  ⟨r.priceRatio.convertFromWalletToCeil btcWalletAmount⟩

def usdPerSat : ℚ := r.priceRatio.otherUnitPerWalletUnit

/-- The ratio of two non-zero amounts exists. -/
theorem of_eq_ok {usd : UsdPaymentAmount} {btc : BtcPaymentAmount} (hu : usd.amount ≠ 0)
    (hb : btc.amount ≠ 0) : of usd btc = .ok ⟨⟨usd.amount, btc, hu, hb⟩⟩ := by
  simp [of, PriceRatio.of_eq_ok hu hb]

/-- A ratio remembers the two amounts it was built from. -/
theorem of_ok {usd : UsdPaymentAmount} {btc : BtcPaymentAmount} {r : WalletPriceRatio}
    (h : of usd btc = .ok r) :
    r.priceRatio.other = usd.amount ∧ r.priceRatio.walletAmount = btc := by
  unfold of at h
  split at h
  · cases h
  · rename_i priceRatio hratio
    cases h
    exact PriceRatio.of_ok hratio

@[simp] theorem convertFromBtc_zero : r.convertFromBtc ⟨0⟩ = ⟨0⟩ := by
  simp [convertFromBtc]

@[simp] theorem convertFromBtcToCeil_zero : r.convertFromBtcToCeil ⟨0⟩ = ⟨0⟩ := by
  simp [convertFromBtcToCeil]

-- ============================================================================
-- The conversions at `usdPerSat`
-- ============================================================================

section Rounding

open Rounding

variable {r}

/-- At or below sat-cent parity a sat is worth at most a cent. -/
theorem usdPerSat_le_one (hBtc : 0 < r.priceRatio.walletAmount.amount)
    (hParity : r.priceRatio.other ≤ r.priceRatio.walletAmount.amount) : r.usdPerSat ≤ 1 := by
  have hBtc' : (0 : ℚ) < r.priceRatio.walletAmount.amount := by exact_mod_cast hBtc
  have hParity' : (r.priceRatio.other : ℚ) ≤ r.priceRatio.walletAmount.amount := by
    exact_mod_cast hParity
  exact (div_le_one hBtc').mpr hParity'

variable (hUsd : 0 < r.priceRatio.other) (hBtc : 0 < r.priceRatio.walletAmount.amount)
include hUsd hBtc

theorem usdPerSat_pos : 0 < r.usdPerSat := by
  have hUsd' : (0 : ℚ) < r.priceRatio.other := by exact_mod_cast hUsd
  have hBtc' : (0 : ℚ) < r.priceRatio.walletAmount.amount := by exact_mod_cast hBtc
  exact div_pos hUsd' hBtc'

theorem convertFromBtc_eq {btc : BtcPaymentAmount} (h : 0 ≤ btc.amount) :
    (r.convertFromBtc btc).amount = roundHalfDownPos (btc.amount * r.usdPerSat) := by
  rw [usdPerSat, ← PriceRatio.exactFromWallet_eq_mul]
  exact PriceRatio.convertFromWallet_eq_roundHalfDownPos hUsd hBtc h

theorem convertFromBtcToFloor_eq {btc : BtcPaymentAmount} (h : 0 ≤ btc.amount) :
    (r.convertFromBtcToFloor btc).amount = ⌊btc.amount * r.usdPerSat⌋ := by
  rw [usdPerSat, ← PriceRatio.exactFromWallet_eq_mul]
  exact PriceRatio.convertFromWalletToFloor_eq_floor hUsd hBtc h

theorem convertFromBtcToCeil_eq {btc : BtcPaymentAmount} (h : 0 ≤ btc.amount) :
    (r.convertFromBtcToCeil btc).amount = ⌈btc.amount * r.usdPerSat⌉ := by
  rw [usdPerSat, ← PriceRatio.exactFromWallet_eq_mul]
  exact PriceRatio.convertFromWalletToCeil_eq_ceil hUsd hBtc h

theorem convertFromUsd_eq {usd : UsdPaymentAmount} (h : 0 ≤ usd.amount) :
    (r.convertFromUsd usd).amount = roundHalfDownPos (usd.amount / r.usdPerSat) := by
  rw [usdPerSat, ← PriceRatio.exactFromOther_eq_div hUsd hBtc]
  exact PriceRatio.convertFromOther_eq_roundHalfDownPos hUsd hBtc h

/-- A positive sat amount is worth at least one cent. -/
theorem convertFromBtc_pos {btc : BtcPaymentAmount} (h : 0 < btc.amount) :
    0 < (r.convertFromBtc btc).amount := by
  have hExact : (0 : ℚ) < btc.amount * r.usdPerSat :=
    mul_pos (by exact_mod_cast h) (usdPerSat_pos hUsd hBtc)
  rw [convertFromBtc_eq hUsd hBtc h.le]
  exact roundHalfDownPos_pos hExact

/-- A USD amount that is not positive converts to at most one sat. -/
theorem convertFromUsd_le_one {usd : UsdPaymentAmount} (h : usd.amount ≤ 0) :
    (r.convertFromUsd usd).amount ≤ 1 :=
  PriceRatio.convertFromOther_le_one hUsd hBtc h

end Rounding

end WalletPriceRatio

end Galoy
