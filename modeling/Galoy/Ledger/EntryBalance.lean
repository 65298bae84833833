/-
  Galoy.Ledger.EntryBalance

  What a full `EntryBuilder` chain writes.  The stage lemmas say which rows each
  stage appends (`transactions_withBankFee`, `transactions_debitAccount`,
  `transactions_addDealerDebitsAndCredits`, `transactions_creditAccount`);
  together they give the journal as the zero-row filter of an explicit list of
  legs.  Per-currency and per-account totals are unchanged by that filter, so
  every accounting fact about the journal is a fact about the legs, decided by a
  case split on the debit currency, the credit currency and the bank fee.
-/

import Galoy.Ledger.EntryBuilder
import Mathlib.Tactic.Ring
import Mathlib.Tactic.Linarith

namespace Galoy

-- ============================================================================
-- Journal totals
-- ============================================================================

namespace Journal

/-- Sum of `side` over the transactions that satisfy `p`. -/
def total (p : MediciTxn → Bool) (side : MediciTxn → ℚ) (txns : List MediciTxn) : ℚ :=
  ((txns.filter p).map side).sum

/-- A row of currency `c`. -/
def inCurrency (c : WalletCurrency) (t : MediciTxn) : Bool := t.metadata.currency == some c

/-- A row of account `a` and currency `c`. -/
def atAccount (a : String) (c : WalletCurrency) (t : MediciTxn) : Bool :=
  t.accounts == a && t.metadata.currency == some c

/-- Debits equal credits in every currency. -/
def Balanced (txns : List MediciTxn) : Prop :=
  ∀ c, total (inCurrency c) (·.debit) txns = total (inCurrency c) (·.credit) txns

/-- `removeZeroAmountEntries`'s test: the row has a non-zero side. -/
def nonZero (txn : MediciTxn) : Bool := !(txn.debit = 0 && txn.credit = 0)

variable (p : MediciTxn → Bool) (side : MediciTxn → ℚ)

@[simp] theorem total_nil : total p side [] = 0 := rfl

@[simp] theorem total_cons (t : MediciTxn) (l : List MediciTxn) :
    total p side (t :: l) = (if p t then side t else 0) + total p side l := by
  unfold total
  by_cases h : p t <;> simp [h]

@[simp] theorem total_append (l₁ l₂ : List MediciTxn) :
    total p side (l₁ ++ l₂) = total p side l₁ + total p side l₂ := by
  simp [total, List.filter_append]

/-- Dropping rows on which `side` vanishes leaves its total unchanged. -/
theorem total_filter_of_zero (keep : MediciTxn → Bool)
    (h : ∀ t, keep t = false → side t = 0) (l : List MediciTxn) :
    total p side (l.filter keep) = total p side l := by
  induction l with
  | nil => rfl
  | cons t l ih =>
    by_cases hk : keep t
    · simp [hk, ih]
    · have h0 := h t (by simpa using hk)
      simp [hk, ih, h0]

theorem total_filter_nonZero_debit (l : List MediciTxn) :
    total p (·.debit) (l.filter nonZero) = total p (·.debit) l :=
  total_filter_of_zero p _ nonZero (fun t h => by simp [nonZero] at h; exact h.1) l

theorem total_filter_nonZero_credit (l : List MediciTxn) :
    total p (·.credit) (l.filter nonZero) = total p (·.credit) l :=
  total_filter_of_zero p _ nonZero (fun t h => by simp [nonZero] at h; exact h.2) l

end Journal

-- ============================================================================
-- What each stage appends
-- ============================================================================

variable {E : Type} (ops : MediciEntryOps E)

/-- The with-fees amount in currency `c`. -/
def amountIn (c : WalletCurrency) (btc : BtcPaymentAmount) (usd : UsdPaymentAmount) : ℤ :=
  match c with
  | .Btc => btc.amount
  | .Usd => usd.amount

@[simp] theorem amountIn_btc (btc : BtcPaymentAmount) (usd : UsdPaymentAmount) :
    amountIn .Btc btc usd = btc.amount := rfl

@[simp] theorem amountIn_usd (btc : BtcPaymentAmount) (usd : UsdPaymentAmount) :
    amountIn .Usd btc usd = usd.amount := rfl

@[simp] theorem withCurrency_currency (base : TxMetadata) (c : WalletCurrency) (x : Option String) :
    (withCurrency base c x).currency = some c := rfl

@[simp] theorem withCurrency_external_id (base : TxMetadata) (c : WalletCurrency)
    (x : Option String) : (withCurrency base c x).external_id = x := rfl

/-- The bank-fee row of `withBankFee`, present when the BTC fee is positive. -/
def bankFeeRows (st : EntryBuilderFeeState E) (btcBankFee : BtcPaymentAmount) : List MediciTxn :=
  if btcBankFee.amount > 0 then
    [⟨st.staticAccountIds.bankOwnerAccountId, 0, (btcBankFee.amount : ℚ),
      withCurrency (st.metadata.spread st.additionalInternalMetadata) .Btc st.externalId⟩]
  else []

theorem transactions_withBankFee (hops : ops.Lawful) (st : EntryBuilderFeeState E)
    (btcBankFee : BtcPaymentAmount) (usdBankFee : UsdPaymentAmount) :
    ops.transactions (EntryBuilderFee.withBankFee ops st btcBankFee usdBankFee).entry =
      ops.transactions st.entry ++ bankFeeRows st btcBankFee := by
  unfold EntryBuilderFee.withBankFee bankFeeRows
  split_ifs with h
  · exact hops.transactions_credit _ _ _ _
  · simp

/-- The debit row of `debitAccount`. -/
def debitRow (st : EntryBuilderDebitState E) (accountDescriptor : LedgerAccountDescriptor)
    (additionalMetadata : Option TxMetadata) : MediciTxn :=
  ⟨accountDescriptor.id, (amountIn accountDescriptor.currency st.btcWithFees st.usdWithFees : ℚ),
    0, withCurrency (st.metadata.spreadOpt additionalMetadata) accountDescriptor.currency
      st.externalId⟩

theorem transactions_debitAccount (hops : ops.Lawful) (st : EntryBuilderDebitState E)
    (accountDescriptor : LedgerAccountDescriptor) (additionalMetadata : Option TxMetadata) :
    ops.transactions (EntryBuilderDebit.debitAccount ops st accountDescriptor additionalMetadata).entry =
      ops.transactions st.entry ++ [debitRow st accountDescriptor additionalMetadata] := by
  unfold EntryBuilderDebit.debitAccount debitRow
  cases hc : accountDescriptor.currency with
  | Btc => simp only [if_pos]; exact hops.transactions_debit _ _ _ _
  | Usd => simp only [reduceCtorEq, if_false]; exact hops.transactions_debit _ _ _ _

/-- The two dealer rows of a conversion: `btcAmount` on `btcSide`'s side of the
    dealer's BTC account and `usdAmount` on the other side of its USD account. -/
def dealerConversionRows (st : EntryBuilderCreditState E) (dealerBuysBtc : Bool)
    (btcAmount : BtcPaymentAmount) (usdAmount : UsdPaymentAmount) : List MediciTxn :=
  let dealerMetadata := st.metadata.spread st.additionalInternalMetadata
  let btcRow : MediciTxn := if dealerBuysBtc
    then ⟨st.staticAccountIds.dealerBtcAccountId, (btcAmount.amount : ℚ), 0,
      withCurrency dealerMetadata .Btc st.externalId⟩
    else ⟨st.staticAccountIds.dealerBtcAccountId, 0, (btcAmount.amount : ℚ),
      withCurrency dealerMetadata .Btc st.externalId⟩
  let usdRow : MediciTxn := if dealerBuysBtc
    then ⟨st.staticAccountIds.dealerUsdAccountId, 0, (usdAmount.amount : ℚ),
      withCurrency dealerMetadata .Usd st.externalId⟩
    else ⟨st.staticAccountIds.dealerUsdAccountId, (usdAmount.amount : ℚ), 0,
      withCurrency dealerMetadata .Usd st.externalId⟩
  [btcRow, usdRow]

theorem transactions_addUsdToBtcConversionToDealer (hops : ops.Lawful)
    (st : EntryBuilderCreditState E) (btcAmount : BtcPaymentAmount) (usdAmount : UsdPaymentAmount) :
    ops.transactions (addUsdToBtcConversionToDealer ops st btcAmount usdAmount) =
      ops.transactions st.entry ++ dealerConversionRows st true btcAmount usdAmount := by
  unfold addUsdToBtcConversionToDealer dealerConversionRows
  rw [hops.transactions_credit, hops.transactions_debit]
  simp

theorem transactions_addBtcToUsdConversionToDealer (hops : ops.Lawful)
    (st : EntryBuilderCreditState E) (btcAmount : BtcPaymentAmount) (usdAmount : UsdPaymentAmount) :
    ops.transactions (addBtcToUsdConversionToDealer ops st btcAmount usdAmount) =
      ops.transactions st.entry ++ dealerConversionRows st false btcAmount usdAmount := by
  unfold addBtcToUsdConversionToDealer dealerConversionRows
  rw [hops.transactions_debit, hops.transactions_credit]
  simp

/-- The dealer legs chosen by the `switch (true)` of `addDealerDebitsAndCredits`. -/
def dealerRows (st : EntryBuilderCreditState E) (accountDescriptor : LedgerAccountDescriptor) :
    List MediciTxn :=
  if st.debitCurrency = .Usd ∧ accountDescriptor.currency = .Usd ∧ st.usdBankFee.amount > 0 then
    dealerConversionRows st true st.btcBankFee st.usdBankFee
  else if st.debitCurrency = .Usd ∧ accountDescriptor.currency = .Btc then
    dealerConversionRows st true st.btcWithFees st.usdWithFees
  else if st.debitCurrency = .Btc ∧ accountDescriptor.currency = .Usd then
    dealerConversionRows st false (AmountCalculator.sub st.btcWithFees st.btcBankFee)
      (AmountCalculator.sub st.usdWithFees st.usdBankFee)
  else []

theorem transactions_addDealerDebitsAndCredits (hops : ops.Lawful)
    (st : EntryBuilderCreditState E) (accountDescriptor : LedgerAccountDescriptor) :
    ops.transactions (EntryBuilderCredit.addDealerDebitsAndCredits ops st accountDescriptor) =
      ops.transactions st.entry ++ dealerRows st accountDescriptor := by
  unfold EntryBuilderCredit.addDealerDebitsAndCredits dealerRows
  split_ifs
  · exact transactions_addUsdToBtcConversionToDealer ops hops _ _ _
  · exact transactions_addUsdToBtcConversionToDealer ops hops _ _ _
  · exact transactions_addBtcToUsdConversionToDealer ops hops _ _ _
  · simp

/-- The credit row of `creditAccount`: the amount net of the bank fee. -/
def creditRow (st : EntryBuilderCreditState E) (accountDescriptor : LedgerAccountDescriptor)
    (additionalMetadata : Option TxMetadata) : MediciTxn :=
  ⟨accountDescriptor.id,
    0, (amountIn accountDescriptor.currency (AmountCalculator.sub st.btcWithFees st.btcBankFee)
      (AmountCalculator.sub st.usdWithFees st.usdBankFee) : ℚ),
    withCurrency (st.metadata.spreadOpt additionalMetadata) accountDescriptor.currency
      st.externalId⟩

theorem transactions_creditAccount (hops : ops.Lawful) (st : EntryBuilderCreditState E)
    (accountDescriptor : LedgerAccountDescriptor) (additionalMetadata : Option TxMetadata) :
    ops.transactions (EntryBuilderCredit.creditAccount ops st accountDescriptor additionalMetadata) =
      (ops.transactions st.entry ++ dealerRows st accountDescriptor ++
        [creditRow st accountDescriptor additionalMetadata]).filter Journal.nonZero := by
  unfold EntryBuilderCredit.creditAccount removeZeroAmountEntries
  rw [hops.transactions_setTransactions]
  have hdealer := transactions_addDealerDebitsAndCredits ops hops st accountDescriptor
  cases hc : accountDescriptor.currency with
  | Btc =>
    simp only [reduceCtorEq, if_false]
    rw [hops.transactions_credit, hdealer]
    simp only [creditRow, hc, amountIn_btc, List.append_assoc]
    rfl
  | Usd =>
    simp only [if_pos]
    rw [hops.transactions_credit, hdealer]
    simp only [creditRow, hc, amountIn_usd, List.append_assoc]
    rfl

-- ============================================================================
-- The whole chain
-- ============================================================================

/-- The legs of `withBankFee(b, u).debitAccount(dT).creditAccount(cT)`, in the
    order the chain writes them, before the zero-row filter. -/
def entryLegs (config : EntryBuilderConfig E) (usdWithFees : UsdPaymentAmount)
    (btcWithFees : BtcPaymentAmount) (btcBankFee : BtcPaymentAmount) (usdBankFee : UsdPaymentAmount)
    (debitTarget creditTarget : LedgerAccountDescriptor × Option TxMetadata) : List MediciTxn :=
  let st0 := EntryBuilder.withTotalAmount config usdWithFees btcWithFees
  let st1 : EntryBuilderDebitState E := { st0 with btcBankFee, usdBankFee }
  let st2 : EntryBuilderCreditState E := { st1 with debitCurrency := debitTarget.1.currency }
  bankFeeRows st0 btcBankFee ++ [debitRow st1 debitTarget.1 debitTarget.2] ++
    dealerRows st2 creditTarget.1 ++ [creditRow st2 creditTarget.1 creditTarget.2]

/-- The journal of a whole chain is the zero-row filter of the entry's previous
    transactions followed by `entryLegs`. -/
theorem transactions_chain (hops : ops.Lawful) (config : EntryBuilderConfig E)
    (usdWithFees : UsdPaymentAmount) (btcWithFees : BtcPaymentAmount)
    (btcBankFee : BtcPaymentAmount) (usdBankFee : UsdPaymentAmount)
    (dm : DebitMethod) (cm : CreditMethod) :
    ops.transactions (cm.call ops (dm.call ops (EntryBuilderFee.withBankFee ops
        (EntryBuilder.withTotalAmount config usdWithFees btcWithFees) btcBankFee usdBankFee))) =
      (ops.transactions config.entry ++
        entryLegs config usdWithFees btcWithFees btcBankFee usdBankFee
          (dm.target config.additionalInternalMetadata)
          (cm.target config.additionalInternalMetadata)).filter Journal.nonZero := by
  rw [CreditMethod.call_eq, transactions_creditAccount ops hops, DebitMethod.call_eq,
    transactions_debitAccount ops hops, transactions_withBankFee ops hops]
  simp only [entryLegs, List.append_assoc]
  rfl

-- ============================================================================
-- Accounting facts of the legs
-- ============================================================================

open Journal

section Legs

variable (config : EntryBuilderConfig E) (usdWithFees : UsdPaymentAmount)
  (btcWithFees btcBankFee : BtcPaymentAmount) (usdBankFee : UsdPaymentAmount)
  (debitTarget creditTarget : LedgerAccountDescriptor × Option TxMetadata)

/-- Debits equal credits per currency.  The USD-to-USD dealer legs exist only for
    a positive USD fee, so a zero USD fee must come with a zero BTC fee. -/
theorem entryLegs_balanced (hb0 : 0 ≤ btcBankFee.amount) (hu0 : 0 ≤ usdBankFee.amount)
    (hfee : usdBankFee.amount = 0 → btcBankFee.amount = 0) :
    Balanced (entryLegs config usdWithFees btcWithFees btcBankFee usdBankFee debitTarget
      creditTarget) := by
  intro cur
  obtain ⟨⟨did, dcur⟩, dmeta⟩ := debitTarget
  obtain ⟨⟨cid, ccur⟩, cmeta⟩ := creditTarget
  have hb : btcBankFee.amount = 0 ∨ 0 < btcBankFee.amount := by omega
  have hu : usdBankFee.amount = 0 ∨ 0 < usdBankFee.amount := by omega
  rcases hu with hu | hu
  · have hb' := hfee hu
    cases cur <;> cases dcur <;> cases ccur <;>
      simp [entryLegs, bankFeeRows, debitRow, dealerRows, dealerConversionRows, creditRow,
        inCurrency, EntryBuilder.withTotalAmount, hu, hb']
  · rcases hb with hb | hb <;> cases cur <;> cases dcur <;> cases ccur <;>
      simp [entryLegs, bankFeeRows, debitRow, dealerRows, dealerConversionRows, creditRow,
        inCurrency, EntryBuilder.withTotalAmount, hu, hb]

theorem bankFeeRows_external_id (st : EntryBuilderFeeState E) :
    ∀ t ∈ bankFeeRows st btcBankFee, t.metadata.external_id = st.externalId := by
  unfold bankFeeRows
  split_ifs <;> simp

theorem dealerRows_external_id (st : EntryBuilderCreditState E)
    (accountDescriptor : LedgerAccountDescriptor) :
    ∀ t ∈ dealerRows st accountDescriptor, t.metadata.external_id = st.externalId := by
  unfold dealerRows dealerConversionRows
  split_ifs <;> simp

/-- Every leg carries the builder's `externalId`. -/
theorem entryLegs_external_id :
    ∀ t ∈ entryLegs config usdWithFees btcWithFees btcBankFee usdBankFee debitTarget creditTarget,
      t.metadata.external_id = config.externalId := by
  intro t ht
  simp only [entryLegs, List.mem_append, List.mem_singleton] at ht
  rcases ht with ((hbank | rfl) | hdealer) | rfl
  · exact bankFeeRows_external_id _ _ t hbank
  · rfl
  · exact dealerRows_external_id _ _ t hdealer
  · rfl

/-- The debited account is debited the with-fees amount of its currency: the
    dealer's debit legs are in the other currency. -/
theorem entryLegs_debitAccount_total :
    total (atAccount debitTarget.1.id debitTarget.1.currency) (·.debit)
        (entryLegs config usdWithFees btcWithFees btcBankFee usdBankFee debitTarget creditTarget) =
      amountIn debitTarget.1.currency btcWithFees usdWithFees := by
  obtain ⟨⟨did, dcur⟩, dmeta⟩ := debitTarget
  obtain ⟨⟨cid, ccur⟩, cmeta⟩ := creditTarget
  cases dcur <;> cases ccur <;>
    simp [entryLegs, bankFeeRows, debitRow, dealerRows, dealerConversionRows, creditRow,
        atAccount, EntryBuilder.withTotalAmount] <;> split_ifs <;> simp [atAccount]

/-- The credited account is credited the amount net of the bank fee, when it is
    neither the bank owner's nor the dealer's USD account. -/
theorem entryLegs_creditAccount_total
    (hbank : creditTarget.1.id ≠ config.staticAccountIds.bankOwnerAccountId)
    (hdealer : creditTarget.1.id ≠ config.staticAccountIds.dealerUsdAccountId) :
    total (atAccount creditTarget.1.id creditTarget.1.currency) (·.credit)
        (entryLegs config usdWithFees btcWithFees btcBankFee usdBankFee debitTarget creditTarget) =
      amountIn creditTarget.1.currency btcWithFees usdWithFees -
        amountIn creditTarget.1.currency btcBankFee usdBankFee := by
  obtain ⟨⟨did, dcur⟩, dmeta⟩ := debitTarget
  obtain ⟨⟨cid, ccur⟩, cmeta⟩ := creditTarget
  simp only at hbank hdealer
  cases dcur <;> cases ccur <;>
    simp [entryLegs, bankFeeRows, debitRow, dealerRows, dealerConversionRows, creditRow,
        atAccount, EntryBuilder.withTotalAmount, Ne.symm hdealer] <;>
    split_ifs <;> simp [atAccount, Ne.symm hbank, Ne.symm hdealer]

/-- The bank owner is credited exactly the BTC bank fee. -/
theorem entryLegs_bankOwner_total (hb0 : 0 ≤ btcBankFee.amount)
    (hbank : creditTarget.1.id ≠ config.staticAccountIds.bankOwnerAccountId)
    (hdealer : config.staticAccountIds.bankOwnerAccountId ≠
      config.staticAccountIds.dealerBtcAccountId) :
    total (atAccount config.staticAccountIds.bankOwnerAccountId .Btc) (·.credit)
        (entryLegs config usdWithFees btcWithFees btcBankFee usdBankFee debitTarget creditTarget) =
      btcBankFee.amount := by
  obtain ⟨⟨did, dcur⟩, dmeta⟩ := debitTarget
  obtain ⟨⟨cid, ccur⟩, cmeta⟩ := creditTarget
  simp only at hbank
  have hb : btcBankFee.amount = 0 ∨ 0 < btcBankFee.amount := by omega
  rcases hb with hb | hb <;> cases dcur <;> cases ccur <;>
    simp [entryLegs, bankFeeRows, debitRow, dealerRows, dealerConversionRows, creditRow,
        atAccount, EntryBuilder.withTotalAmount, hbank, Ne.symm hdealer, hb] <;>
    split_ifs <;> simp [atAccount, Ne.symm hdealer]

end Legs

-- ============================================================================
-- The journal of a builder chain
-- ============================================================================

/-- Every journal that `EntryBuilder(..).withTotalAmount(..).withBankFee(..)`
    followed by any debit method and any credit method writes into a fresh
    medici entry is balanced per currency, has no all-zero row, tags every row
    with the builder's external id, debits the debited account its with-fees
    amount, credits the credited account the amount net of the bank fee, and
    credits the bank owner the BTC bank fee. -/
theorem entryBuilder_journal_balanced (hops : ops.Lawful) (config : EntryBuilderConfig E)
    (hfresh : ops.transactions config.entry = [])
    (usdWithFees usdBankFee : UsdPaymentAmount) (btcWithFees btcBankFee : BtcPaymentAmount)
    (hb0 : 0 ≤ btcBankFee.amount) (hu0 : 0 ≤ usdBankFee.amount)
    (hfee : usdBankFee.amount = 0 → btcBankFee.amount = 0)
    (dm : DebitMethod) (cm : CreditMethod)
    (hbankDealer : config.staticAccountIds.bankOwnerAccountId ≠
      config.staticAccountIds.dealerBtcAccountId)
    (hcreditBank : (cm.target config.additionalInternalMetadata).1.id ≠
      config.staticAccountIds.bankOwnerAccountId)
    (hcreditDealer : (cm.target config.additionalInternalMetadata).1.id ≠
      config.staticAccountIds.dealerUsdAccountId) :
    let txns := ops.transactions (cm.call ops (dm.call ops (EntryBuilderFee.withBankFee ops
      (EntryBuilder.withTotalAmount config usdWithFees btcWithFees) btcBankFee usdBankFee)))
    let debited := (dm.target config.additionalInternalMetadata).1
    let credited := (cm.target config.additionalInternalMetadata).1
    Balanced txns ∧
      (∀ t ∈ txns, ¬(t.debit = 0 ∧ t.credit = 0)) ∧
      (∀ t ∈ txns, t.metadata.external_id = config.externalId) ∧
      total (atAccount debited.id debited.currency) (·.debit) txns =
        amountIn debited.currency btcWithFees usdWithFees ∧
      total (atAccount credited.id credited.currency) (·.credit) txns =
        amountIn credited.currency btcWithFees usdWithFees -
          amountIn credited.currency btcBankFee usdBankFee ∧
      total (atAccount config.staticAccountIds.bankOwnerAccountId .Btc) (·.credit) txns =
        btcBankFee.amount := by
  intro txns debited credited
  set legs := entryLegs config usdWithFees btcWithFees btcBankFee usdBankFee
    (dm.target config.additionalInternalMetadata) (cm.target config.additionalInternalMetadata)
  -- the journal is the legs with the zero rows removed
  have htxns : txns = legs.filter nonZero := by
    simp only [txns, transactions_chain ops hops, hfresh, List.nil_append, legs]
  refine ⟨?_, ?_, ?_, ?_, ?_, ?_⟩
  · intro cur
    rw [htxns, total_filter_nonZero_debit, total_filter_nonZero_credit]
    exact entryLegs_balanced _ _ _ _ _ _ _ hb0 hu0 hfee cur
  · intro t ht ⟨hdebit, hcredit⟩
    rw [htxns, List.mem_filter] at ht
    simp [nonZero, hdebit, hcredit] at ht
  · intro t ht
    rw [htxns, List.mem_filter] at ht
    exact entryLegs_external_id _ _ _ _ _ _ _ t ht.1
  · rw [htxns, total_filter_nonZero_debit]
    exact entryLegs_debitAccount_total _ _ _ _ _ _ _
  · rw [htxns, total_filter_nonZero_credit]
    exact entryLegs_creditAccount_total _ _ _ _ _ _ _ hcreditBank hcreditDealer
  · rw [htxns, total_filter_nonZero_credit]
    exact entryLegs_bankOwner_total _ _ _ _ _ _ _ hb0 hcreditBank hbankDealer

/-- A USD wallet paying out through Lightning with a bank fee: the USD debit, the
    dealer's conversion, the bank-fee credit and the Lightning credit. -/
theorem entryBuilder_journal_balanced_usdToLightning :
    let config : EntryBuilderConfig (List MediciTxn) :=
      ⟨⟨"bankOwner", "dealerBtc", "dealerUsd"⟩, some "ext", [], {}, {}⟩
    let txns := MediciEntryOps.ofList.transactions
      ((CreditMethod.creditOffChain).call MediciEntryOps.ofList
        ((DebitMethod.debitAccount ⟨"Liabilities:sender", .Usd⟩ none).call MediciEntryOps.ofList
          (EntryBuilderFee.withBankFee MediciEntryOps.ofList
            (EntryBuilder.withTotalAmount config ⟨102⟩ ⟨10200⟩) ⟨200⟩ ⟨2⟩)))
    Balanced txns ∧ total (atAccount "bankOwner" .Btc) (·.credit) txns = 200 :=
  let h := entryBuilder_journal_balanced MediciEntryOps.ofList MediciEntryOps.ofList_lawful
    ⟨⟨"bankOwner", "dealerBtc", "dealerUsd"⟩, some "ext", [], {}, {}⟩ rfl ⟨102⟩ ⟨2⟩ ⟨10200⟩ ⟨200⟩
    (by decide) (by decide) (by decide) (.debitAccount ⟨"Liabilities:sender", .Usd⟩ none)
    .creditOffChain (by decide) (by decide) (by decide)
  ⟨h.1, by simpa using h.2.2.2.2.2⟩

end Galoy
