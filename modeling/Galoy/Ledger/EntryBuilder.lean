/-
  Galoy.Ledger.EntryBuilder

  The staged journal builder of `services/ledger/domain/entry-builder.ts`:

    EntryBuilder(config).withTotalAmount(..).withBankFee(..).debitX(..).creditY(..)

  Each stage of the source is a closure over the previous stage's arguments
  and the one mutable medici `entry`; here each stage is a state record that
  extends the previous one, and the entry is threaded through the medici
  operations `ops`.  The ledger account descriptors of `accounts.ts` and
  `toLedgerAccountDescriptor` of `services/ledger/domain/index.ts` come first.

  Each stage has a spec lemma saying which transactions it appends; the final
  `creditAccount` drops the rows whose two sides are zero
  (`removeZeroAmountEntries`).
-/

import Galoy.Ledger.Medici

namespace Galoy

-- ============================================================================
-- Ledger accounts
-- ============================================================================

structure LedgerAccountDescriptor where
  id : String
  currency : WalletCurrency
  deriving DecidableEq, Repr

/-- The wallet fields the ledger needs: `WalletDescriptor<T>`. -/
structure WalletDescriptor where
  id : String
  currency : WalletCurrency
  accountId : String
  deriving DecidableEq, Repr

def assetsMainAccount : String := "Assets"
def lndLedgerAccountId : String := assetsMainAccount ++ ":Reserve:Lightning"
def onChainLedgerAccountId : String := assetsMainAccount ++ ":OnChain"
def coldStorageAccountId : String := assetsMainAccount ++ ":Reserve:Bitcoind"

def lndLedgerAccountDescriptor : LedgerAccountDescriptor := ⟨lndLedgerAccountId, .Btc⟩
def onChainLedgerAccountDescriptor : LedgerAccountDescriptor := ⟨onChainLedgerAccountId, .Btc⟩
def coldStorageAccountDescriptor : LedgerAccountDescriptor := ⟨coldStorageAccountId, .Btc⟩

def liabilitiesMainAccount : String := "Liabilities"

def toLedgerAccountId (walletId : String) : String := liabilitiesMainAccount ++ ":" ++ walletId

def toLedgerAccountDescriptor (walletDescriptor : WalletDescriptor) : LedgerAccountDescriptor :=
  ⟨toLedgerAccountId walletDescriptor.id, walletDescriptor.currency⟩

/-- The bank's own ledger accounts (`staticAccountIds`). -/
structure StaticAccountIds where
  bankOwnerAccountId : String
  dealerBtcAccountId : String
  dealerUsdAccountId : String
  deriving DecidableEq, Repr

-- ============================================================================
-- Builder stages
-- ============================================================================

structure EntryBuilderConfig (E : Type) where
  staticAccountIds : StaticAccountIds
  externalId : Option String
  entry : E
  metadata : TxMetadata
  additionalInternalMetadata : TxMetadata

structure EntryBuilderFeeState (E : Type) extends EntryBuilderConfig E where
  usdWithFees : UsdPaymentAmount
  btcWithFees : BtcPaymentAmount

structure EntryBuilderDebitState (E : Type) extends EntryBuilderFeeState E where
  btcBankFee : BtcPaymentAmount
  usdBankFee : UsdPaymentAmount

structure EntryBuilderCreditState (E : Type) extends EntryBuilderDebitState E where
  debitCurrency : WalletCurrency

variable {E : Type} (ops : MediciEntryOps E)

/-- The literal `{ ...base, currency, external_id: externalId }`. -/
def withCurrency (base : TxMetadata) (currency : WalletCurrency) (externalId : Option String) :
    TxMetadata :=
  { base with currency := some currency, external_id := externalId }

def EntryBuilder.withTotalAmount (config : EntryBuilderConfig E)
    (usdWithFees : UsdPaymentAmount) (btcWithFees : BtcPaymentAmount) : EntryBuilderFeeState E :=
  { config with usdWithFees, btcWithFees }

/-- `withBankFee`: credit the bank owner the BTC bank fee, when it is positive. -/
def EntryBuilderFee.withBankFee (st : EntryBuilderFeeState E)
    (btcBankFee : BtcPaymentAmount) (usdBankFee : UsdPaymentAmount) : EntryBuilderDebitState E :=
  let entry :=
    if btcBankFee.amount > 0 then
      ops.credit st.entry st.staticAccountIds.bankOwnerAccountId (btcBankFee.amount : ℚ)
        (withCurrency (st.metadata.spread st.additionalInternalMetadata) btcBankFee.currency
          st.externalId)
    else st.entry
  { st with entry, btcBankFee, usdBankFee }

/-- `debitAccount`: debit the account the with-fees amount of its own currency. -/
def EntryBuilderDebit.debitAccount (st : EntryBuilderDebitState E)
    (accountDescriptor : LedgerAccountDescriptor) (additionalMetadata : Option TxMetadata) :
    EntryBuilderCreditState E :=
  let debitMetadata := st.metadata.spreadOpt additionalMetadata
  let entry :=
    if accountDescriptor.currency = .Btc then
      ops.debit st.entry accountDescriptor.id (st.btcWithFees.amount : ℚ)
        (withCurrency debitMetadata st.btcWithFees.currency st.externalId)
    else
      ops.debit st.entry accountDescriptor.id (st.usdWithFees.amount : ℚ)
        (withCurrency debitMetadata st.usdWithFees.currency st.externalId)
  { st with entry, debitCurrency := accountDescriptor.currency }

def EntryBuilderDebit.debitOffChain (st : EntryBuilderDebitState E) : EntryBuilderCreditState E :=
  EntryBuilderDebit.debitAccount ops st lndLedgerAccountDescriptor (some st.additionalInternalMetadata)

def EntryBuilderDebit.debitOnChain (st : EntryBuilderDebitState E) : EntryBuilderCreditState E :=
  EntryBuilderDebit.debitAccount ops st onChainLedgerAccountDescriptor
    (some st.additionalInternalMetadata)

def EntryBuilderDebit.debitColdStorage (st : EntryBuilderDebitState E) :
    EntryBuilderCreditState E :=
  EntryBuilderDebit.debitAccount ops st coldStorageAccountDescriptor
    (some st.additionalInternalMetadata)

/-- The dealer buys BTC: debit its BTC account, credit its USD account. -/
def addUsdToBtcConversionToDealer (st : EntryBuilderCreditState E)
    (btcAmount : BtcPaymentAmount) (usdAmount : UsdPaymentAmount) : E :=
  let dealerMetadata := st.metadata.spread st.additionalInternalMetadata
  let entry := ops.debit st.entry st.staticAccountIds.dealerBtcAccountId (btcAmount.amount : ℚ)
    (withCurrency dealerMetadata btcAmount.currency st.externalId)
  ops.credit entry st.staticAccountIds.dealerUsdAccountId (usdAmount.amount : ℚ)
    (withCurrency dealerMetadata usdAmount.currency st.externalId)

/-- The dealer sells BTC: credit its BTC account, debit its USD account. -/
def addBtcToUsdConversionToDealer (st : EntryBuilderCreditState E)
    (btcAmount : BtcPaymentAmount) (usdAmount : UsdPaymentAmount) : E :=
  let dealerMetadata := st.metadata.spread st.additionalInternalMetadata
  let entry := ops.credit st.entry st.staticAccountIds.dealerBtcAccountId (btcAmount.amount : ℚ)
    (withCurrency dealerMetadata btcAmount.currency st.externalId)
  ops.debit entry st.staticAccountIds.dealerUsdAccountId (usdAmount.amount : ℚ)
    (withCurrency dealerMetadata usdAmount.currency st.externalId)

/-- The four-way `switch (true)` of `addDealerDebitsAndCredits`. -/
def EntryBuilderCredit.addDealerDebitsAndCredits (st : EntryBuilderCreditState E)
    (accountDescriptor : LedgerAccountDescriptor) : E :=
  if st.debitCurrency = .Usd ∧ accountDescriptor.currency = .Usd ∧ st.usdBankFee.amount > 0 then
    addUsdToBtcConversionToDealer ops st st.btcBankFee st.usdBankFee
  else if st.debitCurrency = .Usd ∧ accountDescriptor.currency = .Btc then
    addUsdToBtcConversionToDealer ops st st.btcWithFees st.usdWithFees
  else if st.debitCurrency = .Btc ∧ accountDescriptor.currency = .Usd then
    addBtcToUsdConversionToDealer ops st (AmountCalculator.sub st.btcWithFees st.btcBankFee)
      (AmountCalculator.sub st.usdWithFees st.usdBankFee)
  else st.entry

/-- `removeZeroAmountEntries`: keep the transactions with a non-zero side. -/
def removeZeroAmountEntries (entry : E) : E :=
  ops.setTransactions entry
    ((ops.transactions entry).filter fun txn => !(txn.debit = 0 && txn.credit = 0))

/-- `creditAccount`: the dealer legs, then the credit of the amount net of the
    bank fee in the account's currency, then the zero-row filter. -/
def EntryBuilderCredit.creditAccount (st : EntryBuilderCreditState E)
    (accountDescriptor : LedgerAccountDescriptor) (additionalMetadata : Option TxMetadata) : E :=
  let updatedEntry := EntryBuilderCredit.addDealerDebitsAndCredits ops st accountDescriptor
  let usdWithOutFee := AmountCalculator.sub st.usdWithFees st.usdBankFee
  let btcWithOutFee := AmountCalculator.sub st.btcWithFees st.btcBankFee
  let creditMetadata := st.metadata.spreadOpt additionalMetadata
  let entry :=
    if accountDescriptor.currency = .Usd then
      ops.credit updatedEntry accountDescriptor.id (usdWithOutFee.amount : ℚ)
        (withCurrency creditMetadata usdWithOutFee.currency st.externalId)
    else
      ops.credit updatedEntry accountDescriptor.id (btcWithOutFee.amount : ℚ)
        (withCurrency creditMetadata btcWithOutFee.currency st.externalId)
  removeZeroAmountEntries ops entry

def EntryBuilderCredit.creditOffChain (st : EntryBuilderCreditState E) : E :=
  EntryBuilderCredit.creditAccount ops st lndLedgerAccountDescriptor
    (some st.additionalInternalMetadata)

def EntryBuilderCredit.creditOnChain (st : EntryBuilderCreditState E) : E :=
  EntryBuilderCredit.creditAccount ops st onChainLedgerAccountDescriptor
    (some st.additionalInternalMetadata)

def EntryBuilderCredit.creditColdStorage (st : EntryBuilderCreditState E) : E :=
  EntryBuilderCredit.creditAccount ops st coldStorageAccountDescriptor
    (some st.additionalInternalMetadata)

-- ============================================================================
-- The builder's methods, enumerated
-- ============================================================================

/-- The four debit methods of `EntryBuilderDebit`. -/
inductive DebitMethod where
  | debitAccount (accountDescriptor : LedgerAccountDescriptor)
      (additionalMetadata : Option TxMetadata)
  | debitOffChain
  | debitOnChain
  | debitColdStorage
  deriving DecidableEq, Repr

/-- The four credit methods of `EntryBuilderCredit`. -/
inductive CreditMethod where
  | creditAccount (accountDescriptor : LedgerAccountDescriptor)
      (additionalMetadata : Option TxMetadata)
  | creditOffChain
  | creditOnChain
  | creditColdStorage
  deriving DecidableEq, Repr

/-- Call the chosen debit method. -/
def DebitMethod.call (st : EntryBuilderDebitState E) : DebitMethod → EntryBuilderCreditState E
  | .debitAccount d m => EntryBuilderDebit.debitAccount ops st d m
  | .debitOffChain => EntryBuilderDebit.debitOffChain ops st
  | .debitOnChain => EntryBuilderDebit.debitOnChain ops st
  | .debitColdStorage => EntryBuilderDebit.debitColdStorage ops st

/-- Call the chosen credit method. -/
def CreditMethod.call (st : EntryBuilderCreditState E) : CreditMethod → E
  | .creditAccount d m => EntryBuilderCredit.creditAccount ops st d m
  | .creditOffChain => EntryBuilderCredit.creditOffChain ops st
  | .creditOnChain => EntryBuilderCredit.creditOnChain ops st
  | .creditColdStorage => EntryBuilderCredit.creditColdStorage ops st

/-- The account and extra metadata a debit method passes to `debitAccount`. -/
def DebitMethod.target (internal : TxMetadata) :
    DebitMethod → LedgerAccountDescriptor × Option TxMetadata
  | .debitAccount d m => (d, m)
  | .debitOffChain => (lndLedgerAccountDescriptor, some internal)
  | .debitOnChain => (onChainLedgerAccountDescriptor, some internal)
  | .debitColdStorage => (coldStorageAccountDescriptor, some internal)

/-- The account and extra metadata a credit method passes to `creditAccount`. -/
def CreditMethod.target (internal : TxMetadata) :
    CreditMethod → LedgerAccountDescriptor × Option TxMetadata
  | .creditAccount d m => (d, m)
  | .creditOffChain => (lndLedgerAccountDescriptor, some internal)
  | .creditOnChain => (onChainLedgerAccountDescriptor, some internal)
  | .creditColdStorage => (coldStorageAccountDescriptor, some internal)

theorem DebitMethod.call_eq (st : EntryBuilderDebitState E) (dm : DebitMethod) :
    dm.call ops st =
      EntryBuilderDebit.debitAccount ops st (dm.target st.additionalInternalMetadata).1
        (dm.target st.additionalInternalMetadata).2 := by
  cases dm <;> rfl

theorem CreditMethod.call_eq (st : EntryBuilderCreditState E) (cm : CreditMethod) :
    cm.call ops st =
      EntryBuilderCredit.creditAccount ops st (cm.target st.additionalInternalMetadata).1
        (cm.target st.additionalInternalMetadata).2 := by
  cases cm <;> rfl

end Galoy
