/-
  Galoy.Bitcoin.IncomingTxHandler

  `IncomingOnChainTxHandler` of `domain/bitcoin/onchain/incoming-tx-handler.ts`, and
  the use case `getPendingIncomingOnChainBalanceForWallets`
  (`app/wallets/get-pending-incoming-on-chain-balance-for-wallet.ts`) that reads it.

  The handler's maps are plain objects (`Dict`) keyed by address and by wallet id.
  Their values are amounts as they run (`PaymentAmountObject`), and `calc.add` keeps
  the currency of its first argument, so each value carries the currency of the
  zero its fold starts from.  The per-address fold starts every address at
  `ZERO_SATS`; the per-wallet fold starts at the zero of the transactions'
  currency.  Per-address balances therefore always come out tagged BTC
  (`balancesByAddresses_ok`), and each wallet's balance is the sum of what its
  addresses received, in the transactions' currency (`balanceByWallet_ok`).

  `Object.keys` lists integer-like keys first.  No result here depends on the order
  of the keys, so `Dict` keeps insertion order.  A transaction is the fields the
  handler reads, a wallet its id, currency and addresses.  The repository's
  `listByWalletIds` is an argument of the use case.
-/

import Galoy.Shared.Amount
import Galoy.Lib.Dict
import Galoy.Lib.Except
import Mathlib.Algebra.BigOperators.Ring.Finset

namespace Galoy

open AmountCalculator

-- ============================================================================
-- Transactions, wallets and errors
-- ============================================================================

/-- `InitiationViaOnChain`: the address a transaction paid. -/
structure InitiationViaOnChain where
  address : String
  deriving DecidableEq, Repr

/-- The fields of a `WalletOnChainSettledTransaction` that the handler reads. -/
structure WalletOnChainSettledTransaction where
  settlementAmount : ℚ
  settlementCurrency : WalletCurrency
  initiationVia : InitiationViaOnChain
  deriving DecidableEq, Repr

/-- A `Wallet`: its id, its currency and what `onChainAddresses()` returns. -/
structure Wallet where
  id : String
  currency : WalletCurrency
  onChainAddresses : List String
  deriving DecidableEq, Repr

/-- What `listByWalletIds` returns when it fails: no record at all, or an error
    of `parseRepositoryError`. -/
inductive RepositoryError where
  | CouldNotFindWalletOnChainPendingReceiveError
  | CannotConnectToDbError
  | DbConnectionClosedError
  | InvalidDocumentIdForDbError
  | DuplicateLedgerExternalIdError
  | DuplicateKeyForPersistError
  | UnknownRepositoryError (msg : String)
  deriving DecidableEq, Repr

/-- The errors the handler and the use case return. -/
inductive IncomingTxError where
  | MultipleCurrenciesForSingleCurrencyOperationError
  | validation (e : ValidationError)
  | repository (e : RepositoryError)
  deriving DecidableEq, Repr

-- ============================================================================
-- The size of `new Set(xs)`
-- ============================================================================

section SetSize

variable {α : Type} [DecidableEq α] {l : List α}

/-- `new Set(l).size` is `1` only for a non-empty list. -/
theorem ne_nil_of_dedup_length (h : l.dedup.length = 1) : l ≠ [] := by
  rintro rfl
  simp at h

/-- `new Set(l).size` is `1` when all of a non-empty list is one value. -/
theorem dedup_length_of_forall_eq {c : α} (hl : l ≠ []) (hAll : ∀ x ∈ l, x = c) :
    l.dedup.length = 1 := by
  have hRep : l = List.replicate l.length c := List.eq_replicate_iff.mpr ⟨rfl, hAll⟩
  rw [hRep, List.replicate_dedup (mt List.length_eq_zero_iff.mp hl), List.length_singleton]

/-- Under `new Set(l).size === 1`, every value of the list is the same. -/
theorem eq_of_dedup_length (h : l.dedup.length = 1) {x y : α} (hx : x ∈ l) (hy : y ∈ l) :
    x = y := by
  obtain ⟨c, hc⟩ := List.length_eq_one_iff.mp h
  have hxc : x = c := by simpa [hc] using List.mem_dedup.mpr hx
  have hyc : y = c := by simpa [hc] using List.mem_dedup.mpr hy
  rw [hxc, hyc]

end SetSize

-- ============================================================================
-- The handler
-- ============================================================================

/-- What `IncomingOnChainTxHandler(txns)` closes over. -/
structure IncomingOnChainTxHandlerState where
  txns : List WalletOnChainSettledTransaction
  walletCurrency : WalletCurrency

/-- `IncomingOnChainTxHandler(txns)`: the transactions must have one settlement
    currency, and `txns[0]`'s becomes `walletCurrency`. -/
def IncomingOnChainTxHandler (txns : List WalletOnChainSettledTransaction) :
    Except IncomingTxError IncomingOnChainTxHandlerState :=
  let settlementCurrencies := (txns.map (·.settlementCurrency)).dedup
  if h : settlementCurrencies.length ≠ 1 then
    .error .MultipleCurrenciesForSingleCurrencyOperationError
  else
    have hNe : txns ≠ [] := by
      simpa using ne_nil_of_dedup_length (not_not.mp h)
    .ok ⟨txns, (txns.head hNe).settlementCurrency⟩

/-- `balanceFromIncomingTx`: the transaction's amount under its address. -/
def balanceFromIncomingTx (tx : WalletOnChainSettledTransaction) :
    Except IncomingTxError (Dict String PaymentAmountObject) := do
  let paymentAmount ←
    (paymentAmountFromNumber tx.settlementAmount tx.settlementCurrency).mapError .validation
  pure (Dict.singleton tx.initiationVia.address paymentAmount.toObject)

namespace IncomingOnChainTxHandler

/-- One pass of the outer loop of `balancesByAddresses`: return an invalid amount's
    error, or add each entry of `balances` to its address, starting from `ZERO_SATS`. -/
def addPendingBalances (balancesByAddress : Dict String PaymentAmountObject)
    (balances : Except IncomingTxError (Dict String PaymentAmountObject)) :
    Except IncomingTxError (Dict String PaymentAmountObject) := do
  let balances ← balances
  -- `for (const key of Object.keys(balances))`, reading `balances[key]`
  pure (balances.entries.foldl (fun balancesByAddress entry =>
      balancesByAddress.set entry.1
        (addObject ((balancesByAddress.get? entry.1).getD ZERO_SATS.toObject) entry.2))
    balancesByAddress)

/-- `balancesByAddresses()`: the first invalid amount's error, or the sum of what
    was paid to each address. -/
def balancesByAddresses (handler : IncomingOnChainTxHandlerState) :
    Except IncomingTxError (Dict String PaymentAmountObject) :=
  let pendingBalances := handler.txns.map balanceFromIncomingTx
  pendingBalances.foldlM addPendingBalances Dict.empty

/-- The zero that `balanceByWallet` starts each wallet from. -/
def walletZero (handler : IncomingOnChainTxHandlerState) : PaymentAmountObject :=
  if handler.walletCurrency = .Btc then ZERO_SATS.toObject else ZERO_CENTS.toObject

/-- The inner loop of `balanceByWallet`.  It reads and writes only
    `balancesByWallet[wallet.id]`, which it first resets to the zero, so it runs
    here on that value. -/
def walletBalance (handler : IncomingOnChainTxHandlerState)
    (balancesByAddress : Dict String PaymentAmountObject) (wallet : Wallet) :
    PaymentAmountObject :=
  balancesByAddress.entries.foldl (fun balance entry =>
      if entry.1 ∈ wallet.onChainAddresses then addObject balance entry.2 else balance)
    (walletZero handler)

/-- `balanceByWallet(wallets)`. -/
def balanceByWallet (handler : IncomingOnChainTxHandlerState) (wallets : List Wallet) :
    Except IncomingTxError (Dict String PaymentAmountObject) := do
  let balancesByAddress ← balancesByAddresses handler
  pure (wallets.foldl (fun balancesByWallet wallet =>
      balancesByWallet.set wallet.id (walletBalance handler balancesByAddress wallet))
    Dict.empty)

end IncomingOnChainTxHandler

/-- `getPendingIncomingOnChainBalanceForWallets(wallets)`.  With no pending record
    every wallet gets the zero of the wallets' one currency. -/
def getPendingIncomingOnChainBalanceForWallets
    (listByWalletIds : List String →
      Except RepositoryError (List WalletOnChainSettledTransaction))
    (wallets : List Wallet) : Except IncomingTxError (Dict String PaymentAmountObject) :=
  match listByWalletIds (wallets.map (·.id)) with
  | .error .CouldNotFindWalletOnChainPendingReceiveError =>
    let settlementCurrencies := (wallets.map (·.currency)).dedup
    if h : settlementCurrencies.length ≠ 1 then
      .error .MultipleCurrenciesForSingleCurrencyOperationError
    else
      have hNe : wallets ≠ [] := by
        simpa using ne_nil_of_dedup_length (not_not.mp h)
      let zeroAmount :=
        if (wallets.head hNe).currency = .Btc then ZERO_SATS.toObject else ZERO_CENTS.toObject
      .ok (wallets.foldl (fun balanceByWalletId wallet =>
          balanceByWalletId.set wallet.id zeroAmount) Dict.empty)
  | .error err => .error (.repository err)
  | .ok pendingIncoming => do
    let incomingTxHandler ← IncomingOnChainTxHandler pendingIncoming
    IncomingOnChainTxHandler.balanceByWallet incomingTxHandler wallets

-- ============================================================================
-- Amounts along the folds
-- ============================================================================

/-- The zero of a currency, `ZERO_SATS` or `ZERO_CENTS`, as it runs. -/
theorem zeroObject_eq (c : WalletCurrency) :
    (if c = .Btc then ZERO_SATS.toObject else ZERO_CENTS.toObject) = ⟨c, 0⟩ := by
  cases c
  · rfl
  · rfl

section Folds

variable {ι : Type} (amount : ι → PaymentAmountObject)

/-- A run of `calc.add` onto a running value keeps that value's currency and adds up
    the amounts. -/
theorem foldl_addObject (z : PaymentAmountObject) (items : List ι) (a : PaymentAmountObject) :
    items.foldl (fun v i => some (addObject (v.getD z) (amount i))) (some a) =
      some ⟨a.currency, a.amount + (items.map fun i => (amount i).amount).sum⟩ := by
  induction items generalizing a with
  | nil => simp
  | cons i rest ih =>
    rw [List.foldl_cons, Option.getD_some, ih]
    simp [addObject, add_assoc]

/-- From `undefined`, the first `calc.add` takes the currency of the default `z`. -/
theorem foldl_addObject_none (z : PaymentAmountObject) {items : List ι} (hItems : items ≠ []) :
    items.foldl (fun v i => some (addObject (v.getD z) (amount i))) none =
      some ⟨z.currency, z.amount + (items.map fun i => (amount i).amount).sum⟩ := by
  obtain ⟨i, rest, rfl⟩ := List.exists_cons_of_ne_nil hItems
  rw [List.foldl_cons, Option.getD_none, foldl_addObject]
  simp [addObject, add_assoc]

/-- The same run when only the items that `p` selects are added. -/
theorem foldl_addObject_ite (p : ι → Prop) [DecidablePred p] (items : List ι)
    (a : PaymentAmountObject) :
    items.foldl (fun v i => if p i then addObject v (amount i) else v) a =
      ⟨a.currency,
        a.amount + (items.map fun i => if p i then (amount i).amount else 0).sum⟩ := by
  induction items generalizing a with
  | nil => simp
  | cons i rest ih =>
    rw [List.foldl_cons, ih]
    by_cases hp : p i
    · simp [hp, addObject, add_assoc]
    · simp [hp]

end Folds

/-- On integer amounts, the numerators add up to the amounts' sum. -/
theorem intCast_sum_num {txns : List WalletOnChainSettledTransaction}
    (hInt : ∀ tx ∈ txns, ∃ n : ℤ, tx.settlementAmount = n) :
    (((txns.map (·.settlementAmount.num)).sum : ℤ) : ℚ) =
      (txns.map (·.settlementAmount)).sum := by
  rw [Int.cast_list_sum, List.map_map]
  refine congrArg List.sum (List.map_congr_left fun tx htx => ?_)
  obtain ⟨n, hn⟩ := hInt tx htx
  simp [hn]

-- ============================================================================
-- The handler on valid transactions
-- ============================================================================

/-- A transaction of integer amount contributes that amount under its address, in
    its own currency. -/
theorem balanceFromIncomingTx_of_int {tx : WalletOnChainSettledTransaction} {n : ℤ}
    (h : tx.settlementAmount = n) :
    balanceFromIncomingTx tx = .ok (Dict.singleton tx.initiationVia.address
      ⟨tx.settlementCurrency, tx.settlementAmount.num⟩) := by
  rw [balanceFromIncomingTx, h, paymentAmountFromNumber_intCast, Rat.num_intCast]
  rfl

/-- A non-empty list of one settlement currency `c` makes a handler of currency `c`. -/
theorem IncomingOnChainTxHandler_of_currency {txns : List WalletOnChainSettledTransaction}
    {c : WalletCurrency} (hNe : txns ≠ []) (hCur : ∀ tx ∈ txns, tx.settlementCurrency = c) :
    IncomingOnChainTxHandler txns = .ok ⟨txns, c⟩ := by
  have hSize : (txns.map (·.settlementCurrency)).dedup.length = 1 :=
    dedup_length_of_forall_eq (by simpa using hNe) (by simpa using hCur)
  obtain ⟨tx, rest, rfl⟩ := List.exists_cons_of_ne_nil hNe
  dsimp only [IncomingOnChainTxHandler]
  rw [dif_neg (not_not.mpr hSize)]
  simp [hCur tx List.mem_cons_self]

/-- What the handler accepts: a non-empty list whose transactions all settle in
    its `walletCurrency`. -/
theorem IncomingOnChainTxHandler_eq_ok {txns : List WalletOnChainSettledTransaction}
    {handler : IncomingOnChainTxHandlerState} (h : IncomingOnChainTxHandler txns = .ok handler) :
    handler.txns = txns ∧ txns ≠ [] ∧
      ∀ tx ∈ txns, tx.settlementCurrency = handler.walletCurrency := by
  dsimp only [IncomingOnChainTxHandler] at h
  split at h
  · cases h
  · rename_i hSize
    cases h
    have hNe : txns ≠ [] := by simpa using ne_nil_of_dedup_length (not_not.mp hSize)
    refine ⟨rfl, hNe, fun tx htx => ?_⟩
    exact eq_of_dedup_length (not_not.mp hSize) (List.mem_map_of_mem htx)
      (List.mem_map_of_mem (List.head_mem hNe))

namespace IncomingOnChainTxHandler

/-- What `addPendingBalances` does with a transaction of integer amount. -/
def addIncomingTx (balancesByAddress : Dict String PaymentAmountObject)
    (tx : WalletOnChainSettledTransaction) : Dict String PaymentAmountObject :=
  balancesByAddress.modify tx.initiationVia.address fun balance =>
    addObject (balance.getD ZERO_SATS.toObject) ⟨tx.settlementCurrency, tx.settlementAmount.num⟩

theorem addPendingBalances_of_int {tx : WalletOnChainSettledTransaction} {n : ℤ}
    (h : tx.settlementAmount = n) (balancesByAddress : Dict String PaymentAmountObject) :
    addPendingBalances balancesByAddress (balanceFromIncomingTx tx) =
      .ok (addIncomingTx balancesByAddress tx) := by
  rw [balanceFromIncomingTx_of_int h]
  rfl

theorem foldlM_addPendingBalances {txns : List WalletOnChainSettledTransaction}
    (hInt : ∀ tx ∈ txns, ∃ n : ℤ, tx.settlementAmount = n)
    (balancesByAddress : Dict String PaymentAmountObject) :
    (txns.map balanceFromIncomingTx).foldlM addPendingBalances balancesByAddress =
      .ok (txns.foldl addIncomingTx balancesByAddress) := by
  -- the outer loop, on the transactions, with the balances so far generalised
  induction txns generalizing balancesByAddress with
  | nil => rfl
  | cons tx rest ih =>
    obtain ⟨n, hn⟩ := hInt tx List.mem_cons_self
    have hRest : ∀ tx ∈ rest, ∃ n : ℤ, tx.settlementAmount = n :=
      fun tx' h => hInt tx' (List.mem_cons_of_mem tx h)
    rw [List.map_cons, List.foldlM_cons, addPendingBalances_of_int hn, Except.ok_bind, ih hRest,
      List.foldl_cons]

/-- `balances` holds, under each address that some transaction paid, the sum of what
    was paid to it, tagged BTC, and no other key. -/
structure Tallied (txns : List WalletOnChainSettledTransaction)
    (balances : Dict String PaymentAmountObject) : Prop where
  mem_keys : ∀ address,
    address ∈ balances.keys ↔ ∃ tx ∈ txns, tx.initiationVia.address = address
  get?_eq : ∀ address ∈ balances.keys, balances.get? address =
    some ⟨.Btc, ((txns.filter (·.initiationVia.address = address)).map
      (·.settlementAmount.num)).sum⟩

theorem tallied_foldl (txns : List WalletOnChainSettledTransaction) :
    Tallied txns (txns.foldl addIncomingTx Dict.empty) := by
  have hStep : addIncomingTx = fun balances tx => balances.modify tx.initiationVia.address
      fun balance => addObject (balance.getD ZERO_SATS.toObject)
        ⟨tx.settlementCurrency, tx.settlementAmount.num⟩ := rfl
  have hKeys : ∀ address, address ∈ (txns.foldl addIncomingTx Dict.empty).keys ↔
      ∃ tx ∈ txns, tx.initiationVia.address = address := by
    intro address
    rw [hStep, Dict.mem_keys_foldl_modify]
    simp
  refine ⟨hKeys, fun address hAddress => ?_⟩
  obtain ⟨tx, htx, hPaid⟩ := (hKeys address).mp hAddress
  have hFilter : txns.filter (·.initiationVia.address = address) ≠ [] :=
    List.ne_nil_of_mem (List.mem_filter.mpr ⟨htx, by simpa using hPaid⟩)
  rw [hStep, Dict.get?_foldl_modify, Dict.get?_empty, foldl_addObject_none _ _ hFilter]
  simp [ZERO_SATS, PaymentAmount.toObject]

/-- Summing the balances of the addresses that `p` selects gives what the
    transactions paid to those addresses. -/
theorem Tallied.sum_ite {txns : List WalletOnChainSettledTransaction}
    {balances : Dict String PaymentAmountObject} (h : Tallied txns balances)
    (p : String → Prop) [DecidablePred p] :
    (balances.entries.map fun e => if p e.1 then e.2.amount else 0).sum =
      ((txns.filter fun tx => p tx.initiationVia.address).map (·.settlementAmount.num)).sum := by
  -- each entry is its address's group of transactions
  let group := fun address : String => ((txns.filter (·.initiationVia.address = address)).map
    fun tx => if p tx.initiationVia.address then tx.settlementAmount.num else 0).sum
  have hEntry : ∀ e ∈ balances.entries, (if p e.1 then e.2.amount else 0) = group e.1 := by
    intro e he
    have hGet := h.get?_eq e.1 (List.mem_map_of_mem he)
    rw [Dict.get?_of_mem he] at hGet
    have hSame : ∀ tx ∈ txns.filter (·.initiationVia.address = e.1),
        (if p tx.initiationVia.address then tx.settlementAmount.num else 0) =
          if p e.1 then tx.settlementAmount.num else 0 := by
      intro tx htx
      have hAddress : tx.initiationVia.address = e.1 := by simpa using (List.mem_filter.mp htx).2
      rw [hAddress]
    simp only [group, List.map_congr_left hSame, Option.some.inj hGet]
    by_cases hp : p e.1
    · simp [hp]
    · simp [hp]
  have hKeys : ∀ tx ∈ txns, tx.initiationVia.address ∈ balances.keys :=
    fun tx htx => (h.mem_keys _).mpr ⟨tx, htx, rfl⟩
  calc (balances.entries.map fun e => if p e.1 then e.2.amount else 0).sum
      = (balances.keys.map group).sum := by
        rw [List.map_congr_left hEntry, Dict.keys, List.map_map]
        rfl
    _ = (txns.map fun tx =>
          if p tx.initiationVia.address then tx.settlementAmount.num else 0).sum :=
        List.sum_map_sum_filter balances.keys_nodup
          (fun tx : WalletOnChainSettledTransaction => tx.initiationVia.address) _ hKeys
    _ = ((txns.filter fun tx => p tx.initiationVia.address).map
          (·.settlementAmount.num)).sum := by
        rw [List.sum_map_ite]
        simp

/-- On integer amounts, `balancesByAddresses` is the run of `addIncomingTx`. -/
theorem balancesByAddresses_eq_foldl {handler : IncomingOnChainTxHandlerState}
    (hInt : ∀ tx ∈ handler.txns, ∃ n : ℤ, tx.settlementAmount = n) :
    balancesByAddresses handler = .ok (handler.txns.foldl addIncomingTx Dict.empty) :=
  foldlM_addPendingBalances hInt Dict.empty

/-- What `balancesByAddresses()` returns on integer amounts: under each address
    some transaction paid, the sum of what was paid to it, tagged BTC whatever the
    transactions' currency. -/
theorem balancesByAddresses_ok (handler : IncomingOnChainTxHandlerState)
    (hInt : ∀ tx ∈ handler.txns, ∃ n : ℤ, tx.settlementAmount = n) :
    ∃ balances, balancesByAddresses handler = .ok balances ∧
      (∀ address, address ∈ balances.keys ↔
        ∃ tx ∈ handler.txns, tx.initiationVia.address = address) ∧
      ∀ address ∈ balances.keys, ∃ balance, balances.get? address = some balance ∧
        balance.currency = .Btc ∧
        (balance.amount : ℚ) = ((handler.txns.filter (·.initiationVia.address = address)).map
          (·.settlementAmount)).sum := by
  have hTallied := tallied_foldl handler.txns
  refine ⟨_, balancesByAddresses_eq_foldl hInt, hTallied.mem_keys, fun address hAddress => ?_⟩
  refine ⟨_, hTallied.get?_eq address hAddress, rfl, ?_⟩
  exact intCast_sum_num fun tx htx => hInt tx (List.mem_filter.mp htx).1

/-- Five cents received on the address of a USD wallet: the address's balance is
    tagged BTC. -/
theorem usdReceipt_address_tagged_btc :
    ∃ balances, balancesByAddresses ⟨[⟨5, .Usd, ⟨"bc1qpending"⟩⟩], .Usd⟩ = .ok balances ∧
      ∃ balance, balances.get? "bc1qpending" = some balance ∧ balance.currency = .Btc := by
  obtain ⟨balances, hOk, hKeys, hAddress⟩ :=
    balancesByAddresses_ok ⟨[⟨5, .Usd, ⟨"bc1qpending"⟩⟩], .Usd⟩ (by simpa using ⟨5, rfl⟩)
  obtain ⟨balance, hGet, hBtc, -⟩ :=
    hAddress "bc1qpending" ((hKeys _).mpr ⟨_, List.mem_cons_self, rfl⟩)
  exact ⟨balances, hOk, balance, hGet, hBtc⟩

theorem walletZero_eq (handler : IncomingOnChainTxHandlerState) :
    walletZero handler = ⟨handler.walletCurrency, 0⟩ :=
  zeroObject_eq handler.walletCurrency

/-- A wallet's balance: the sum of the balances of its addresses, in the handler's
    currency. -/
theorem walletBalance_eq (handler : IncomingOnChainTxHandlerState)
    (balancesByAddress : Dict String PaymentAmountObject) (wallet : Wallet) :
    walletBalance handler balancesByAddress wallet =
      ⟨handler.walletCurrency, (balancesByAddress.entries.map fun e =>
        if e.1 ∈ wallet.onChainAddresses then e.2.amount else 0).sum⟩ := by
  rw [walletBalance, foldl_addObject_ite, walletZero_eq, zero_add]

/-- What `balanceByWallet(wallets)` returns on integer amounts: each wallet's entry
    is what the transactions paid to its addresses, in the handler's currency.
    Wallets that share an id are one wallet, with one list of addresses. -/
theorem balanceByWallet_ok (handler : IncomingOnChainTxHandlerState) (wallets : List Wallet)
    (hInt : ∀ tx ∈ handler.txns, ∃ n : ℤ, tx.settlementAmount = n)
    (hIds : ∀ w ∈ wallets, ∀ w' ∈ wallets, w.id = w'.id →
      w.onChainAddresses = w'.onChainAddresses) :
    ∃ balances, balanceByWallet handler wallets = .ok balances ∧
      (∀ id, id ∈ balances.keys ↔ ∃ w ∈ wallets, w.id = id) ∧
      ∀ w ∈ wallets, ∃ balance, balances.get? w.id = some balance ∧
        balance.currency = handler.walletCurrency ∧
        (balance.amount : ℚ) = ((handler.txns.filter
          (·.initiationVia.address ∈ w.onChainAddresses)).map (·.settlementAmount)).sum := by
  let balancesByAddress := handler.txns.foldl addIncomingTx Dict.empty
  have hTallied : Tallied handler.txns balancesByAddress := tallied_foldl handler.txns
  refine ⟨_, by rw [balanceByWallet, balancesByAddresses_eq_foldl hInt]; rfl, fun id => ?_,
    fun w hw => ?_⟩
  · rw [Dict.mem_keys_foldl_set]
    simp
  · -- every wallet of `w`'s id has `w`'s addresses, so writes `w`'s balance
    have hSameId : ∀ w' ∈ wallets, w'.id = w.id →
        walletBalance handler balancesByAddress w' = walletBalance handler balancesByAddress w := by
      intro w' hw' hId
      rw [walletBalance_eq, walletBalance_eq, hIds w' hw' w hw hId]
    refine ⟨_, Dict.get?_foldl_set (·.id) _ ⟨w, hw, rfl⟩ hSameId _, ?_, ?_⟩
    · rw [walletBalance_eq]
    · rw [walletBalance_eq, hTallied.sum_ite]
      exact intCast_sum_num fun tx htx => hInt tx (List.mem_filter.mp htx).1

end IncomingOnChainTxHandler

-- ============================================================================
-- The use case
-- ============================================================================

/-- With pending records of one currency `c` and integer amounts, each wallet gets
    what the records paid to its addresses, in `c`. -/
theorem getPendingIncomingOnChainBalanceForWallets_ok
    (listByWalletIds : List String →
      Except RepositoryError (List WalletOnChainSettledTransaction))
    (wallets : List Wallet) {pendingIncoming : List WalletOnChainSettledTransaction}
    {c : WalletCurrency} (hList : listByWalletIds (wallets.map (·.id)) = .ok pendingIncoming)
    (hNe : pendingIncoming ≠ []) (hCur : ∀ tx ∈ pendingIncoming, tx.settlementCurrency = c)
    (hInt : ∀ tx ∈ pendingIncoming, ∃ n : ℤ, tx.settlementAmount = n)
    (hIds : ∀ w ∈ wallets, ∀ w' ∈ wallets, w.id = w'.id →
      w.onChainAddresses = w'.onChainAddresses) :
    ∃ balances, getPendingIncomingOnChainBalanceForWallets listByWalletIds wallets =
        .ok balances ∧
      (∀ id, id ∈ balances.keys ↔ ∃ w ∈ wallets, w.id = id) ∧
      ∀ w ∈ wallets, ∃ balance, balances.get? w.id = some balance ∧ balance.currency = c ∧
        (balance.amount : ℚ) = ((pendingIncoming.filter
          (·.initiationVia.address ∈ w.onChainAddresses)).map (·.settlementAmount)).sum := by
  rw [getPendingIncomingOnChainBalanceForWallets, hList]
  dsimp only
  rw [IncomingOnChainTxHandler_of_currency hNe hCur, Except.ok_bind]
  exact IncomingOnChainTxHandler.balanceByWallet_ok ⟨pendingIncoming, c⟩ wallets hInt hIds

/-- With no pending record, each of a non-empty list of wallets of one currency `c`
    gets the zero of `c`. -/
theorem getPendingIncomingOnChainBalanceForWallets_notFound
    (listByWalletIds : List String →
      Except RepositoryError (List WalletOnChainSettledTransaction))
    {wallets : List Wallet} {c : WalletCurrency}
    (hList : listByWalletIds (wallets.map (·.id)) =
      .error .CouldNotFindWalletOnChainPendingReceiveError)
    (hNe : wallets ≠ []) (hCur : ∀ w ∈ wallets, w.currency = c) :
    ∃ balances, getPendingIncomingOnChainBalanceForWallets listByWalletIds wallets =
        .ok balances ∧
      (∀ id, id ∈ balances.keys ↔ ∃ w ∈ wallets, w.id = id) ∧
      ∀ w ∈ wallets, balances.get? w.id = some ⟨c, 0⟩ := by
  have hSize : (wallets.map (·.currency)).dedup.length = 1 :=
    dedup_length_of_forall_eq (by simpa using hNe) (by simpa using hCur)
  obtain ⟨w0, rest, rfl⟩ := List.exists_cons_of_ne_nil hNe
  rw [getPendingIncomingOnChainBalanceForWallets, hList]
  dsimp only
  rw [dif_neg (not_not.mpr hSize), List.head_cons, hCur w0 List.mem_cons_self, zeroObject_eq]
  refine ⟨_, rfl, fun id => ?_, fun w hw => ?_⟩
  · rw [Dict.mem_keys_foldl_set]
    simp
  · exact Dict.get?_foldl_set (fun w : Wallet => w.id)
      (fun _ => (⟨c, 0⟩ : PaymentAmountObject)) ⟨w, hw, rfl⟩ (fun _ _ _ => rfl) _

/-- What the use case returns for wallets of one currency `c`, each id with one
    list of addresses.  A listing of pending receipts, all in `c` with integer
    amounts, gives each wallet what they paid to its addresses, in `c`; no
    pending record gives each wallet the zero of `c`; and a listing the use case
    answers is non-empty and in one currency. -/
theorem getPendingIncomingOnChainBalanceForWallets_balances
    (listByWalletIds : List String →
      Except RepositoryError (List WalletOnChainSettledTransaction))
    (wallets : List Wallet) (c : WalletCurrency) (hWallets : ∀ w ∈ wallets, w.currency = c)
    (hIds : ∀ w ∈ wallets, ∀ w' ∈ wallets, w.id = w'.id →
      w.onChainAddresses = w'.onChainAddresses) :
    (∀ pendingIncoming, listByWalletIds (wallets.map (·.id)) = .ok pendingIncoming →
      pendingIncoming ≠ [] → (∀ tx ∈ pendingIncoming, tx.settlementCurrency = c) →
      (∀ tx ∈ pendingIncoming, ∃ n : ℤ, tx.settlementAmount = n) →
      ∃ balances, getPendingIncomingOnChainBalanceForWallets listByWalletIds wallets =
          .ok balances ∧
        (∀ id, id ∈ balances.keys ↔ ∃ w ∈ wallets, w.id = id) ∧
        ∀ w ∈ wallets, ∃ balance, balances.get? w.id = some balance ∧ balance.currency = c ∧
          (balance.amount : ℚ) = ((pendingIncoming.filter
            (·.initiationVia.address ∈ w.onChainAddresses)).map (·.settlementAmount)).sum) ∧
    (listByWalletIds (wallets.map (·.id)) =
        .error .CouldNotFindWalletOnChainPendingReceiveError → wallets ≠ [] →
      ∃ balances, getPendingIncomingOnChainBalanceForWallets listByWalletIds wallets =
          .ok balances ∧
        (∀ id, id ∈ balances.keys ↔ ∃ w ∈ wallets, w.id = id) ∧
        ∀ w ∈ wallets, balances.get? w.id = some ⟨c, 0⟩) ∧
    (∀ pendingIncoming balances, listByWalletIds (wallets.map (·.id)) = .ok pendingIncoming →
      getPendingIncomingOnChainBalanceForWallets listByWalletIds wallets = .ok balances →
      pendingIncoming ≠ [] ∧ ∃ c', ∀ tx ∈ pendingIncoming, tx.settlementCurrency = c') := by
  refine ⟨fun _ hList hNe hCur hInt =>
      getPendingIncomingOnChainBalanceForWallets_ok listByWalletIds wallets hList hNe hCur hInt hIds,
    fun hList hNe => getPendingIncomingOnChainBalanceForWallets_notFound listByWalletIds hList hNe
      hWallets,
    fun pendingIncoming balances hList hOk => ?_⟩
  -- the listing went through the handler, which accepts one currency only
  rw [getPendingIncomingOnChainBalanceForWallets, hList] at hOk
  obtain ⟨handler, hHandler, -⟩ := Except.bind_eq_ok hOk
  obtain ⟨-, hNe, hCur⟩ := IncomingOnChainTxHandler_eq_ok hHandler
  exact ⟨hNe, handler.walletCurrency, hCur⟩

/-- Five cents pending to the address of a USD wallet: the wallet's balance is
    five cents. -/
theorem usdWallet_pending_balance :
    ∃ balances, getPendingIncomingOnChainBalanceForWallets
        (fun _ => .ok [⟨5, .Usd, ⟨"bc1qpending"⟩⟩]) [⟨"usd-wallet", .Usd, ["bc1qpending"]⟩] =
        .ok balances ∧
      ∃ balance, balances.get? "usd-wallet" = some balance ∧ balance.currency = .Usd ∧
        (balance.amount : ℚ) = 5 := by
  obtain ⟨balances, hOk, -, hWallet⟩ := (getPendingIncomingOnChainBalanceForWallets_balances
    (fun _ => .ok [⟨5, .Usd, ⟨"bc1qpending"⟩⟩]) [⟨"usd-wallet", .Usd, ["bc1qpending"]⟩] .Usd
    (by simp) (by simp)).1 _ rfl (by simp) (by simp) (by simpa using ⟨5, rfl⟩)
  obtain ⟨balance, hGet, hUsd, hAmount⟩ := hWallet _ List.mem_cons_self
  exact ⟨balances, hOk, balance, hGet, hUsd, by simpa using hAmount⟩

/-- One pending receipt of 5 cents to the address of a USD wallet: the wallet's
    balance is 5 cents, but the address's balance is 5 tagged BTC. -/
theorem balancesByAddresses_usd_tagged_btc :
    (IncomingOnChainTxHandler [⟨5, .Usd, ⟨"bc1qpending"⟩⟩]).map (·.walletCurrency) =
        .ok .Usd ∧
      ((IncomingOnChainTxHandler [⟨5, .Usd, ⟨"bc1qpending"⟩⟩] >>=
          IncomingOnChainTxHandler.balancesByAddresses).map (·.get? "bc1qpending")) =
        .ok (some ⟨.Btc, 5⟩) ∧
      ((IncomingOnChainTxHandler [⟨5, .Usd, ⟨"bc1qpending"⟩⟩] >>=
          (IncomingOnChainTxHandler.balanceByWallet ·
            [⟨"usd-wallet", .Usd, ["bc1qpending"]⟩])).map (·.get? "usd-wallet")) =
        .ok (some ⟨.Usd, 5⟩) :=
  ⟨rfl, rfl, rfl⟩

end Galoy
