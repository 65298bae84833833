/-
  Galoy.Payments.LockedSend

  Concurrent sends from end-user wallets under the wallet lock
  (`app/payments/send-lightning.ts`, `app/payments/send-intraledger.ts`,
  `app/payments/send-on-chain.ts`, `services/lock`).

  Each send takes the steps of its app code: the account limit check, then
  inside `LockService().lockWalletId(senderWalletId)` a balance read,
  `checkBalanceForSend`, the `signal.aborted` check and the ledger debit.  The
  three paths share the steps and differ in the debit.  Any await in between
  may fail, which ends the send and releases the lock.
  Receipts, reverts and reimbursements are credits of a non-negative amount.

  The lock is a redlock lease: exclusive while it lasts, but it can be lost at
  any moment, and its holder learns so only through `signal.aborted`.  A lease
  lost after that check and before the debit lets a second send read the
  balance the first is about to debit, and both debits go through
  (`balance_negative_of_lease_lost`).  When no lease is lost in that gap
  (`Wallets.nextHeld`), the invariant `Wallets.Safe` holds along every
  interleaving, and no balance becomes negative.
-/

import Galoy.Lib.Transition
import Galoy.Ledger.EntryBalance
import Galoy.Payments.PaymentFlow

namespace Galoy

open Transition AmountCalculator

-- ============================================================================
-- What a send debits
-- ============================================================================

/-- The send paths that debit an end-user wallet. -/
inductive SendPath where
  /-- `recordIntraledger` debits the payment amount. -/
  | intraLedger
  /-- `recordSendOffChain` debits `totalAmountsForPayment`. -/
  | lightning
  /-- `recordSendOnChain` debits the amount plus `btcProtocolAndBankFee`, or their
      USD counterparts, as `lockedPaymentViaOnChainSteps` adds them up. -/
  | onChain
  deriving DecidableEq, Repr

namespace SendPath

/-- The debit of the sender's wallet, in the sender's currency. -/
def debit : SendPath → PaymentFlowCommonState → ℤ
  | .intraLedger, flow =>
    amountIn flow.senderWalletCurrency flow.btcPaymentAmount flow.usdPaymentAmount
  | .lightning, flow =>
    amountIn flow.senderWalletCurrency flow.totalAmountsForPayment.btc
      flow.totalAmountsForPayment.usd
  | .onChain, flow =>
    amountIn flow.senderWalletCurrency
      ⟨flow.btcPaymentAmount.amount + flow.btcProtocolAndBankFee.amount⟩
      ⟨flow.usdPaymentAmount.amount + flow.usdProtocolAndBankFee.amount⟩

/-- The flows a path sends: an intraledger flow carries the zero fee of the
    builder's intraledger flows, and so no negative one. -/
def admits : SendPath → PaymentFlowCommonState → Bool
  | .intraLedger, flow => decide (0 ≤ flow.protocolAndBankFeeInSenderWalletCurrency)
  | .lightning, _ => true
  | .onChain, _ => true

/-- What a path debits is at most what `checkBalanceForSend` checks. -/
theorem debit_le_checked {path : SendPath} {flow : PaymentFlowCommonState}
    (h : path.admits flow = true) :
    path.debit flow ≤
      (if flow.senderWalletCurrency = .Btc then
        (add flow.btcPaymentAmount flow.btcProtocolAndBankFee).amount
        else (add flow.usdPaymentAmount flow.usdProtocolAndBankFee).amount) := by
  cases path with
  | intraLedger =>
    have hFee : 0 ≤ flow.protocolAndBankFeeInSenderWalletCurrency := by simpa [admits] using h
    cases hc : flow.senderWalletCurrency with
    | Btc =>
      simp only [PaymentFlowCommonState.protocolAndBankFeeInSenderWalletCurrency, hc,
        if_true] at hFee
      simp [debit, hc, add_amount]
      omega
    | Usd =>
      simp only [PaymentFlowCommonState.protocolAndBankFeeInSenderWalletCurrency, hc, reduceCtorEq,
        if_false] at hFee
      simp [debit, hc, add_amount]
      omega
  | lightning =>
    cases hc : flow.senderWalletCurrency with
    | Btc => simp [debit, hc, PaymentFlowCommonState.totalAmountsForPayment]
    | Usd => simp [debit, hc, PaymentFlowCommonState.totalAmountsForPayment]
  | onChain =>
    cases hc : flow.senderWalletCurrency with
    | Btc => simp [debit, hc, add_amount]
    | Usd => simp [debit, hc, add_amount]

end SendPath

-- ============================================================================
-- Sends, leases and balances
-- ============================================================================

/-- Where a send stands in `lockedPaymentVia*Steps`. -/
inductive SendStep where
  | started
  /-- passed the account limit check, waiting for the wallet lock -/
  | limitChecked
  | locked
  | balanceRead (balance : ℤ)
  | balanceChecked (balance : ℤ)
  /-- found `signal.aborted` false -/
  | notAborted
  | finished
  deriving DecidableEq, Repr

namespace SendStep

/-- The steps taken inside the wallet lock. -/
def holdsLease : SendStep → Bool
  | .locked | .balanceRead _ | .balanceChecked _ | .notAborted => true
  | _ => false

/-- What a send inside the lock knows about its wallet's balance. -/
def Covered (debit balance : ℤ) : SendStep → Prop
  | .balanceRead b => b ≤ balance
  | .balanceChecked b => debit ≤ b ∧ b ≤ balance
  | .notAborted => debit ≤ balance
  | _ => True

theorem Covered.mono {debit balance balance' : ℤ} {step : SendStep}
    (h : step.Covered debit balance) (hle : balance ≤ balance') :
    step.Covered debit balance' := by
  cases step with
  | balanceRead b =>
    simp only [Covered] at h ⊢
    omega
  | balanceChecked b =>
    simp only [Covered] at h ⊢
    omega
  | notAborted =>
    simp only [Covered] at h ⊢
    omega
  | started | limitChecked | locked | finished => trivial

/-- The steps between the limit check and the end of a send. -/
def inFlight : SendStep → Bool
  | .started | .finished => false
  | _ => true

theorem covered_of_not_holdsLease {debit balance : ℤ} {step : SendStep}
    (h : step.holdsLease = false) : step.Covered debit balance := by
  cases step <;> simp_all [holdsLease, Covered]

end SendStep

/-- A send in progress. -/
structure WalletSend where
  path : SendPath
  flow : PaymentFlowCommonState
  step : SendStep
  /-- `signal.aborted` of the lease the send holds -/
  aborted : Bool
  deriving DecidableEq, Repr

/-- The wallet a send debits. -/
def WalletSend.walletId (r : WalletSend) : String := r.flow.senderWalletId

/-- End-user wallet balances, the wallet leases and the sends started so far. -/
structure Wallets where
  balance : String → ℤ
  holder : String → Option ℕ
  sends : ℕ → Option WalletSend

/-- The steps of one send. -/
inductive SendAction where
  | limitCheck (pass : Bool)
  | acquire
  | readBalance
  | checkBalance
  | checkAborted
  | debit
  /-- an await returned an error -/
  | fail
  deriving DecidableEq, Repr

inductive WalletsAction where
  | start (i : ℕ) (path : SendPath) (flow : PaymentFlowCommonState)
  | send (i : ℕ) (a : SendAction)
  /-- the lease on a wallet is lost -/
  | expire (walletId : String)
  | credit (walletId : String) (amount : ℤ)
  deriving DecidableEq, Repr

namespace Wallets

/-- No leases and no sends. -/
def initial (balance : String → ℤ) : Wallets := ⟨balance, fun _ => none, fun _ => none⟩

def setSend (s : Wallets) (i : ℕ) (r : WalletSend) : Wallets :=
  { s with sends := Function.update s.sends i (some r) }

/-- Redlock deletes a lease only while it is still the caller's. -/
def release (s : Wallets) (walletId : String) (i : ℕ) : Wallets :=
  if s.holder walletId = some i then { s with holder := Function.update s.holder walletId none }
  else s

/-- The ledger debit of a wallet. -/
def withdraw (s : Wallets) (walletId : String) (amount : ℤ) : Wallets :=
  { s with balance := Function.update s.balance walletId (s.balance walletId - amount) }

/-- The ledger credit of a wallet. -/
def deposit (s : Wallets) (walletId : String) (amount : ℤ) : Wallets :=
  { s with balance := Function.update s.balance walletId (s.balance walletId + amount) }

/-- End send `i`, releasing its lease. -/
def finish (s : Wallets) (i : ℕ) (r : WalletSend) : Wallets :=
  (s.setSend i { r with step := .finished }).release r.walletId i

/-- One step of send `i`, in the state `r`. -/
def sendStep (s : Wallets) (i : ℕ) (r : WalletSend) : SendAction → Option Wallets
  | .limitCheck pass =>
    if r.step = .started then
      some (s.setSend i { r with step := if pass then .limitChecked else .finished })
    else none
  | .acquire =>
    if r.step = .limitChecked ∧ s.holder r.walletId = none then
      some { s.setSend i { r with step := .locked } with
        holder := Function.update s.holder r.walletId (some i) }
    else none
  | .readBalance =>
    if r.step = .locked then
      some (s.setSend i { r with step := .balanceRead (s.balance r.walletId) })
    else none
  | .checkBalance =>
    match r.step with
    | .balanceRead b =>
      match r.flow.checkBalanceForSend r.flow.senderWalletCurrency b with
      | .ok _ => some (s.setSend i { r with step := .balanceChecked b })
      | .error _ => some (s.finish i r)
    | _ => none
  | .checkAborted =>
    match r.step with
    | .balanceChecked _ =>
      if r.aborted then some (s.finish i r) else some (s.setSend i { r with step := .notAborted })
    | _ => none
  | .debit =>
    if r.step = .notAborted then some ((s.withdraw r.walletId (r.path.debit r.flow)).finish i r)
    else none
  | .fail => if r.step = .finished then none else some (s.finish i r)

def next (s : Wallets) : WalletsAction → Option Wallets
  | .start i path flow =>
    if s.sends i = none ∧ path.admits flow = true then
      some (s.setSend i ⟨path, flow, .started, false⟩)
    else none
  | .send i a => (s.sends i).bind fun r => s.sendStep i r a
  | .expire walletId =>
    (s.holder walletId).bind fun i => (s.sends i).map fun r =>
      { s.setSend i { r with aborted := true } with
        holder := Function.update s.holder walletId none }
  | .credit walletId amount =>
    if 0 ≤ amount then some (s.deposit walletId amount) else none

/-- No lease is lost while its holder is past `signal.aborted`. -/
def leaseHeld (s : Wallets) : WalletsAction → Bool
  | .expire walletId =>
    match (s.holder walletId).bind s.sends with
    | some r => r.step != .notAborted
    | none => true
  | _ => true

/-- The sends when a lease outlives the gap between the aborted check and the debit. -/
def nextHeld : Wallets → WalletsAction → Option Wallets := restrict next leaseHeld

-- ============================================================================
-- Field lemmas
-- ============================================================================

section Fields

variable (s : Wallets) (i : ℕ) (r : WalletSend) (walletId : String)

@[simp] theorem setSend_balance : (s.setSend i r).balance = s.balance := rfl
@[simp] theorem setSend_holder : (s.setSend i r).holder = s.holder := rfl
@[simp] theorem setSend_sends : (s.setSend i r).sends = Function.update s.sends i (some r) := rfl
@[simp] theorem release_balance : (s.release walletId i).balance = s.balance := by
  unfold release
  split <;> rfl
@[simp] theorem release_sends : (s.release walletId i).sends = s.sends := by
  unfold release
  split <;> rfl

variable (amount : ℤ)

@[simp] theorem withdraw_holder : (s.withdraw walletId amount).holder = s.holder := rfl
@[simp] theorem withdraw_sends : (s.withdraw walletId amount).sends = s.sends := rfl
@[simp] theorem deposit_holder : (s.deposit walletId amount).holder = s.holder := rfl
@[simp] theorem deposit_sends : (s.deposit walletId amount).sends = s.sends := rfl
@[simp] theorem finish_balance : (s.finish i r).balance = s.balance := by
  simp [finish]

/-- Releasing changes a lease only if it was the caller's. -/
theorem release_holder (walletId' : String) (h : s.holder walletId' ≠ some i) :
    (s.release walletId i).holder walletId' = s.holder walletId' := by
  unfold release
  split
  · rename_i hHeld
    have hne : walletId' ≠ walletId := by
      rintro rfl
      exact h hHeld
    exact Function.update_of_ne hne _ _
  · rfl

/-- A send that ends gives up the lease it holds. -/
theorem finish_holder_self (h : s.holder r.walletId = some i) :
    (s.finish i r).holder r.walletId = none := by
  simp [finish, release, h]

/-- The debit can be written after the send has ended: neither touches what the
    other does. -/
theorem withdraw_finish : (s.withdraw walletId amount).finish i r =
    (s.finish i r).withdraw walletId amount := by
  by_cases hHeld : s.holder r.walletId = some i
  · simp only [finish, release, setSend_holder, withdraw_holder, hHeld, if_true]
    rfl
  · simp only [finish, release, setSend_holder, withdraw_holder, hHeld, if_false]
    rfl

end Fields

-- ============================================================================
-- One step of a send
-- ============================================================================

/-- What one step of send `i`, in the state `r`, does, with the guard it passed. -/
inductive SendMove (s : Wallets) (i : ℕ) (r : WalletSend) : SendAction → Wallets → Prop
  | limitCheck (pass : Bool) (hStarted : r.step = .started) :
      SendMove s i r (.limitCheck pass)
        (s.setSend i { r with step := if pass then .limitChecked else .finished })
  | acquire (hReady : r.step = .limitChecked) (hFree : s.holder r.walletId = none) :
      SendMove s i r .acquire
        { s.setSend i { r with step := .locked } with
          holder := Function.update s.holder r.walletId (some i) }
  | readBalance (hLocked : r.step = .locked) :
      SendMove s i r .readBalance
        (s.setSend i { r with step := .balanceRead (s.balance r.walletId) })
  | checkBalance (b : ℤ) (hRead : r.step = .balanceRead b)
      (hCheck : ∃ x, r.flow.checkBalanceForSend r.flow.senderWalletCurrency b = .ok x) :
      SendMove s i r .checkBalance (s.setSend i { r with step := .balanceChecked b })
  | checkBalanceRefused (b : ℤ) (hRead : r.step = .balanceRead b) :
      SendMove s i r .checkBalance (s.finish i r)
  | aborted (b : ℤ) (hChecked : r.step = .balanceChecked b) (hAborted : r.aborted = true) :
      SendMove s i r .checkAborted (s.finish i r)
  | notAborted (b : ℤ) (hChecked : r.step = .balanceChecked b) (hAborted : r.aborted = false) :
      SendMove s i r .checkAborted (s.setSend i { r with step := .notAborted })
  | debit (hNotAborted : r.step = .notAborted) :
      SendMove s i r .debit ((s.withdraw r.walletId (r.path.debit r.flow)).finish i r)
  | fail (hActive : r.step ≠ .finished) : SendMove s i r .fail (s.finish i r)

theorem sendStep_move {s s' : Wallets} {i : ℕ} {r : WalletSend} {a : SendAction}
    (hStep : s.sendStep i r a = some s') : SendMove s i r a s' := by
  cases a with
  | limitCheck pass =>
    simp only [Wallets.sendStep] at hStep
    split at hStep
    · cases hStep
      exact .limitCheck pass ‹_›
    · cases hStep
  | acquire =>
    simp only [Wallets.sendStep] at hStep
    split at hStep
    · rename_i hReady
      cases hStep
      exact .acquire hReady.1 hReady.2
    · cases hStep
  | readBalance =>
    simp only [Wallets.sendStep] at hStep
    split at hStep
    · cases hStep
      exact .readBalance ‹_›
    · cases hStep
  | checkBalance =>
    simp only [Wallets.sendStep] at hStep
    split at hStep
    · rename_i b hRead
      split at hStep
      · rename_i x hCheck
        cases hStep
        exact .checkBalance b hRead ⟨x, hCheck⟩
      · cases hStep
        exact .checkBalanceRefused b hRead
    · cases hStep
  | checkAborted =>
    simp only [Wallets.sendStep] at hStep
    split at hStep
    · rename_i b hChecked
      split at hStep
      · cases hStep
        exact .aborted b hChecked ‹_›
      · rename_i hNotAborted
        cases hStep
        exact .notAborted b hChecked (by simpa using hNotAborted)
    · cases hStep
  | debit =>
    simp only [Wallets.sendStep] at hStep
    split at hStep
    · cases hStep
      exact .debit ‹_›
    · cases hStep
  | fail =>
    simp only [Wallets.sendStep] at hStep
    split at hStep
    · cases hStep
    · cases hStep
      exact .fail ‹_›

-- ============================================================================
-- The invariant
-- ============================================================================

/-- What send `i` knows while it has not been told that its lease is lost:
    inside the lock it is the holder, and its view of the balance is covered. -/
def Holds (s : Wallets) (i : ℕ) (r : WalletSend) : Prop :=
  r.aborted = false →
    (r.step.holdsLease = true → s.holder r.walletId = some i) ∧
      r.step.Covered (r.path.debit r.flow) (s.balance r.walletId)

/-- The inductive invariant of the sends. -/
structure Safe (s : Wallets) : Prop where
  balance_nonneg : ∀ walletId, 0 ≤ s.balance walletId
  holds : ForallProcs s.sends (Holds s)
  admits : ForallProcs s.sends fun _ r => r.path.admits r.flow = true
  notAborted : ForallProcs s.sends fun _ r => r.step = .notAborted → r.aborted = false

theorem initial_safe {balance : String → ℤ} (h : ∀ walletId, 0 ≤ balance walletId) :
    (initial balance).Safe where
  balance_nonneg := h
  holds _ _ hi := by cases hi
  admits _ _ hi := by cases hi
  notAborted _ _ hi := by cases hi

section Steps

variable {s : Wallets} {i j : ℕ} {r r' : WalletSend}

/-- Another send does not lose what it knows when send `i` releases its lease. -/
theorem Holds.release (h : s.Holds j r') (hji : j ≠ i) (walletId : String) :
    (s.release walletId i).Holds j r' := by
  intro hAborted
  obtain ⟨hLease, hCovered⟩ := h hAborted
  refine ⟨fun hl => ?_, by simpa using hCovered⟩
  have hj := hLease hl
  rw [release_holder s i walletId r'.walletId (by rw [hj]; simpa using hji)]
  exact hj

/-- A step of send `i` that only moves its own local state keeps the invariant
    when the new local state keeps its part of it. -/
theorem Safe.setSend (h : s.Safe) (hSelf : s.Holds i r) (hAdmits : r.path.admits r.flow = true)
    (hNotAborted : r.step = .notAborted → r.aborted = false) : (s.setSend i r).Safe where
  balance_nonneg := h.balance_nonneg
  holds := h.holds.update hSelf fun _ _ _ _ hj => hj
  admits := h.admits.update hAdmits fun _ _ _ _ hj => hj
  notAborted := h.notAborted.update hNotAborted fun _ _ _ _ hj => hj

/-- A send outside the lock knows nothing. -/
theorem holds_of_not_holdsLease (hOut : r.step.holdsLease = false) : s.Holds i r :=
  fun _ => ⟨fun hl => by simp [hOut] at hl, SendStep.covered_of_not_holdsLease hOut⟩

theorem holds_finished (s : Wallets) (i : ℕ) (r : WalletSend) :
    s.Holds i { r with step := .finished } :=
  holds_of_not_holdsLease rfl

/-- Ending send `i` keeps the invariant. -/
theorem Safe.finish (h : s.Safe) (hi : s.sends i = some r) : (s.finish i r).Safe := by
  have hSet : (s.setSend i { r with step := .finished }).Safe :=
    h.setSend (holds_finished s i r) (h.admits i r hi) (fun h => by cases h)
  refine ⟨by simpa [Wallets.finish] using hSet.balance_nonneg, ?_, ?_, ?_⟩
  · intro j r' hj
    simp only [Wallets.finish, release_sends, setSend_sends] at hj
    by_cases hji : j = i
    · subst hji
      rw [Function.update_self] at hj
      cases hj
      exact holds_finished _ j r
    · exact (hSet.holds j r' (by simpa using hj)).release hji r.walletId
  · simpa [Wallets.finish] using hSet.admits
  · simpa [Wallets.finish] using hSet.notAborted

/-- Taking a free lease keeps the invariant. -/
theorem Safe.acquire (h : s.Safe) (hi : s.sends i = some r) (hFree : s.holder r.walletId = none) :
    { s.setSend i { r with step := .locked } with
      holder := Function.update s.holder r.walletId (some i) }.Safe := by
  refine ⟨h.balance_nonneg, ?_, h.admits.update (h.admits i r hi) fun _ _ _ _ hj => hj,
    h.notAborted.update (fun h => by cases h) fun _ _ _ _ hj => hj⟩
  refine h.holds.update (fun _ => ⟨fun _ => Function.update_self .., trivial⟩) ?_
  intro j r' hji _ hj hAborted
  obtain ⟨hLease, hCovered⟩ := hj hAborted
  refine ⟨fun hl => ?_, hCovered⟩
  -- no other send holds the lease that was free
  have hHolder := hLease hl
  by_cases hw : r'.walletId = r.walletId
  · rw [hw, hFree] at hHolder
    cases hHolder
  · simpa [Function.update_of_ne hw] using hHolder

/-- A debit of a wallet whose lease is free keeps the invariant while it covers
    the debit: no send inside that wallet's lock has read the old balance. -/
theorem Safe.withdraw (h : s.Safe) {walletId : String} {amount : ℤ}
    (hFree : s.holder walletId = none) (hCovered : amount ≤ s.balance walletId) :
    (s.withdraw walletId amount).Safe := by
  refine ⟨?_, ?_, by simpa using h.admits, by simpa using h.notAborted⟩
  · intro walletId'
    by_cases hw : walletId' = walletId
    · subst hw
      simp only [Wallets.withdraw, Function.update_self]
      omega
    · simpa [Wallets.withdraw, Function.update_of_ne hw] using h.balance_nonneg walletId'
  · intro j r' hj hAborted
    rw [withdraw_sends] at hj
    obtain ⟨hLease, hCovered'⟩ := h.holds j r' hj hAborted
    refine ⟨by simpa using hLease, ?_⟩
    by_cases hw : r'.walletId = walletId
    · -- a send of that wallet is outside its lock, so it knows nothing of the balance
      have hOut : r'.step.holdsLease = false := by
        by_contra hl
        have hHolder := hLease (by simpa using hl)
        rw [hw, hFree] at hHolder
        cases hHolder
      exact SendStep.covered_of_not_holdsLease hOut
    · simpa [Wallets.withdraw, Function.update_of_ne hw] using hCovered'

/-- A credit keeps the invariant. -/
theorem Safe.deposit (h : s.Safe) {walletId : String} {amount : ℤ} (hAmount : 0 ≤ amount) :
    (s.deposit walletId amount).Safe := by
  have hMore : ∀ walletId', s.balance walletId' ≤ (s.deposit walletId amount).balance walletId' := by
    intro walletId'
    by_cases hw : walletId' = walletId
    · subst hw
      simp only [Wallets.deposit, Function.update_self]
      omega
    · simp [Wallets.deposit, Function.update_of_ne hw]
  refine ⟨fun walletId' => le_trans (h.balance_nonneg walletId') (hMore walletId'), ?_,
    by simpa using h.admits, by simpa using h.notAborted⟩
  intro j r' hj hAborted
  rw [deposit_sends] at hj
  obtain ⟨hLease, hCovered⟩ := h.holds j r' hj hAborted
  exact ⟨by simpa using hLease, hCovered.mono (hMore r'.walletId)⟩

/-- The debit of a send past the aborted check keeps the invariant. -/
theorem Safe.debit (h : s.Safe) (hi : s.sends i = some r) (hStep : r.step = .notAborted) :
    ((s.withdraw r.walletId (r.path.debit r.flow)).finish i r).Safe := by
  have hAborted := h.notAborted i r hi hStep
  obtain ⟨hLease, hCovered⟩ := h.holds i r hi hAborted
  rw [hStep] at hLease hCovered
  have hHolder : s.holder r.walletId = some i := hLease rfl
  rw [withdraw_finish]
  exact (h.finish hi).withdraw (finish_holder_self s i r hHolder)
    (by simpa [SendStep.Covered] using hCovered)

/-- Losing a lease keeps the invariant unless its holder is past the aborted
    check: the holder is told, and no other send relied on the lease. -/
theorem Safe.expire (h : s.Safe) {walletId : String} (hHolder : s.holder walletId = some i)
    (hi : s.sends i = some r) (hStep : r.step ≠ .notAborted) :
    { s.setSend i { r with aborted := true } with holder := Function.update s.holder walletId none }.Safe := by
  refine ⟨h.balance_nonneg, ?_, h.admits.update (h.admits i r hi) fun _ _ _ _ hj => hj,
    h.notAborted.update (fun hs => absurd hs hStep) fun _ _ _ _ hj => hj⟩
  refine h.holds.update (fun hAborted => by cases hAborted) ?_
  intro j r' hji _ hj hAborted
  obtain ⟨hLease, hCovered⟩ := hj hAborted
  refine ⟨fun hl => ?_, hCovered⟩
  have hHolder' := hLease hl
  by_cases hw : r'.walletId = walletId
  · -- the lost lease was `i`'s, not `j`'s
    rw [hw, hHolder] at hHolder'
    exact absurd (Option.some.inj hHolder').symm hji
  · simpa [Function.update_of_ne hw] using hHolder'

/-- Every step of a send keeps the invariant. -/
theorem Safe.sendStep (h : s.Safe) (hi : s.sends i = some r) {a : SendAction} {s' : Wallets}
    (hStep : s.sendStep i r a = some s') : s'.Safe := by
  have hAdmits := h.admits i r hi
  cases sendStep_move hStep with
  | limitCheck pass hStarted =>
    refine h.setSend (holds_of_not_holdsLease ?_) hAdmits fun hs => ?_ <;> cases pass <;>
      simp_all [SendStep.holdsLease]
  | acquire _ hFree => exact h.acquire hi hFree
  | readBalance hLocked =>
    refine h.setSend (fun hAborted => ⟨fun _ => ?_, le_refl _⟩) hAdmits (fun hs => by cases hs)
    -- the send still holds the lease it took
    have hOld := (h.holds i r hi hAborted).1
    rw [hLocked] at hOld
    exact hOld rfl
  | checkBalance b hRead hCheck =>
    obtain ⟨x, hCheck⟩ := hCheck
    refine h.setSend (fun hAborted => ?_) hAdmits (fun hs => by cases hs)
    obtain ⟨hLease, hCovered⟩ := h.holds i r hi hAborted
    rw [hRead] at hLease hCovered
    -- the balance read covers the amount plus fee, and the debit is no more
    have hChecked := (PaymentFlowCommonState.checkBalanceForSend_ok r.flow hCheck).2
    exact ⟨fun _ => hLease rfl, le_trans (SendPath.debit_le_checked hAdmits) hChecked,
      hCovered⟩
  | checkBalanceRefused | aborted | fail => exact h.finish hi
  | notAborted b hChecked hAborted =>
    refine h.setSend (fun _ => ?_) hAdmits (fun _ => hAborted)
    obtain ⟨hLease, hCovered⟩ := h.holds i r hi hAborted
    rw [hChecked] at hLease hCovered
    exact ⟨fun _ => hLease rfl, le_trans hCovered.1 hCovered.2⟩
  | debit hNotAborted => exact h.debit hi hNotAborted

/-- Every step keeps the invariant while no lease is lost past the aborted check. -/
theorem Safe.nextHeld (h : s.Safe) {a : WalletsAction} {s' : Wallets}
    (hStep : Wallets.nextHeld s a = some s') : s'.Safe := by
  obtain ⟨hHeld, hStep⟩ := restrict_eq_some hStep
  cases a with
  | start i path flow =>
    simp only [Wallets.next] at hStep
    split at hStep
    · rename_i hNew
      cases hStep
      exact h.setSend (holds_of_not_holdsLease rfl) hNew.2 (fun hs => by cases hs)
    · cases hStep
  | send i a =>
    simp only [Wallets.next] at hStep
    obtain ⟨r, hi, hStep⟩ := Option.bind_eq_some_iff.mp hStep
    exact h.sendStep hi hStep
  | expire walletId =>
    simp only [Wallets.next] at hStep
    obtain ⟨i, hHolder, hStep⟩ := Option.bind_eq_some_iff.mp hStep
    obtain ⟨r, hi, rfl⟩ := Option.map_eq_some_iff.mp hStep
    -- the lease is lost only by a holder that has not passed the aborted check
    have hNot : r.step ≠ .notAborted := by
      simpa [Wallets.leaseHeld, hHolder, hi] using hHeld
    exact h.expire hHolder hi hNot
  | credit walletId amount =>
    simp only [Wallets.next] at hStep
    split at hStep
    · rename_i hAmount
      cases hStep
      exact h.deposit hAmount
    · cases hStep

end Steps

-- ============================================================================
-- What a step does to the sends
-- ============================================================================

section Moves

variable {s s' : Wallets} {i : ℕ} {r : WalletSend}

/-- A step of send `i` only moves `i`, keeps its payment, and either ends it,
    keeps it in flight, or lets it pass the limit check. -/
theorem sendStep_sends {a : SendAction} (hStep : s.sendStep i r a = some s') :
    ∃ r', s'.sends = Function.update s.sends i (some r') ∧ r'.path = r.path ∧
      r'.flow = r.flow ∧
      (r'.step = .finished ∨ (r.step.inFlight = true ∧ r'.step.inFlight = true) ∨
        (r.step = .started ∧ a = .limitCheck true ∧ r'.step = .limitChecked)) := by
  cases sendStep_move hStep with
  | limitCheck pass hStarted =>
    cases pass with
    | true => exact ⟨_, rfl, rfl, rfl, .inr (.inr ⟨hStarted, rfl, rfl⟩)⟩
    | false => exact ⟨_, rfl, rfl, rfl, .inl rfl⟩
  -- the steps inside the lock keep the send in flight
  | acquire hReady _ =>
    exact ⟨_, rfl, rfl, rfl, .inr (.inl ⟨by simp [hReady, SendStep.inFlight], rfl⟩)⟩
  | readBalance hLocked =>
    exact ⟨_, rfl, rfl, rfl, .inr (.inl ⟨by simp [hLocked, SendStep.inFlight], rfl⟩)⟩
  | checkBalance b hRead _ =>
    exact ⟨_, rfl, rfl, rfl, .inr (.inl ⟨by simp [hRead, SendStep.inFlight], rfl⟩)⟩
  | notAborted b hChecked _ =>
    exact ⟨_, rfl, rfl, rfl, .inr (.inl ⟨by simp [hChecked, SendStep.inFlight], rfl⟩)⟩
  | checkBalanceRefused | aborted | debit | fail =>
    exact ⟨{ r with step := .finished }, by simp [Wallets.finish], rfl, rfl, .inl rfl⟩

/-- A debit is the step of a send past its aborted check: it withdraws the
    send's debit and ends the send. -/
theorem sendStep_debit (hStep : s.sendStep i r .debit = some s') :
    r.step = .notAborted ∧ s' = (s.withdraw r.walletId (r.path.debit r.flow)).finish i r := by
  cases sendStep_move hStep with
  | debit hNotAborted => exact ⟨hNotAborted, rfl⟩

end Moves

end Wallets

open Wallets in
/-- While no wallet lease is lost between a send's aborted check and its debit,
    no end-user wallet balance becomes negative, from any initial balances that
    are not, over every interleaving of sends and credits. -/
theorem balance_nonneg_of_leaseHeld {balance : String → ℤ}
    (hInit : ∀ walletId, 0 ≤ balance walletId) {s : Wallets}
    (h : Reachable Wallets.nextHeld (initial balance) s) (walletId : String) :
    0 ≤ s.balance walletId :=
  (Invariant.holds ⟨initial_safe hInit, fun _ _ _ hs hStep => hs.nextHeld hStep⟩ h).balance_nonneg
    walletId

namespace Wallets

/-- A Lightning send of a whole 100 sat balance, with no fee. -/
def sweepFlow : PaymentFlow where
  paymentHash := some "sweep-hash"
  intraLedgerHash := none
  senderWalletId := "alice"
  senderWalletCurrency := .Btc
  senderAccountId := "alice-account"
  settlementMethod := .Lightning
  paymentInitiationMethod := .Lightning
  descriptionFromInvoice := ""
  skipProbeForDestination := false
  createdAt := 0
  paymentSentAndPending := false
  btcPaymentAmount := ⟨100⟩
  usdPaymentAmount := ⟨200⟩
  inputAmount := 100
  btcProtocolAndBankFee := ⟨0⟩
  usdProtocolAndBankFee := ⟨0⟩

/-- An on-chain payout of 90 sats from a BTC wallet, with 10 sats of fee. -/
def payoutFlow : PaymentFlowCommonState := ⟨"bob", .Btc, ⟨90⟩, ⟨180⟩, ⟨10⟩, ⟨20⟩⟩

/-- Send `i` through the lock up to its aborted check. -/
def throughAbortCheck (i : ℕ) : List WalletsAction :=
  [.send i (.limitCheck true), .send i .acquire, .send i .readBalance, .send i .checkBalance,
    .send i .checkAborted]

/-- A Lightning sweep of one wallet and an on-chain payout of another, in
    flight together. -/
def sweepAndPayout : List WalletsAction :=
  [.start 0 .lightning sweepFlow.common, .start 1 .onChain payoutFlow] ++ throughAbortCheck 0 ++
    throughAbortCheck 1 ++ [.send 1 .debit, .send 0 .debit]

end Wallets

open Wallets in
theorem balance_nonneg_of_leaseHeld_sweep :
    ∃ s, run Wallets.nextHeld (initial fun _ => 100) sweepAndPayout = some s ∧
      0 ≤ s.balance "alice" ∧ 0 ≤ s.balance "bob" := by
  obtain ⟨s, hRun⟩ : ∃ s, run Wallets.nextHeld (initial fun _ => 100) sweepAndPayout = some s :=
    ⟨_, rfl⟩
  have hReach := reachable_of_run hRun
  exact ⟨s, hRun, @balance_nonneg_of_leaseHeld (fun _ => 100) (fun _ => by decide) s hReach "alice",
    @balance_nonneg_of_leaseHeld (fun _ => 100) (fun _ => by decide) s hReach "bob"⟩

open Wallets in
/-- Send 0 passes its aborted check and then loses its lease; send 1 takes the
    lease, reads the balance send 0 is about to debit, and debits it; then
    send 0 debits too. -/
theorem balance_negative_of_lease_lost :
    ∃ s, Reachable Wallets.next (initial fun _ => 100) s ∧ s.balance "alice" < 0 := by
  obtain ⟨s, hs, hNegative⟩ := @exists_of_run Wallets WalletsAction Wallets.next
    (initial fun _ => 100)
    ([.start 0 .lightning sweepFlow.common, .start 1 .lightning sweepFlow.common] ++
      throughAbortCheck 0 ++
      [.expire "alice"] ++ throughAbortCheck 1 ++ [.send 1 .debit, .send 0 .debit])
    (fun s => decide (s.balance "alice" < 0)) (by decide)
  exact ⟨s, hs, of_decide_eq_true hNegative⟩

end Galoy
