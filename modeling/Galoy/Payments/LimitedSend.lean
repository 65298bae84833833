/-
  Galoy.Payments.LimitedSend

  Intraledger payments from one USD wallet to other accounts, each following
  `executePaymentViaIntraledger` (`app/payments/send-intraledger.ts`): the
  account's intraledger limit is checked against the wallet's outgoing volume
  of the last 24 hours (`checkIntraledgerLimits`), and only then does the send
  take the wallet lock, check the balance and record the payment.

  The sends are those of `Galoy.Payments.LockedSend`, with a clock, the
  wallet's recorded intraledger debits, and a limit check whose outcome is the
  one `checkIntraledgerLimits` computes from those debits.  Two sends that both
  check the limit before either records pass on the same volume and together
  exceed it (`windowVolume_exceeds_limit`).  When a send checks the limit only
  while no other send is between its limit check and its end, the debits of
  every 24-hour window stay within the limit.
-/

import Galoy.Payments.LockedSend
import Galoy.Accounts.LimitsVolume
import Mathlib.Algebra.Order.BigOperators.Group.List

namespace Galoy

open Transition AmountCalculator

/-- Milliseconds in a day: `timestampDaysAgo(ONE_DAY)` is one day before now. -/
def MS_PER_DAY : ℕ := 86400000

/-- The wallet's intraledger debits whose time satisfies `p`. -/
def debitsWhere (records : List (ℕ × ℤ)) (p : ℕ → Bool) : ℤ :=
  ((records.filter fun record => p record.1).map Prod.snd).sum

/-- `outIntraledgerTxBaseVolumeAmountSince`: the debits at or after `timestamp`. -/
def volumeSince (records : List (ℕ × ℤ)) (timestamp : ℕ) : ℤ :=
  debitsWhere records fun t => timestamp ≤ t

/-- The debits of the 24 hours up to `T`. -/
def windowVolume (records : List (ℕ × ℤ)) (T : ℕ) : ℤ :=
  debitsWhere records fun t => T - MS_PER_DAY ≤ t ∧ t ≤ T

-- ============================================================================
-- Volumes of the recorded debits
-- ============================================================================

theorem debitsWhere_append_singleton (records : List (ℕ × ℤ)) (p : ℕ → Bool) (t : ℕ) (a : ℤ) :
    debitsWhere (records ++ [(t, a)]) p = debitsWhere records p + if p t then a else 0 := by
  unfold debitsWhere
  cases hp : p t <;> simp [List.filter_append, hp]

/-- Over positive debits, a weaker condition on the time counts more. -/
theorem debitsWhere_mono {records : List (ℕ × ℤ)} (hPositive : ∀ x ∈ records, 0 < x.2)
    {p q : ℕ → Bool} (hpq : ∀ x ∈ records, p x.1 = true → q x.1 = true) :
    debitsWhere records p ≤ debitsWhere records q := by
  unfold debitsWhere
  apply List.Sublist.sum_le_sum
  · apply List.Sublist.map
    -- the filters agree outside the records, so compare them on the records only
    rw [← List.filter_congr (p := fun record => p record.1 && q record.1)
      (fun x hx => by cases hpx : p x.1 <;> simp [hpx, hpq x hx])]
    exact List.monotone_filter_right records (fun x hx => by simp_all)
  · intro a ha
    obtain ⟨x, hx, rfl⟩ := List.mem_map.mp ha
    exact (hPositive x (List.mem_of_mem_filter hx)).le

/-- Later cut-offs count fewer debits. -/
theorem volumeSince_anti {records : List (ℕ × ℤ)} (hPositive : ∀ x ∈ records, 0 < x.2)
    {t t' : ℕ} (h : t ≤ t') : volumeSince records t' ≤ volumeSince records t :=
  debitsWhere_mono hPositive fun x _ hx => by
    simp only [decide_eq_true_eq] at hx ⊢
    omega

/-- A window that ends at or after `t` sees no debit older than a day before `t`. -/
theorem windowVolume_le_volumeSince {records : List (ℕ × ℤ)} (hPositive : ∀ x ∈ records, 0 < x.2)
    {t T : ℕ} (h : t ≤ T) : windowVolume records T ≤ volumeSince records (t - MS_PER_DAY) :=
  debitsWhere_mono hPositive fun x _ hx => by
    simp only [decide_eq_true_eq] at hx ⊢
    omega

/-- A debit recorded now, of an amount that fits beside the debits of the last
    day, keeps every window within a bound that the windows already kept. -/
theorem windowVolume_append_le {records : List (ℕ × ℤ)} (hPositive : ∀ x ∈ records, 0 < x.2)
    {limit : ℚ} (hWindow : ∀ T, (windowVolume records T : ℚ) ≤ limit) {now : ℕ} {amount : ℤ}
    (hFits : (volumeSince records (now - MS_PER_DAY) : ℚ) + amount ≤ limit) (T : ℕ) :
    (windowVolume (records ++ [(now, amount)]) T : ℚ) ≤ limit := by
  unfold windowVolume
  rw [debitsWhere_append_singleton]
  split
  · rename_i hIn
    simp only [decide_eq_true_eq] at hIn
    -- the window ends after now, so it sees no more than the limit check did
    have hle : (windowVolume records T : ℚ) ≤ volumeSince records (now - MS_PER_DAY) := by
      exact_mod_cast windowVolume_le_volumeSince hPositive hIn.2
    push_cast
    unfold windowVolume at hle
    linarith
  · rw [add_zero]
    exact hWindow T

-- ============================================================================
-- The sends, with a clock and the wallet's debits
-- ============================================================================

/-- Intraledger sends from one wallet: the sends and leases, the ids of the
    sends started so far, the clock, and the time and amount of every
    intraledger debit of the wallet. -/
structure LimitedSends where
  wallets : Wallets
  started : List ℕ
  now : ℕ
  records : List (ℕ × ℤ)

inductive LimitedAction where
  | wallets (a : WalletsAction)
  | tick
  deriving DecidableEq, Repr

namespace LimitedSends

variable (accountLimits : AccountLimits) (priceRatio : WalletPriceRatio) (walletId : String)

/-- No sends, no debits. -/
def initial (balance : String → ℤ) (now : ℕ) : LimitedSends := ⟨Wallets.initial balance, [], now, []⟩

/-- Whether `checkIntraledgerLimits` passes a payment at the current time; the
    account's BTC wallet sends nothing. -/
def limitCheckPasses (s : LimitedSends) (amount : UsdPaymentAmount) : Bool :=
  match checkIntraledgerLimits accountLimits priceRatio ZERO_SATS
      ⟨volumeSince s.records (s.now - MS_PER_DAY)⟩ amount with
  | .ok _ => true
  | .error _ => false

/-- The sends of this model: intraledger payments of a positive amount from
    the USD wallet `walletId`. -/
def covers (path : SendPath) (flow : PaymentFlowCommonState) : Bool :=
  path == .intraLedger && flow.senderWalletId == walletId && flow.senderWalletCurrency == .Usd &&
    decide (0 < flow.usdPaymentAmount.amount)

/-- Only covered sends start, and a limit check has the outcome that
    `checkIntraledgerLimits` computes. -/
def admitted (s : LimitedSends) : WalletsAction → Bool
  | .start _ path flow => covers walletId path flow
  | .send i (.limitCheck pass) =>
    match s.wallets.sends i with
    | some r => pass == limitCheckPasses accountLimits priceRatio s r.flow.usdPaymentAmount
    | none => false
  | _ => true

/-- After a step of the sends: a started send is remembered, and a debit is
    recorded at the current time. -/
def afterStep (s : LimitedSends) (w : Wallets) : WalletsAction → LimitedSends
  | .start i _ _ => { s with wallets := w, started := i :: s.started }
  | .send i .debit =>
    { s with
      wallets := w
      records := s.records ++ (s.wallets.sends i).toList.map fun r => (s.now, r.path.debit r.flow) }
  | _ => { s with wallets := w }

def next (s : LimitedSends) : LimitedAction → Option LimitedSends
  | .tick => some { s with now := s.now + 1 }
  | .wallets a =>
    if admitted accountLimits priceRatio walletId s a then
      (s.wallets.next a).map fun w => s.afterStep w a
    else none

/-- No send other than `i` is between its limit check and its end. -/
def othersIdle (s : LimitedSends) (i : ℕ) : Bool :=
  s.started.all fun j => j == i || !((s.wallets.sends j).any (·.step.inFlight))

/-- A send checks the limit only while the others are idle. -/
def serial (s : LimitedSends) : LimitedAction → Bool
  | .wallets (.send i (.limitCheck _)) => s.othersIdle i
  | _ => true

/-- The sends checked one after another. -/
def nextSerial : LimitedSends → LimitedAction → Option LimitedSends :=
  restrict (next accountLimits priceRatio walletId) serial

-- ============================================================================
-- The invariant of serial sends
-- ============================================================================

/-- What the limit check of a send promises: its amount fits beside the debits
    of the last 24 hours. -/
def Fits (s : LimitedSends) (amount : UsdPaymentAmount) : Prop :=
  (volumeSince s.records (s.now - MS_PER_DAY) : ℚ) + amount.amount ≤ accountLimits.intraLedgerLimit

/-- Send `j` is not between its limit check and its end. -/
def Idle (s : LimitedSends) (j : ℕ) : Prop :=
  ∀ r, s.wallets.sends j = some r → r.step.inFlight = false

/-- The inductive invariant: at most one send is in flight, its limit check
    still holds, and every window of the recorded debits is within the limit. -/
structure Bounded (s : LimitedSends) : Prop where
  covered : ForallProcs s.wallets.sends fun _ r => covers walletId r.path r.flow = true
  started : ForallProcs s.wallets.sends fun i _ => i ∈ s.started
  records_pos : ∀ x ∈ s.records, 0 < x.2
  alone : ForallProcs s.wallets.sends fun i r => r.step.inFlight = true → ∀ j, j ≠ i → s.Idle j
  fits : ForallProcs s.wallets.sends fun _ r =>
    r.step.inFlight = true → Fits accountLimits s r.flow.usdPaymentAmount
  window : ∀ T, (windowVolume s.records T : ℚ) ≤ accountLimits.intraLedgerLimit

section Steps

variable {accountLimits priceRatio walletId} {s : LimitedSends} {i : ℕ} {r : WalletSend}

/-- A covered send debits its USD amount, which is positive. -/
theorem covers_debit {path : SendPath} {flow : PaymentFlowCommonState}
    (h : covers walletId path flow = true) :
    path.debit flow = flow.usdPaymentAmount.amount ∧ 0 < flow.usdPaymentAmount.amount := by
  simp only [covers, Bool.and_eq_true, beq_iff_eq, decide_eq_true_eq] at h
  obtain ⟨⟨⟨rfl, -⟩, hCurrency⟩, hPositive⟩ := h
  exact ⟨by simp [SendPath.debit, hCurrency], hPositive⟩

/-- A passed limit check makes the amount fit: the volume remaining is the
    limit less the day's volume, and a positive amount within it fits. -/
theorem fits_of_limitCheckPasses {amount : UsdPaymentAmount} (hPositive : 0 < amount.amount)
    (h : limitCheckPasses accountLimits priceRatio s amount = true) :
    Fits accountLimits s amount := by
  unfold limitCheckPasses at h
  split at h
  · rename_i b hCheck
    obtain ⟨limit, hLimit, hWithin⟩ := checkIntraledgerLimits_eq_ok hCheck
    simp only [ZERO_SATS, WalletPriceRatio.convertFromBtc_zero, zero_add] at hWithin
    have hFits : volumeSince s.records (s.now - MS_PER_DAY) + amount.amount ≤ limit := by
      rcases le_max_iff.mp hWithin with h0 | hle <;> omega
    unfold Fits
    rw [hLimit]
    exact_mod_cast hFits
  · cases h

/-- With every started send listed, `othersIdle` says that the others are idle. -/
theorem Bounded.idle_of_othersIdle (h : s.Bounded accountLimits walletId)
    (hIdle : s.othersIdle i = true) : ∀ j, j ≠ i → s.Idle j := by
  intro j hj rj hrj
  have hAll := List.all_eq_true.mp hIdle j (h.started j rj hrj)
  simpa [hj, hrj] using hAll

theorem initial_bounded (hLimit : 0 ≤ accountLimits.intraLedgerLimit) (balance : String → ℤ)
    (now : ℕ) : (initial balance now).Bounded accountLimits walletId where
  covered _ _ hi := by cases hi
  started _ _ hi := by cases hi
  records_pos _ hx := by cases hx
  alone _ _ hi := by cases hi
  fits _ _ hi := by cases hi
  window _ := by simpa [initial, windowVolume, debitsWhere] using hLimit

/-- The clock moving on keeps the invariant: a day ago moves on too, and the
    debits the limit checks saw only shrink. -/
theorem Bounded.tick (h : s.Bounded accountLimits walletId) :
    ({ s with now := s.now + 1 } : LimitedSends).Bounded accountLimits walletId where
  covered := h.covered
  started := h.started
  records_pos := h.records_pos
  alone := h.alone
  fits j r hj hIn := by
    have hOld := h.fits j r hj hIn
    have hLess : (volumeSince s.records (s.now + 1 - MS_PER_DAY) : ℚ) ≤
        volumeSince s.records (s.now - MS_PER_DAY) := by
      exact_mod_cast volumeSince_anti h.records_pos (by omega)
    unfold Fits at hOld ⊢
    linarith
  window := h.window

/-- A step that sets the state of send `i`, keeps the clock and the debits, and
    puts `i` in flight only when the others are idle and its amount fits,
    keeps the invariant. -/
theorem Bounded.update (h : s.Bounded accountLimits walletId) {s' : LimitedSends} {r' : WalletSend}
    (hSends : s'.wallets.sends = Function.update s.wallets.sends i (some r'))
    (hCovers : covers walletId r'.path r'.flow = true)
    (hStarted : ∀ j, j ∈ s.started → j ∈ s'.started) (hi : i ∈ s'.started)
    (hNow : s'.now = s.now) (hRecords : s'.records = s.records)
    (hMove : r'.step.inFlight = true →
      (∀ j, j ≠ i → s.Idle j) ∧ Fits accountLimits s r'.flow.usdPaymentAmount) :
    s'.Bounded accountLimits walletId := by
  have hIdle : ∀ j, j ≠ i → s.Idle j → s'.Idle j := by
    intro j hj hIdle rj hrj
    rw [hSends, Function.update_of_ne hj] at hrj
    exact hIdle rj hrj
  have hFits : ∀ amount, Fits accountLimits s amount → Fits accountLimits s' amount := by
    intro amount hFits
    unfold Fits at hFits ⊢
    rwa [hNow, hRecords]
  refine ⟨?_, ?_, hRecords ▸ h.records_pos, ?_, ?_, hRecords ▸ h.window⟩
  · rw [hSends]
    exact h.covered.update hCovers fun _ _ _ _ hj => hj
  · rw [hSends]
    exact h.started.update hi fun _ _ _ _ hj => hStarted _ hj
  · rw [hSends]
    refine h.alone.update (fun hIn j hj => hIdle j hj ((hMove hIn).1 j hj)) ?_
    intro k rk hki hk hAlone hIn j hj
    by_cases hji : j = i
    · -- `i` did not enter flight beside the send `k` already in flight
      subst hji
      intro rj hrj
      rw [hSends, Function.update_self] at hrj
      cases hrj
      by_contra hOut
      have hkIdle := (hMove (by simpa using hOut)).1 k hki rk hk
      rw [hIn] at hkIdle
      cases hkIdle
    · exact hIdle j hji (hAlone hIn j hj)
  · rw [hSends]
    exact h.fits.update (fun hIn => hFits _ (hMove hIn).2)
      fun _ _ _ _ hj hIn => hFits _ (hj hIn)

/-- A step that changes no send, the clock or the debits keeps the invariant. -/
theorem Bounded.of_sends_eq (h : s.Bounded accountLimits walletId) {w : Wallets}
    (hSends : w.sends = s.wallets.sends) :
    ({ s with wallets := w } : LimitedSends).Bounded accountLimits walletId where
  covered := hSends ▸ h.covered
  started := hSends ▸ h.started
  records_pos := h.records_pos
  alone j r hj hIn k hk rk hrk := h.alone j r (hSends ▸ hj) hIn k hk rk (hSends ▸ hrk)
  fits := hSends ▸ h.fits
  window := h.window

/-- Recording a debit while no send is in flight keeps the invariant when the
    amount is positive and fits. -/
theorem Bounded.record (h : s.Bounded accountLimits walletId) (hIdle : ∀ j, s.Idle j)
    {amount : ℤ} (hPositive : 0 < amount)
    (hFits : (volumeSince s.records (s.now - MS_PER_DAY) : ℚ) + amount ≤
      accountLimits.intraLedgerLimit) :
    ({ s with records := s.records ++ [(s.now, amount)] } : LimitedSends).Bounded
      accountLimits walletId where
  covered := h.covered
  started := h.started
  records_pos x hx := by
    rcases List.mem_append.mp hx with hx | hx
    · exact h.records_pos x hx
    · simp only [List.mem_singleton] at hx
      subst hx
      exact hPositive
  alone j r hj hIn := by
    rw [hIdle j r hj] at hIn
    cases hIn
  fits j r hj hIn := by
    rw [hIdle j r hj] at hIn
    cases hIn
  window := windowVolume_append_le h.records_pos h.window hFits

/-- A step of send `i` other than its debit keeps the invariant, when a passed
    limit check comes with the others idle and the amount fitting. -/
theorem Bounded.sendMove (h : s.Bounded accountLimits walletId) (hi : s.wallets.sends i = some r)
    {sa : SendAction} {w : Wallets} (hStep : s.wallets.sendStep i r sa = some w)
    (hPass : sa = .limitCheck true →
      (∀ j, j ≠ i → s.Idle j) ∧ Fits accountLimits s r.flow.usdPaymentAmount) :
    ({ s with wallets := w } : LimitedSends).Bounded accountLimits walletId := by
  obtain ⟨r', hSends, hPath, hFlow, hMoved⟩ := Wallets.sendStep_sends hStep
  refine h.update hSends (by rw [hPath, hFlow]; exact h.covered i r hi) (fun _ hj => hj)
    (h.started i r hi) rfl rfl fun hIn => ?_
  rw [hFlow]
  rcases hMoved with hFinished | ⟨hWas, -⟩ | ⟨-, hLimitCheck, -⟩
  · rw [hFinished] at hIn
    cases hIn
  · exact ⟨h.alone i r hi hWas, h.fits i r hi hWas⟩
  · exact hPass hLimitCheck

/-- The debit of the send in flight keeps the invariant: it was alone in
    flight, and its limit check still holds. -/
theorem Bounded.debit (h : s.Bounded accountLimits walletId) (hi : s.wallets.sends i = some r)
    {w : Wallets} (hStep : s.wallets.sendStep i r .debit = some w) :
    (s.afterStep w (.send i .debit)).Bounded accountLimits walletId := by
  have hMoved : ({ s with wallets := w } : LimitedSends).Bounded accountLimits walletId :=
    h.sendMove hi hStep fun hDebitIsCheck => by cases hDebitIsCheck
  obtain ⟨hNotAborted, rfl⟩ := Wallets.sendStep_debit hStep
  have hIn : r.step.inFlight = true := by rw [hNotAborted]; rfl
  obtain ⟨hDebit, hPositive⟩ := covers_debit (h.covered i r hi)
  -- the send has ended, and no other was in flight beside it
  have hIdle : ∀ j, ({ s with wallets := (s.wallets.withdraw r.walletId (r.path.debit r.flow)).finish i r } :
      LimitedSends).Idle j := by
    intro j rj hrj
    simp only [Wallets.finish, Wallets.release_sends, Wallets.setSend_sends,
      Wallets.withdraw_sends] at hrj
    by_cases hji : j = i
    · subst hji
      rw [Function.update_self] at hrj
      cases hrj
      rfl
    · rw [Function.update_of_ne hji] at hrj
      exact h.alone i r hi hIn j hji rj hrj
  have hAfter : s.afterStep ((s.wallets.withdraw r.walletId (r.path.debit r.flow)).finish i r)
      (.send i .debit) =
      { ({ s with wallets := (s.wallets.withdraw r.walletId (r.path.debit r.flow)).finish i r } :
          LimitedSends) with
        records := s.records ++ [(s.now, r.path.debit r.flow)] } := by
    simp [afterStep, hi]
  rw [hAfter]
  refine hMoved.record hIdle (hDebit ▸ hPositive) ?_
  rw [hDebit]
  exact h.fits i r hi hIn

/-- Every step of the serial sends keeps the invariant. -/
theorem Bounded.nextSerial (h : s.Bounded accountLimits walletId) {a : LimitedAction}
    {s' : LimitedSends}
    (hStep : LimitedSends.nextSerial accountLimits priceRatio walletId s a = some s') :
    s'.Bounded accountLimits walletId := by
  obtain ⟨hSerial, hStep⟩ := restrict_eq_some hStep
  cases a with
  | tick =>
    cases hStep
    exact h.tick
  | wallets a =>
    simp only [LimitedSends.next] at hStep
    split at hStep
    · rename_i hAdmitted
      obtain ⟨w, hw, rfl⟩ := Option.map_eq_some_iff.mp hStep
      cases a with
      | start i path flow =>
        simp only [Wallets.next] at hw
        split at hw
        · cases hw
          exact h.update rfl (by simpa [admitted] using hAdmitted)
            (fun _ hj => List.mem_cons_of_mem i hj) List.mem_cons_self rfl rfl
            fun hIn => by cases hIn
        · cases hw
      | send i sa =>
        simp only [Wallets.next] at hw
        obtain ⟨r, hi, hw⟩ := Option.bind_eq_some_iff.mp hw
        cases sa with
        | debit => exact h.debit hi hw
        | limitCheck pass =>
          refine h.sendMove hi hw fun hPass => ?_
          cases hPass
          -- the others are idle, and the check passed on the day's debits
          have hPasses :
              limitCheckPasses accountLimits priceRatio s r.flow.usdPaymentAmount = true := by
            simpa [admitted, hi] using hAdmitted
          exact ⟨h.idle_of_othersIdle hSerial,
            fits_of_limitCheckPasses (covers_debit (h.covered i r hi)).2 hPasses⟩
        | acquire | readBalance | checkBalance | checkAborted | fail =>
          exact h.sendMove hi hw fun hPass => by cases hPass
      | expire walletId' =>
        simp only [Wallets.next] at hw
        obtain ⟨i, -, hw⟩ := Option.bind_eq_some_iff.mp hw
        obtain ⟨r, hi, rfl⟩ := Option.map_eq_some_iff.mp hw
        -- a lost lease only marks the send aborted
        exact h.update rfl (h.covered i r hi) (fun _ hj => hj) (h.started i r hi) rfl rfl
          fun hIn => ⟨h.alone i r hi hIn, h.fits i r hi hIn⟩
      | credit walletId' amount =>
        simp only [Wallets.next] at hw
        split at hw
        · cases hw
          exact h.of_sends_eq rfl
        · cases hw
    · cases hStep

end Steps

end LimitedSends

open LimitedSends in
/-- When a send checks the account's intraledger limit only while no other send
    of the wallet is between its limit check and its end, the debits of every
    24-hour window stay within the limit, over every interleaving of the sends,
    lease losses, credits and the clock. -/
theorem windowVolume_le_intraLedgerLimit {accountLimits : AccountLimits}
    {priceRatio : WalletPriceRatio} {walletId : String}
    (hLimit : 0 ≤ accountLimits.intraLedgerLimit) {balance : String → ℤ} {now : ℕ}
    {s : LimitedSends}
    (h : Reachable (nextSerial accountLimits priceRatio walletId) (initial balance now) s)
    (T : ℕ) : (windowVolume s.records T : ℚ) ≤ accountLimits.intraLedgerLimit :=
  (Invariant.holds ⟨initial_bounded hLimit balance now, fun _ _ _ hs hStep => hs.nextSerial hStep⟩
    h).window T

namespace LimitedSends

/-- A limit of one dollar a day for intraledger payments. -/
def dollarLimits : AccountLimits := ⟨100, 0, 0⟩

/-- Two cents a satoshi. -/
def twoCentsPerSat : WalletPriceRatio := ⟨⟨2, ⟨1⟩, by decide, Int.one_ne_zero⟩⟩

/-- An intraledger payment of one dollar from the USD wallet `alice`. -/
def dollarFlow : PaymentFlow where
  paymentHash := none
  intraLedgerHash := some "dollar-hash"
  senderWalletId := "alice"
  senderWalletCurrency := .Usd
  senderAccountId := "alice-account"
  settlementMethod := .IntraLedger
  paymentInitiationMethod := .IntraLedger
  descriptionFromInvoice := ""
  skipProbeForDestination := false
  createdAt := 0
  paymentSentAndPending := false
  btcPaymentAmount := ⟨50⟩
  usdPaymentAmount := ⟨100⟩
  inputAmount := 100
  btcProtocolAndBankFee := ⟨0⟩
  usdProtocolAndBankFee := ⟨0⟩

/-- Send `i` from the wallet lock to its debit. -/
def throughDebit (i : ℕ) : List LimitedAction :=
  [.acquire, .readBalance, .checkBalance, .checkAborted, .debit].map fun a => .wallets (.send i a)

end LimitedSends

open LimitedSends in
theorem windowVolume_le_intraLedgerLimit_dollar :
    ∃ s, run (nextSerial dollarLimits twoCentsPerSat "alice") (initial (fun _ => 200) 0)
        ([.wallets (.start 0 .intraLedger dollarFlow.common), .wallets (.send 0 (.limitCheck true))] ++
          throughDebit 0) = some s ∧
      (windowVolume s.records 0 : ℚ) ≤ dollarLimits.intraLedgerLimit := by
  obtain ⟨s, hRun⟩ : ∃ s, run (nextSerial dollarLimits twoCentsPerSat "alice")
      (initial (fun _ => 200) 0)
      ([.wallets (.start 0 .intraLedger dollarFlow.common), .wallets (.send 0 (.limitCheck true))] ++
        throughDebit 0) = some s := ⟨_, rfl⟩
  exact ⟨s, hRun, windowVolume_le_intraLedgerLimit (by decide) (reachable_of_run hRun) 0⟩

open LimitedSends in
/-- Two sends of one dollar both check the one-dollar limit before either is
    recorded; both pass on an empty day, and both are debited in the same
    window. -/
theorem windowVolume_exceeds_limit :
    ∃ s, Reachable (next dollarLimits twoCentsPerSat "alice") (initial (fun _ => 200) 0) s ∧
      dollarLimits.intraLedgerLimit < windowVolume s.records 0 := by
  obtain ⟨s, hs, hOver⟩ := @exists_of_run LimitedSends LimitedAction
    (next dollarLimits twoCentsPerSat "alice") (initial (fun _ => 200) 0)
    ([.wallets (.start 0 .intraLedger dollarFlow.common), .wallets (.start 1 .intraLedger dollarFlow.common),
      .wallets (.send 0 (.limitCheck true)), .wallets (.send 1 (.limitCheck true))] ++
      throughDebit 0 ++ throughDebit 1)
    (fun s => decide (dollarLimits.intraLedgerLimit < windowVolume s.records 0)) (by decide)
  exact ⟨s, hs, of_decide_eq_true hOver⟩

end Galoy
