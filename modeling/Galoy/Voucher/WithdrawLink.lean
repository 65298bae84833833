/-
  Galoy.Voucher.WithdrawLink

  The redemption of a voucher withdraw link (`apps/voucher`): the LNURL-withdraw
  callback (`app/api/lnurlw/callback/[id]/route.ts`) and the
  `redeemWithdrawLinkOnChain` mutation, both paying from the escrow USD wallet,
  and the status write of `createWithdrawLink` once the link is funded.

  The link is one row of `WithdrawLinks`; a read and an `UPDATE ... WHERE id` are
  each atomic, and nothing else orders the handlers.  Each request takes the
  steps of its handler: read the link and apply the handler's status guard,
  (on chain) query the fee, write its status, pay, and write the status the
  payment's response calls for.  A payment mutation returns an error or a
  status; one that returns `PENDING` settles later, either way.

  A Lightning payment that returns `PENDING` leaves the link `PENDING`, which the
  on-chain guard accepts, and the voucher is paid out twice although no two
  requests are ever in progress at once (`payouts_two_of_pending_callback`).
  When requests are handled one at a time and no payment returns `PENDING`
  (`Redemptions.nextOrderly`), the guards give at most one payout.
-/

import Galoy.Lib.Transition

namespace Galoy.Voucher

open Transition

-- ============================================================================
-- Links, handlers and payment responses
-- ============================================================================

/-- `Status` of a withdraw link. -/
inductive Status where
  | Active
  | Paid
  | Pending
  deriving DecidableEq, Repr

/-- `PaymentSendResult` of the escrow wallet's payment mutations. -/
inductive PaymentSendResult where
  | AlreadyPaid
  | Failure
  | Pending
  | Success
  deriving DecidableEq, Repr

/-- What a payment mutation returns to its handler: an `Error` or a non-empty
    `errors` list, or a status. -/
inductive PaymentResponse where
  | error
  | status (result : PaymentSendResult)
  deriving DecidableEq, Repr

/-- The two handlers that redeem a link. -/
inductive Handler where
  /-- the LNURL-withdraw callback `GET`, paying a Lightning invoice -/
  | callback
  /-- `redeemWithdrawLinkOnChain`, paying an on-chain address -/
  | onChain
  deriving DecidableEq, Repr

/-- Where a request stands in its handler. -/
inductive RequestStep where
  | received
  /-- passed the status guard -/
  | checked
  /-- `onChainUsdTxFee` left a positive amount to pay -/
  | feeQuoted
  /-- wrote its status and calls the payment mutation -/
  | marked
  /-- writes `ACTIVE` after a failed payment -/
  | reactivating
  /-- writes `PAID` after a successful payment -/
  | settling
  | returned
  deriving DecidableEq, Repr

/-- What a handler does once its payment mutation returns. -/
structure AfterPayment where
  next : RequestStep
  /-- the payment returned `PENDING` and may still settle -/
  pending : Bool
  paidOut : Bool
  deriving DecidableEq, Repr

namespace Handler

/-- The status guard: the callback rejects `PENDING` and then anything not
    `ACTIVE`; the on-chain mutation rejects only `PAID`. -/
def accepts : Handler → Status → Bool
  | .callback, status => if status = .Pending then false else status == .Active
  | .onChain, status => status != .Paid

/-- The status a handler writes before it pays. -/
def markStatus : Handler → Status
  | .callback => .Pending
  | .onChain => .Paid

def afterPayment : Handler → PaymentResponse → AfterPayment
  | .callback, .error => ⟨.reactivating, false, false⟩
  -- the callback returns on `PENDING` without writing the link
  | .callback, .status .Pending => ⟨.returned, true, false⟩
  | .callback, .status .Success => ⟨.settling, false, true⟩
  | .callback, .status _ => ⟨.reactivating, false, false⟩
  | .onChain, .error => ⟨.reactivating, false, false⟩
  | .onChain, .status .Success => ⟨.returned, false, true⟩
  -- `status !== Success` makes the link active again, yet the payment may settle
  | .onChain, .status .Pending => ⟨.reactivating, true, false⟩
  | .onChain, .status _ => ⟨.reactivating, false, false⟩

/-- A response other than `PENDING` leaves nothing pending: success pays out,
    after which the callback writes `PAID` and the on-chain mutation returns,
    and anything else makes the link active again. -/
theorem afterPayment_of_ne_pending {handler : Handler} {response : PaymentResponse}
    (h : response ≠ .status .Pending) :
    handler.afterPayment response =
      if response = .status .Success then
        ⟨if handler = .callback then .settling else .returned, false, true⟩
      else ⟨.reactivating, false, false⟩ := by
  cases response with
  | error => cases handler <;> rfl
  | status result =>
    cases result with
    | Pending => exact absurd rfl h
    | AlreadyPaid | Failure | Success => cases handler <;> rfl

end Handler

/-- A request in progress. -/
structure Request where
  handler : Handler
  step : RequestStep
  /-- its payment returned `PENDING` and has not settled -/
  paymentPending : Bool
  deriving DecidableEq, Repr

/-- The link's status, whether `createWithdrawLink` has funded it, the
    redemption requests (and the ids received so far), and the escrow wallet's
    payouts for the link. -/
structure Redemptions where
  status : Status
  funded : Bool
  requests : ℕ → Option Request
  received : List ℕ
  payouts : ℕ

/-- The steps of one request. -/
inductive RequestAction where
  | read
  /-- whether the fee query left a positive amount to pay -/
  | quoteFee (ok : Bool)
  | mark
  | pay (response : PaymentResponse)
  | write
  /-- the payment that returned `PENDING` settles -/
  | settle (success : Bool)
  deriving DecidableEq, Repr

inductive Action where
  /-- `createWithdrawLink` writes `ACTIVE` after its funding payment succeeded -/
  | fund
  | receive (i : ℕ) (handler : Handler)
  | request (i : ℕ) (a : RequestAction)
  deriving DecidableEq, Repr

namespace Redemptions

/-- A link just created: `PENDING`, with no request. -/
def created : Redemptions := ⟨.Pending, false, fun _ => none, [], 0⟩

def setRequest (s : Redemptions) (i : ℕ) (r : Request) : Redemptions :=
  { s with requests := Function.update s.requests i (some r) }

/-- `updateWithdrawLinkStatus`. -/
def updateStatus (s : Redemptions) (status : Status) : Redemptions := { s with status := status }

/-- The escrow wallet pays out `n` more times. -/
def payOut (s : Redemptions) (n : ℕ) : Redemptions := { s with payouts := s.payouts + n }

/-- One step of request `i`, in the state `r`. -/
def requestStep (s : Redemptions) (i : ℕ) (r : Request) : RequestAction → Option Redemptions
  | .read =>
    if r.step = .received then
      some (s.setRequest i
        { r with step := if r.handler.accepts s.status then .checked else .returned })
    else none
  | .quoteFee ok =>
    if r.handler = .onChain ∧ r.step = .checked then
      some (s.setRequest i { r with step := if ok then .feeQuoted else .returned })
    else none
  | .mark =>
    -- the callback writes right after its guard, the on-chain mutation after the fee
    if (r.handler = .callback ∧ r.step = .checked) ∨ (r.handler = .onChain ∧ r.step = .feeQuoted)
    then some ((s.setRequest i { r with step := .marked }).updateStatus r.handler.markStatus)
    else none
  | .pay response =>
    if r.step = .marked then
      let after := r.handler.afterPayment response
      some ((s.setRequest i { r with step := after.next, paymentPending := after.pending }).payOut
        (if after.paidOut then 1 else 0))
    else none
  | .write =>
    match r.step with
    | .reactivating => some ((s.setRequest i { r with step := .returned }).updateStatus .Active)
    | .settling => some ((s.setRequest i { r with step := .returned }).updateStatus .Paid)
    | _ => none
  | .settle success =>
    if r.paymentPending then
      some ((s.setRequest i { r with paymentPending := false }).payOut (if success then 1 else 0))
    else none

def next (s : Redemptions) : Action → Option Redemptions
  | .fund => if s.funded = false then some { s.updateStatus .Active with funded := true } else none
  | .receive i handler =>
    if s.requests i = none then
      some { s.setRequest i ⟨handler, .received, false⟩ with received := i :: s.received }
    else none
  | .request i a => (s.requests i).bind fun r => s.requestStep i r a

/-- Every request received so far has returned. -/
def allReturned (s : Redemptions) : Bool :=
  s.received.all fun j => (s.requests j).all (·.step == .returned)

/-- Requests are received after the funding, one after another has returned,
    and no payment returns `PENDING`. -/
def orderly (s : Redemptions) : Action → Bool
  | .receive _ _ => s.funded && s.allReturned
  | .request _ (.pay (.status .Pending)) => false
  | _ => true

/-- The redemptions handled one at a time. -/
def nextOrderly : Redemptions → Action → Option Redemptions := restrict next orderly

-- ============================================================================
-- Field lemmas
-- ============================================================================

section Fields

variable (s : Redemptions) (i : ℕ) (r : Request) (status : Status) (n : ℕ)

@[simp] theorem setRequest_status : (s.setRequest i r).status = s.status := rfl
@[simp] theorem setRequest_funded : (s.setRequest i r).funded = s.funded := rfl
@[simp] theorem setRequest_received : (s.setRequest i r).received = s.received := rfl
@[simp] theorem setRequest_payouts : (s.setRequest i r).payouts = s.payouts := rfl
@[simp] theorem setRequest_requests :
    (s.setRequest i r).requests = Function.update s.requests i (some r) := rfl
@[simp] theorem updateStatus_status : (s.updateStatus status).status = status := rfl
@[simp] theorem updateStatus_funded : (s.updateStatus status).funded = s.funded := rfl
@[simp] theorem updateStatus_received : (s.updateStatus status).received = s.received := rfl
@[simp] theorem updateStatus_payouts : (s.updateStatus status).payouts = s.payouts := rfl
@[simp] theorem updateStatus_requests : (s.updateStatus status).requests = s.requests := rfl
@[simp] theorem payOut_status : (s.payOut n).status = s.status := rfl
@[simp] theorem payOut_funded : (s.payOut n).funded = s.funded := rfl
@[simp] theorem payOut_received : (s.payOut n).received = s.received := rfl
@[simp] theorem payOut_payouts : (s.payOut n).payouts = s.payouts + n := rfl
@[simp] theorem payOut_requests : (s.payOut n).requests = s.requests := rfl

end Fields

-- ============================================================================
-- The invariant of orderly redemptions
-- ============================================================================

/-- Request `j` has returned, or was never received. -/
def Returned (s : Redemptions) (j : ℕ) : Prop :=
  ∀ r, s.requests j = some r → r.step = .returned

/-- What a request in progress tells about the link: before its payment none
    was made, a successful callback has made the one payout, and an on-chain
    request that is paying has marked the link `PAID`. -/
def Accounts (status : Status) (payouts : ℕ) (r : Request) : Prop :=
  match r.step with
  | .received => payouts = 0 ∨ status = .Paid
  | .checked | .feeQuoted | .reactivating => payouts = 0
  | .marked => payouts = 0 ∧ (r.handler = .onChain → status = .Paid)
  | .settling => payouts = 1
  | .returned => True

/-- The inductive invariant: at most one request is in progress, no payment is
    pending, and what the request in progress (or, between requests, the link's
    status) tells about the payouts holds. -/
structure Orderly (s : Redemptions) : Prop where
  received : ForallProcs s.requests fun i _ => i ∈ s.received
  unfunded : s.funded = false → s.payouts = 0 ∧ ∀ i, s.requests i = none
  notPending : ForallProcs s.requests fun _ r => r.paymentPending = false
  alone : ForallProcs s.requests fun i r => r.step ≠ .returned → ∀ j, j ≠ i → s.Returned j
  accounts : ForallProcs s.requests fun _ r => Accounts s.status s.payouts r
  quiet : (∀ j, s.Returned j) → s.payouts = 0 ∨ s.status = .Paid
  atMostOne : s.payouts ≤ 1

theorem created_orderly : created.Orderly where
  received _ _ hi := by cases hi
  unfunded _ := ⟨rfl, fun _ => rfl⟩
  notPending _ _ hi := by cases hi
  alone _ _ hi := by cases hi
  accounts _ _ hi := by cases hi
  quiet _ := .inl rfl
  atMostOne := Nat.zero_le 1

section Steps

variable {s : Redemptions} {i : ℕ} {r : Request}

/-- With every received id listed, `allReturned` says that every request has returned. -/
theorem Orderly.returned_of_allReturned (h : s.Orderly) (hAll : s.allReturned = true) :
    ∀ j, s.Returned j := by
  intro j rj hrj
  have hj := List.all_eq_true.mp hAll j (h.received j rj hrj)
  simpa [hrj] using hj

/-- Funding happens before any request, and keeps the invariant. -/
theorem Orderly.fund (h : s.Orderly) (hUnfunded : s.funded = false) :
    ({ s.updateStatus .Active with funded := true } : Redemptions).Orderly := by
  obtain ⟨hNone, hEmpty⟩ := h.unfunded hUnfunded
  have hNo : ∀ j r, s.requests j = some r → False := fun j r hj => by rw [hEmpty j] at hj; cases hj
  exact {
    received := fun j r hj => (hNo j r hj).elim
    unfunded := fun hf => by cases hf
    notPending := fun j r hj => (hNo j r hj).elim
    alone := fun j r hj => (hNo j r hj).elim
    accounts := fun j r hj => (hNo j r hj).elim
    quiet := fun _ => .inl hNone
    atMostOne := by simp [hNone] }

/-- Receiving a request after every earlier one has returned keeps the invariant. -/
theorem Orderly.receive (h : s.Orderly) (hFunded : s.funded = true)
    (hAll : ∀ j, s.Returned j) (handler : Handler) :
    ({ s.setRequest i ⟨handler, .received, false⟩ with received := i :: s.received } :
      Redemptions).Orderly := by
  have hQuiet := h.quiet hAll
  refine ⟨?_, fun hf => (by simp [hFunded] at hf), ?_, ?_, ?_, ?_, h.atMostOne⟩
  · exact h.received.update List.mem_cons_self fun _ _ _ _ hj => List.mem_cons_of_mem i hj
  · exact h.notPending.update rfl fun _ _ _ _ hj => hj
  · refine h.alone.update (fun _ j hj rj hrj => ?_) fun j rj _ hrj _ hOut => ?_
    · have hOld : s.requests j = some rj := by simpa [Function.update_of_ne hj] using hrj
      exact hAll j rj hOld
    · exact absurd (hAll j rj hrj) hOut
  · exact h.accounts.update hQuiet fun _ _ _ _ hj => hj
  · intro _
    exact hQuiet

/-- A step of request `i`, the one request in progress, that sets its state to
    `r'` and keeps the invariant's part for it, keeps the invariant. -/
theorem Orderly.update (h : s.Orderly) (hi : s.requests i = some r) (hOut : r.step ≠ .returned)
    {s' : Redemptions} {r' : Request}
    (hRequests : s'.requests = Function.update s.requests i (some r'))
    (hFunded : s'.funded = s.funded) (hReceived : s'.received = s.received)
    (hPending : r'.paymentPending = false) (hAccounts : Accounts s'.status s'.payouts r')
    (hQuiet : r'.step = .returned → s'.payouts = 0 ∨ s'.status = .Paid)
    (hAtMostOne : s'.payouts ≤ 1) : s'.Orderly := by
  -- the other requests have all returned, and returned requests tell nothing
  have hOthers := h.alone i r hi hOut
  have hFundedNow : s.funded = true := by
    cases hf : s.funded with
    | false => rw [(h.unfunded hf).2 i] at hi; cases hi
    | true => rfl
  refine ⟨?_, fun hf => (by rw [hFunded, hFundedNow] at hf; cases hf), ?_, ?_, ?_, ?_, hAtMostOne⟩
  · rw [hRequests, hReceived]
    exact h.received.update (h.received i r hi) fun _ _ _ _ hj => hj
  · rw [hRequests]
    exact h.notPending.update hPending fun _ _ _ _ hj => hj
  · rw [hRequests]
    refine h.alone.update (fun _ j hj rj hrj => ?_) fun j rj hji hrj _ hjOut => ?_
    · rw [hRequests, Function.update_of_ne hj] at hrj
      exact hOthers j hj rj hrj
    · exact absurd (hOthers j hji rj hrj) hjOut
  · rw [hRequests]
    refine h.accounts.update hAccounts fun j rj hji hrj _ => ?_
    simp [Accounts, hOthers j hji rj hrj]
  · intro hAll
    have hSelf := hAll i r' (by rw [hRequests, Function.update_self])
    exact hQuiet hSelf

/-- Every step of request `i` keeps the invariant, unless it is a payment that
    returns `PENDING`. -/
theorem Orderly.requestStep (h : s.Orderly) (hi : s.requests i = some r) {a : RequestAction}
    (hNotPending : a ≠ .pay (.status .Pending)) {s' : Redemptions}
    (hStep : s.requestStep i r a = some s') : s'.Orderly := by
  have hAccounts := h.accounts i r hi
  have hPending := h.notPending i r hi
  cases a with
  | read =>
    simp only [Redemptions.requestStep] at hStep
    split at hStep
    · rename_i hReceived
      cases hStep
      simp only [Accounts, hReceived] at hAccounts
      refine h.update hi (by simp [hReceived]) rfl rfl rfl hPending ?_ ?_ h.atMostOne
      · -- a link already `PAID` is turned away by both guards
        split
        · rename_i hAccepts
          have hNotPaid : s.status ≠ .Paid := by
            rintro hPaid
            cases hHandler : r.handler <;> simp [hHandler, hPaid, Handler.accepts] at hAccepts
          simp only [Accounts]
          exact hAccounts.resolve_right hNotPaid
        · trivial
      · intro _
        exact hAccounts
    · cases hStep
  | quoteFee ok =>
    simp only [Redemptions.requestStep] at hStep
    split at hStep
    · rename_i hChecked
      cases hStep
      simp only [Accounts, hChecked.2] at hAccounts
      refine h.update hi (by simp [hChecked.2]) rfl rfl rfl hPending ?_ (fun _ => .inl hAccounts)
        h.atMostOne
      cases ok <;> simp [Accounts, hAccounts]
    · cases hStep
  | mark =>
    simp only [Redemptions.requestStep] at hStep
    split at hStep
    · rename_i hReady
      cases hStep
      have hNone : s.payouts = 0 := by
        rcases hReady with ⟨-, hStep⟩ | ⟨-, hStep⟩ <;> simpa [Accounts, hStep] using hAccounts
      refine h.update hi ?_ rfl rfl rfl hPending ?_ (fun hr => by cases hr) h.atMostOne
      · rcases hReady with ⟨-, hStep⟩ | ⟨-, hStep⟩ <;> simp [hStep]
      · -- the on-chain mutation has just written `PAID`
        refine ⟨hNone, fun hOnChain => ?_⟩
        change r.handler = .onChain at hOnChain
        simp [hOnChain, Handler.markStatus]
    · cases hStep
  | pay response =>
    have hResponse : response ≠ .status .Pending := fun hr => hNotPending (by rw [hr])
    simp only [Redemptions.requestStep, Handler.afterPayment_of_ne_pending hResponse] at hStep
    split at hStep
    · rename_i hMarked
      simp only [Accounts, hMarked] at hAccounts
      obtain ⟨hNone, hPaid⟩ := hAccounts
      by_cases hSuccess : response = .status .Success
      · -- the one payout: the callback goes on to write `PAID`, the on-chain
        -- mutation wrote it before paying
        simp only [hSuccess, if_true, Option.some.injEq] at hStep
        subst hStep
        cases hHandler : r.handler with
        | callback =>
          exact h.update hi (by simp [hMarked]) rfl rfl rfl rfl (by simp [Accounts, hNone])
            (by simp) (by simp [hNone])
        | onChain =>
          exact h.update hi (by simp [hMarked]) rfl rfl rfl rfl (by simp [Accounts])
            (fun _ => .inr (hPaid hHandler)) (by simp [hNone])
      · simp only [hSuccess, if_false, Option.some.injEq] at hStep
        subst hStep
        exact h.update hi (by simp [hMarked]) rfl rfl rfl rfl (by simp [Accounts, hNone])
          (fun hr => by cases hr) (by simp [hNone])
    · cases hStep
  | write =>
    simp only [Redemptions.requestStep] at hStep
    split at hStep
    · rename_i hReactivating
      cases hStep
      simp only [Accounts, hReactivating] at hAccounts
      exact h.update hi (by simp [hReactivating]) rfl rfl rfl hPending trivial
        (fun _ => .inl hAccounts) (by simp [hAccounts])
    · rename_i hSettling
      cases hStep
      simp only [Accounts, hSettling] at hAccounts
      exact h.update hi (by simp [hSettling]) rfl rfl rfl hPending trivial (fun _ => .inr rfl)
        (by simp [hAccounts])
    · cases hStep
  | settle success =>
    simp only [Redemptions.requestStep, hPending] at hStep
    cases hStep

/-- Every orderly step keeps the invariant. -/
theorem Orderly.nextOrderly (h : s.Orderly) {a : Action} {s' : Redemptions}
    (hStep : Redemptions.nextOrderly s a = some s') : s'.Orderly := by
  obtain ⟨hOrderly, hStep⟩ := restrict_eq_some hStep
  cases a with
  | fund =>
    simp only [Redemptions.next] at hStep
    split at hStep
    · rename_i hUnfunded
      cases hStep
      exact h.fund hUnfunded
    · cases hStep
  | receive i handler =>
    simp only [Redemptions.next] at hStep
    split at hStep
    · cases hStep
      simp only [orderly, Bool.and_eq_true] at hOrderly
      exact h.receive hOrderly.1 (h.returned_of_allReturned hOrderly.2) handler
    · cases hStep
  | request i a =>
    simp only [Redemptions.next] at hStep
    obtain ⟨r, hi, hStep⟩ := Option.bind_eq_some_iff.mp hStep
    refine h.requestStep hi (fun hPay => ?_) hStep
    subst hPay
    simp [orderly] at hOrderly

end Steps

/-- The callback reads the funded link and pays the invoice. -/
def callbackPays (i : ℕ) (response : PaymentResponse) : List Action :=
  [.receive i .callback, .request i .read, .request i .mark, .request i (.pay response)]

/-- The on-chain mutation reads the link, queries the fee and pays the address. -/
def onChainPays (i : ℕ) (response : PaymentResponse) : List Action :=
  [.receive i .onChain, .request i .read, .request i (.quoteFee true), .request i .mark,
    .request i (.pay response)]

end Redemptions

open Redemptions in
/-- When requests for a link are handled one at a time, after its funding, and
    no payment returns `PENDING`, the escrow wallet pays the link out at most
    once. -/
theorem payouts_le_one_of_orderly {s : Redemptions} (h : Reachable nextOrderly created s) :
    s.payouts ≤ 1 :=
  (Invariant.holds ⟨created_orderly, fun _ _ _ hs hStep => hs.nextOrderly hStep⟩ h).atMostOne

open Redemptions in
/-- Handled one at a time, the link is paid out by the callback and then turned
    away by the on-chain mutation. -/
theorem callbackThenOnChain_paid_once :
    ∃ s, run nextOrderly created
        (.fund :: callbackPays 0 (.status .Success) ++
          [.request 0 .write, .receive 1 .onChain, .request 1 .read]) = some s ∧
      s.payouts = 1 ∧ s.payouts ≤ 1 := by
  obtain ⟨s, hRun⟩ : ∃ s, run nextOrderly created
      (.fund :: callbackPays 0 (.status .Success) ++
        [.request 0 .write, .receive 1 .onChain, .request 1 .read]) = some s := ⟨_, rfl⟩
  have hOne : s.payouts = 1 := by
    rw [Option.some.inj hRun.symm]
    rfl
  exact ⟨s, hRun, hOne, payouts_le_one_of_orderly (reachable_of_run hRun)⟩

open Redemptions in
/-- The callback's payment returns `PENDING` and later settles; the link stays
    `PENDING`, which the on-chain guard accepts, and the on-chain mutation pays
    the voucher out again.  The requests run one after the other. -/
theorem payouts_two_of_pending_callback :
    ∃ s, run next created
        (.fund :: callbackPays 0 (.status .Pending) ++ [.request 0 (.settle true)] ++
          onChainPays 1 (.status .Success)) = some s ∧
      s.status = .Paid ∧ s.payouts = 2 := by
  obtain ⟨s, hRun⟩ : ∃ s, run next created
      (.fund :: callbackPays 0 (.status .Pending) ++ [.request 0 (.settle true)] ++
        onChainPays 1 (.status .Success)) = some s := ⟨_, rfl⟩
  have hState : (run next created
      (.fund :: callbackPays 0 (.status .Pending) ++ [.request 0 (.settle true)] ++
        onChainPays 1 (.status .Success))).map (fun s => (s.status, s.payouts)) =
      some (.Paid, 2) := by decide
  rw [hRun, Option.map_some, Option.some.injEq, Prod.mk.injEq] at hState
  exact ⟨s, hRun, hState⟩

end Galoy.Voucher
