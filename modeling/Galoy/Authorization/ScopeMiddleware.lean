/-
  Galoy.Authorization.ScopeMiddleware

  The scope of a token in the public GraphQL API
  (`core/api/src/servers/middlewares/scope.ts`, `session.ts`, and the field
  groups of `graphql/public/queries.ts` and `mutations.ts`).

  `sessionPublicContext` splits the token's `scope` claim on spaces and drops
  the empty parts.  The scope middleware maps every authed field to a guard:
  queries need `read`, account-level and send mutations need `write`, and
  receive mutations need `receive` or fall through to the `write` guard.  An
  empty scope list is not restricted at all.

  The map is built by assigning guards to the keys of the field groups in
  turn, so a later group overrides an earlier one on a shared key; the groups
  share no key (`fieldGroups_disjoint`), and every authed field gets the
  guard of its own group (`scopeMiddleware_guards`).
-/

import Mathlib.Logic.Function.Basic

namespace Galoy

-- ============================================================================
-- Splitting a string on one character
-- ============================================================================

/-- `split` with a one-character separator, as JavaScript's `split(" ")` and
    Rust's `split(' ')` do it: every separator cuts, so two in a row, or one at
    either end, give an empty part, and the empty string gives one empty part. -/
def splitOnChar (s : String) (sep : Char) : List String :=
  (s.toList.splitOn sep).map String.ofList

-- ============================================================================
-- Scopes and guards
-- ============================================================================

inductive ScopesOauth2 where
  | Read
  | Write
  | Receive
  deriving DecidableEq, Repr

/-- The strings of `ScopesOauth2`. -/
def ScopesOauth2.value : ScopesOauth2 → String
  | Read => "read"
  | Write => "write"
  | Receive => "receive"

/-- The scope list of `sessionPublicContext`: the `scope` claim split on
    spaces with the empty parts dropped; no claim gives no scope. -/
def sessionScope (tokenScope : Option String) : List String :=
  ((tokenScope.map fun scope => splitOnChar scope ' ').getD []).filter (· != "")

/-- JavaScript truthiness of what `Array.prototype.find` returns: `undefined`
    and the empty string are falsy. -/
def isTruthy : Option String → Bool
  | none => false
  | some s => s != ""

/-- What a guard lets happen: the resolver runs, or `mapError` of an
    `AuthorizationError` with the message. -/
inductive AuthorizeOutcome where
  | resolve
  | error (message : String)
  deriving DecidableEq, Repr

/-- The body that `readAuthorize` and `writeAuthorize` share: no scope, or an
    empty one, is not a token with scope; otherwise the required scope must be
    found.  `found` is how the guard tests what `find` returned. -/
def scopeAuthorize (found : Option String → Bool) (required : ScopesOauth2) (message : String)
    (scope : Option (List String)) : AuthorizeOutcome :=
  match scope with
  | none => .resolve
  | some scope =>
    if scope.length = 0 then .resolve
    else if found (scope.find? (· == required.value)) then .resolve
    else .error message

/-- `readAuthorize` tests the found element for truthiness. -/
def readAuthorize : Option (List String) → AuthorizeOutcome :=
  scopeAuthorize isTruthy .Read "not authorized to read data"

/-- `writeAuthorize` tests the found element against `undefined`. -/
def writeAuthorize : Option (List String) → AuthorizeOutcome :=
  scopeAuthorize Option.isSome .Write "not authorized to execute mutations"

/-- `receiveAuthorize`: a scope without `receive` is handed to `writeAuthorize`. -/
def receiveAuthorize (scope : Option (List String)) : AuthorizeOutcome :=
  match scope with
  | none => .resolve
  | some scope =>
    if scope.length = 0 then .resolve
    else if isTruthy (scope.find? (· == ScopesOauth2.Receive.value)) then .resolve
    else writeAuthorize (some scope)

/-- `sessionPublicContext` keeps exactly the non-empty parts of the claim. -/
theorem mem_sessionScope {tokenScope : String} {part : String} :
    part ∈ sessionScope (some tokenScope) ↔ part ∈ splitOnChar tokenScope ' ' ∧ part ≠ "" := by
  simp [sessionScope]

/-- `find` with `===` returns the value itself when it is in the list. -/
theorem find?_beq_eq (scope : List String) (value : String) :
    scope.find? (· == value) = if value ∈ scope then some value else none := by
  induction scope with
  | nil => simp
  | cons part scope ih =>
    by_cases hPart : part = value
    · subst hPart
      simp
    · have hBeq : (part == value) = false := beq_false_of_ne hPart
      rw [List.find?_cons, hBeq, ih]
      simp [Ne.symm hPart]

/-- Testing what `find` returned for truthiness or against `undefined` is the
    same test for a non-empty value: whether it is in the list. -/
theorem isTruthy_find?_beq (scope : List String) {value : String} (hValue : value ≠ "") :
    isTruthy (scope.find? (· == value)) = decide (value ∈ scope) := by
  rw [find?_beq_eq]
  split
  · rename_i hMem
    simp [isTruthy, hValue, hMem]
  · rename_i hMem
    simp [isTruthy, hMem]

theorem isSome_find?_beq (scope : List String) (value : String) :
    (scope.find? (· == value)).isSome = decide (value ∈ scope) := by
  rw [find?_beq_eq]
  split <;> simp [*]

theorem ScopesOauth2.value_ne_empty (scope : ScopesOauth2) : scope.value ≠ "" := by
  cases scope <;> decide

/-- A token with a non-empty scope passes a shared-body guard exactly when the
    required scope is in it, and is refused with the guard's message otherwise. -/
theorem scopeAuthorize_some {found : Option String → Bool} {required : ScopesOauth2}
    (hFound : ∀ scope : List String,
      found (scope.find? (· == required.value)) = decide (required.value ∈ scope))
    (message : String) {scope : List String} (hScope : scope ≠ []) :
    scopeAuthorize found required message (some scope) =
      if required.value ∈ scope then .resolve else .error message := by
  have hLength : scope.length ≠ 0 := by simpa using hScope
  simp only [scopeAuthorize, if_neg hLength, hFound, decide_eq_true_eq]

theorem readAuthorize_some {scope : List String} (hScope : scope ≠ []) :
    readAuthorize (some scope) =
      if "read" ∈ scope then .resolve else .error "not authorized to read data" :=
  scopeAuthorize_some (fun scope => isTruthy_find?_beq scope (ScopesOauth2.value_ne_empty .Read))
    _ hScope

theorem writeAuthorize_some {scope : List String} (hScope : scope ≠ []) :
    writeAuthorize (some scope) =
      if "write" ∈ scope then .resolve else .error "not authorized to execute mutations" :=
  scopeAuthorize_some (fun scope => isSome_find?_beq scope _) _ hScope

/-- Without `receive`, the receive guard is the write guard. -/
theorem receiveAuthorize_some {scope : List String} (hScope : scope ≠ []) :
    receiveAuthorize (some scope) =
      if "receive" ∈ scope then .resolve else writeAuthorize (some scope) := by
  have hLength : scope.length ≠ 0 := by simpa using hScope
  simp only [receiveAuthorize, if_neg hLength,
    isTruthy_find?_beq scope (ScopesOauth2.value_ne_empty .Receive), decide_eq_true_eq]
  rfl

/-- An empty scope list, or none, is not restricted by any guard. -/
theorem authorize_unrestricted {scope : Option (List String)} (hScope : scope.getD [] = []) :
    readAuthorize scope = .resolve ∧ writeAuthorize scope = .resolve ∧
      receiveAuthorize scope = .resolve := by
  cases scope with
  | none => exact ⟨rfl, rfl, rfl⟩
  | some scope =>
    rw [Option.getD_some] at hScope
    subst hScope
    exact ⟨rfl, rfl, rfl⟩

-- ============================================================================
-- The field groups of the public schema
-- ============================================================================

def queryFields.unauthed : List String :=
  ["globals", "usernameAvailable", "userDefaultWalletId", "accountDefaultWallet",
    "businessMapMarkers", "currencyList", "mobileVersions", "realtimePrice",
    "currencyConversionEstimation", "btcPriceList", "lnInvoicePaymentStatus",
    "lnInvoicePaymentStatusByHash", "lnInvoicePaymentStatusByPaymentRequest"]

def queryFields.authed.atAccountLevel : List String :=
  ["authorization", "me"]

def queryFields.authed.atWalletLevel : List String :=
  ["onChainTxFee", "onChainUsdTxFee", "onChainUsdTxFeeAsBtcDenominated"]

def mutationFields.unauthed : List String :=
  ["captchaCreateChallenge", "captchaRequestAuthCode", "userLogin",
    "lnInvoiceCreateOnBehalfOfRecipient", "lnUsdInvoiceCreateOnBehalfOfRecipient",
    "lnUsdInvoiceBtcDenominatedCreateOnBehalfOfRecipient",
    "lnNoAmountInvoiceCreateOnBehalfOfRecipient", "merchantMapSuggest"]

def mutationFields.authed.atAccountLevel : List String :=
  ["userLoginUpgrade", "userEmailRegistrationInitiate", "userEmailRegistrationValidate",
    "userEmailDelete", "userPhoneRegistrationInitiate", "userPhoneRegistrationValidate",
    "userPhoneDelete", "userTotpRegistrationInitiate", "userTotpRegistrationValidate",
    "userTotpDelete", "userLogout", "quizClaim", "deviceNotificationTokenCreate",
    "supportChatMessageAdd", "supportChatReset", "userUpdateLanguage", "userUpdateUsername",
    "userContactUpdateAlias", "accountUpdateDefaultWalletId", "accountUpdateDisplayCurrency",
    "accountEnableNotificationCategory", "accountDisableNotificationCategory",
    "accountEnableNotificationChannel", "accountDisableNotificationChannel", "accountDelete",
    "feedbackSubmit", "callbackEndpointAdd", "callbackEndpointDelete"]

def mutationFields.authed.atWalletLevel.send : List String :=
  ["intraLedgerPaymentSend", "intraLedgerUsdPaymentSend", "lnAddressPaymentSend",
    "lnurlPaymentSend", "lnInvoiceFeeProbe", "lnUsdInvoiceFeeProbe", "lnNoAmountInvoiceFeeProbe",
    "lnNoAmountUsdInvoiceFeeProbe", "lnInvoicePaymentSend", "lnNoAmountInvoicePaymentSend",
    "lnNoAmountUsdInvoicePaymentSend", "onChainPaymentSend", "onChainUsdPaymentSend",
    "onChainUsdPaymentSendAsBtcDenominated", "onChainPaymentSendAll"]

def mutationFields.authed.atWalletLevel.receive : List String :=
  ["lnInvoiceCreate", "lnUsdInvoiceCreate", "lnNoAmountInvoiceCreate", "lnInvoiceCancel",
    "onChainAddressCreate", "onChainAddressCurrent"]

/-- The fields of `QueryType`, in the order of its spreads. -/
def QueryType.fields : List String :=
  queryFields.unauthed ++ queryFields.authed.atAccountLevel ++ queryFields.authed.atWalletLevel

/-- The fields of `MutationType`, in the order of its spreads. -/
def MutationType.fields : List String :=
  mutationFields.unauthed ++ mutationFields.authed.atAccountLevel ++
    mutationFields.authed.atWalletLevel.send ++ mutationFields.authed.atWalletLevel.receive

-- ============================================================================
-- The middleware map
-- ============================================================================

section Assign

variable {κ β : Type} [DecidableEq κ]

/-- `for (const key of keys) fields[key] = value`. -/
def assignAll (fields : κ → Option β) (keys : List κ) (value : β) : κ → Option β :=
  keys.foldl (fun fields key => Function.update fields key (some value)) fields

/-- After the loop, a key of the list holds the value, and any other key what
    it held before. -/
theorem assignAll_apply (fields : κ → Option β) (keys : List κ) (value : β) (key : κ) :
    assignAll fields keys value key = if key ∈ keys then some value else fields key := by
  induction keys generalizing fields with
  | nil => simp [assignAll]
  | cons k keys ih =>
    have hStep := ih (Function.update fields k (some value))
    simp only [assignAll, List.foldl_cons] at hStep ⊢
    rw [hStep]
    by_cases hMem : key ∈ keys
    · simp [hMem]
    · by_cases hk : key = k
      · simp [hk]
      · simp [hMem, hk]

end Assign

/-- `authedQueryFields`: every authed query gets `readAuthorize`.  The keys of
    the spread object are the keys of both groups; a key that were in both
    would only be assigned twice. -/
def authedQueryFields : String → Option (Option (List String) → AuthorizeOutcome) :=
  assignAll (fun _ => none) (queryFields.authed.atAccountLevel ++ queryFields.authed.atWalletLevel)
    readAuthorize

/-- `authedMutationFields`: account-level and send mutations get
    `writeAuthorize`, then receive mutations get `receiveAuthorize`. -/
def authedMutationFields : String → Option (Option (List String) → AuthorizeOutcome) :=
  assignAll
    (assignAll (fun _ => none)
      (mutationFields.authed.atAccountLevel ++ mutationFields.authed.atWalletLevel.send)
      writeAuthorize)
    mutationFields.authed.atWalletLevel.receive receiveAuthorize

/-- The guards of one root type, by field name. -/
structure FieldGuards where
  Query : String → Option (Option (List String) → AuthorizeOutcome)
  Mutation : String → Option (Option (List String) → AuthorizeOutcome)

def scopeMiddleware : FieldGuards := ⟨authedQueryFields, authedMutationFields⟩

@[simp] theorem scopeMiddleware_Query : scopeMiddleware.Query = authedQueryFields := rfl

@[simp] theorem scopeMiddleware_Mutation : scopeMiddleware.Mutation = authedMutationFields := rfl

/-- `applyMiddleware`: a field with a guard runs it before its resolver; any
    other field resolves. -/
def guardField (guards : String → Option (Option (List String) → AuthorizeOutcome))
    (field : String) (scope : Option (List String)) : AuthorizeOutcome :=
  match guards field with
  | some validate => validate scope
  | none => .resolve

theorem guardField_of_eq {guards : String → Option (Option (List String) → AuthorizeOutcome)}
    {field : String} {validate : Option (List String) → AuthorizeOutcome}
    (h : guards field = some validate) (scope : Option (List String)) :
    guardField guards field scope = validate scope := by
  rw [guardField, h]

/-- The guards assign no key twice: the unauthed mutations, the account-level
    and send mutations, and the receive mutations are pairwise disjoint, and so
    are the unauthed and the authed queries. -/
theorem fieldGroups_disjoint :
    (∀ field ∈ mutationFields.authed.atWalletLevel.receive,
      field ∉ mutationFields.authed.atAccountLevel ++ mutationFields.authed.atWalletLevel.send) ∧
    (∀ field ∈ mutationFields.unauthed,
      field ∉ mutationFields.authed.atAccountLevel ++ mutationFields.authed.atWalletLevel.send ++
        mutationFields.authed.atWalletLevel.receive) ∧
    (∀ field ∈ queryFields.unauthed,
      field ∉ queryFields.authed.atAccountLevel ++ queryFields.authed.atWalletLevel) := by
  decide

/-- Every authed query is guarded by `readAuthorize`. -/
theorem authedQueryFields_of_mem {field : String}
    (hField : field ∈ queryFields.authed.atAccountLevel ++ queryFields.authed.atWalletLevel) :
    authedQueryFields field = some readAuthorize := by
  rw [authedQueryFields, assignAll_apply, if_pos hField]

/-- Every account-level and send mutation is guarded by `writeAuthorize`: the
    receive loop, which runs after, does not reach it. -/
theorem authedMutationFields_of_write {field : String}
    (hField : field ∈ mutationFields.authed.atAccountLevel ++ mutationFields.authed.atWalletLevel.send) :
    authedMutationFields field = some writeAuthorize := by
  have hNotReceive : field ∉ mutationFields.authed.atWalletLevel.receive :=
    fun hReceive => fieldGroups_disjoint.1 field hReceive hField
  rw [authedMutationFields, assignAll_apply, if_neg hNotReceive, assignAll_apply, if_pos hField]

theorem authedMutationFields_of_receive {field : String}
    (hField : field ∈ mutationFields.authed.atWalletLevel.receive) :
    authedMutationFields field = some receiveAuthorize := by
  rw [authedMutationFields, assignAll_apply, if_pos hField]

/-- The unauthed mutations have no guard. -/
theorem authedMutationFields_of_unauthed {field : String} (hField : field ∈ mutationFields.unauthed) :
    authedMutationFields field = none := by
  have hNotAuthed := fieldGroups_disjoint.2.1 field hField
  simp only [List.mem_append, not_or] at hNotAuthed
  rw [authedMutationFields, assignAll_apply, if_neg hNotAuthed.2, assignAll_apply,
    if_neg (by simpa using hNotAuthed.1)]

/-- For a token with a non-empty scope list `S`: an authed query resolves
    exactly when `S` has `read`, an account-level or send mutation exactly when
    it has `write`, and a receive mutation exactly when it has `receive` or
    `write`. -/
theorem scopeMiddleware_guards {scope : List String} (hScope : scope ≠ []) :
    (∀ field ∈ queryFields.authed.atAccountLevel ++ queryFields.authed.atWalletLevel,
      guardField scopeMiddleware.Query field (some scope) = .resolve ↔ "read" ∈ scope) ∧
    (∀ field ∈ mutationFields.authed.atAccountLevel ++ mutationFields.authed.atWalletLevel.send,
      guardField scopeMiddleware.Mutation field (some scope) = .resolve ↔ "write" ∈ scope) ∧
    (∀ field ∈ mutationFields.authed.atWalletLevel.receive,
      guardField scopeMiddleware.Mutation field (some scope) = .resolve ↔
        "receive" ∈ scope ∨ "write" ∈ scope) := by
  refine ⟨fun field hField => ?_, fun field hField => ?_, fun field hField => ?_⟩
  · rw [scopeMiddleware_Query, guardField_of_eq (authedQueryFields_of_mem hField),
      readAuthorize_some hScope]
    split <;> simp [*]
  · rw [scopeMiddleware_Mutation, guardField_of_eq (authedMutationFields_of_write hField),
      writeAuthorize_some hScope]
    split <;> simp [*]
  · rw [scopeMiddleware_Mutation, guardField_of_eq (authedMutationFields_of_receive hField),
      receiveAuthorize_some hScope, writeAuthorize_some hScope]
    by_cases hReceive : "receive" ∈ scope
    · simp [hReceive]
    · by_cases hWrite : "write" ∈ scope <;> simp [hReceive, hWrite]

/-- The guards as a whole, for every token: an unauthed mutation resolves; a
    scope list that is absent or empty passes every guard; and a non-empty one
    passes an authed query exactly when it has `read`, an account-level or send
    mutation exactly when it has `write`, and a receive mutation exactly when it
    has `receive` or `write`. -/
theorem scopeMiddleware_resolves (scope : Option (List String)) :
    (∀ field ∈ mutationFields.unauthed,
      guardField scopeMiddleware.Mutation field scope = .resolve) ∧
    (scope.getD [] = [] →
      (∀ field, guardField scopeMiddleware.Query field scope = .resolve) ∧
        ∀ field, guardField scopeMiddleware.Mutation field scope = .resolve) ∧
    ∀ parts, scope = some parts → parts ≠ [] →
      (∀ field ∈ queryFields.authed.atAccountLevel ++ queryFields.authed.atWalletLevel,
        guardField scopeMiddleware.Query field scope = .resolve ↔ "read" ∈ parts) ∧
      (∀ field ∈ mutationFields.authed.atAccountLevel ++ mutationFields.authed.atWalletLevel.send,
        guardField scopeMiddleware.Mutation field scope = .resolve ↔ "write" ∈ parts) ∧
      (∀ field ∈ mutationFields.authed.atWalletLevel.receive,
        guardField scopeMiddleware.Mutation field scope = .resolve ↔
          "receive" ∈ parts ∨ "write" ∈ parts) := by
  refine ⟨fun field hField => ?_, fun hEmpty => ?_, fun parts hParts hNonEmpty => ?_⟩
  · rw [scopeMiddleware_Mutation, guardField, authedMutationFields_of_unauthed hField]
  · -- every guard a field can have lets the unrestricted scope through
    obtain ⟨hRead, hWrite, hReceive⟩ := authorize_unrestricted hEmpty
    refine ⟨fun field => ?_, fun field => ?_⟩
    · rw [scopeMiddleware_Query, guardField, authedQueryFields, assignAll_apply]
      by_cases hField : field ∈ queryFields.authed.atAccountLevel ++ queryFields.authed.atWalletLevel
      · rw [if_pos hField]
        exact hRead
      · rw [if_neg hField]
    · rw [scopeMiddleware_Mutation, guardField, authedMutationFields, assignAll_apply,
        assignAll_apply]
      by_cases hReceiveField : field ∈ mutationFields.authed.atWalletLevel.receive
      · rw [if_pos hReceiveField]
        exact hReceive
      · rw [if_neg hReceiveField]
        by_cases hWriteField : field ∈
            mutationFields.authed.atAccountLevel ++ mutationFields.authed.atWalletLevel.send
        · rw [if_pos hWriteField]
          exact hWrite
        · rw [if_neg hWriteField]
  · subst hParts
    exact scopeMiddleware_guards hNonEmpty

end Galoy
