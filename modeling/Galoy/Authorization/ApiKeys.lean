/-
  Galoy.Authorization.ApiKeys

  The api-keys service (`core/api-keys/src/scope.rs`, `graphql/schema.rs`,
  `server/mod.rs`, `identity/mod.rs`, `app/mod.rs`) and the tokens minted
  from its keys.

  The check endpoint answers a key with its subject and its scopes joined by
  spaces, which becomes the `scope` claim of the JWT that both GraphQL APIs
  receive.  The api-keys GraphQL handler turns the claim into `can_write`:
  `apiKeyCreate` refuses a subject that cannot write, but `apiKeyRevoke`
  never reads `can_write`, so a token minted from a read-only key revokes any
  key of its subject (`apiKeyRevoke_readOnlyKey_revokes`).  The key store
  changes only through these mutations, and from an empty store every key has
  a scope; every other state-changing operation is then closed to such a
  token (`mintedToken_without_write_of_reachable`).
-/

import Galoy.Authorization.ScopeMiddleware
import Galoy.Lib.Transition
import Mathlib.Data.Nat.Notation

namespace Galoy

namespace ApiKeys

-- ============================================================================
-- Scopes
-- ============================================================================

inductive Scope where
  | Read
  | Write
  | Receive
  deriving DecidableEq, Repr

/-- `Display` of `Scope`. -/
def Scope.toString : Scope → String
  | Read => "read"
  | Write => "write"
  | Receive => "receive"

/-- `is_read_only`. -/
def isReadOnly (scope : List Scope) : Bool :=
  scope.length == 1 && scope.head? == some .Read

/-- `can_write`: a `write` part, or the empty claim. -/
def canWrite (scope : String) : Bool :=
  (splitOnChar scope ' ').any (· == "write") || scope.isEmpty

/-- `default_scopes` of `ApiKeyCreateInput`. -/
def defaultScopes : List Scope := [.Read, .Write]

-- ============================================================================
-- The key store
-- ============================================================================

/-- A row of `identity_api_keys` with the subject of its identity
    (`subject_id` is unique among identities); the secret, times and expiry
    are not modelled. -/
structure IdentityApiKey where
  id : ℕ
  subjectId : String
  name : String
  revoked : Bool
  scopes : List Scope
  deriving DecidableEq, Repr

structure Identities where
  keys : List IdentityApiKey
  deriving DecidableEq, Repr

inductive IdentityError where
  | KeyNotFoundForRevoke
  | MismatchedPrefix
  | NoActiveKeyFound
  deriving DecidableEq, Repr

def IdentityError.message : IdentityError → String
  | KeyNotFoundForRevoke => "IdentityError - KeyNotFoundForRevoke"
  | MismatchedPrefix => "IdentityError - MismatchedPrefix"
  | NoActiveKeyFound => "IdentityError - NoActiveKeyFound"

inductive ApplicationError where
  | MissingScopes
  | MissingApiKey
  | Identity (error : IdentityError)
  deriving DecidableEq, Repr

def ApplicationError.message : ApplicationError → String
  | MissingScopes => "scopes can not be empty"
  | MissingApiKey => "ApplicationError - MissingApiKey"
  | Identity error => "ApplicationError - IdentityError: " ++ error.message

namespace Identities

/-- `create_api_key_for_subject`: the identity of the subject (found or
    created) gets a new key with the scopes, which must not be empty. -/
def createApiKeyForSubject (store : Identities) (subjectId : String) (name : String)
    (scopes : List Scope) (freshId : ℕ) : Except ApplicationError (IdentityApiKey × Identities) :=
  if scopes.isEmpty then .error .MissingScopes
  else
    let key : IdentityApiKey := ⟨freshId, subjectId, name, false, scopes⟩
    .ok (key, ⟨store.keys ++ [key]⟩)

/-- The `WHERE` of `revoke_api_key`. -/
def revokes (subjectId : String) (keyId : ℕ) (key : IdentityApiKey) : Bool :=
  key.subjectId == subjectId && key.id == keyId

/-- `revoke_api_key`: `UPDATE ... SET revoked = true` on the subject's key with
    that id, returning it. -/
def revokeApiKey (store : Identities) (subjectId : String) (keyId : ℕ) :
    Except IdentityError (IdentityApiKey × Identities) :=
  match store.keys.find? (revokes subjectId keyId) with
  | none => .error .KeyNotFoundForRevoke
  | some key =>
    .ok ({ key with revoked := true },
      ⟨store.keys.map fun k => if revokes subjectId keyId k then { k with revoked := true } else k⟩)

/-- `find_subject_by_key`, with the key given by its id: an unrevoked key
    gives its id, its subject and its scopes. -/
def findSubjectByKey (store : Identities) (keyId : ℕ) :
    Except IdentityError (ℕ × String × List Scope) :=
  match store.keys.find? fun k => k.id == keyId && !k.revoked with
  | none => .error .NoActiveKeyFound
  | some key => .ok (key.id, key.subjectId, key.scopes)

end Identities

-- ============================================================================
-- The handlers
-- ============================================================================

/-- What the check endpoint returns; the JWT mutator copies both fields into
    the token's claims. -/
structure CheckResponse where
  sub : String
  scope : String
  deriving DecidableEq, Repr

/-- `check_handler`: the key's scopes joined by spaces. -/
def checkHandler (store : Identities) (keyId : ℕ) : Except ApplicationError CheckResponse :=
  match store.findSubjectByKey keyId with
  | .error error => .error (.Identity error)
  | .ok (_, sub, scopes) => .ok ⟨sub, " ".intercalate (scopes.map Scope.toString)⟩

/-- The claims the api-keys handler reads; an absent `scope` defaults to the
    empty string. -/
structure JwtClaims where
  sub : String
  scope : String
  deriving DecidableEq, Repr

structure AuthSubject where
  id : String
  canWrite : Bool
  deriving DecidableEq, Repr

/-- `graphql_handler`: the subject and whether it can write. -/
def graphqlHandler (claims : JwtClaims) : AuthSubject :=
  ⟨claims.sub, canWrite claims.scope⟩

/-- The `ApiKey` object of a key (`From<IdentityApiKey>`), without its times. -/
structure ApiKey where
  id : ℕ
  name : String
  revoked : Bool
  readOnly : Bool
  scopes : List Scope
  deriving DecidableEq, Repr

def ApiKey.ofIdentityApiKey (key : IdentityApiKey) : ApiKey :=
  ⟨key.id, key.name, key.revoked, isReadOnly key.scopes, key.scopes⟩

structure ApiKeyCreateInput where
  name : String
  scopes : Option (List Scope)
  deriving DecidableEq, Repr

/-- `Mutation::api_key_create`; the secret of the payload is not modelled. -/
def apiKeyCreate (store : Identities) (subject : AuthSubject) (input : ApiKeyCreateInput)
    (freshId : ℕ) : Except String (ApiKey × Identities) :=
  if !subject.canWrite then .error "Permission denied"
  else
    match store.createApiKeyForSubject subject.id input.name (input.scopes.getD defaultScopes)
        freshId with
    | .error error => .error error.message
    | .ok (key, store') => .ok (ApiKey.ofIdentityApiKey key, store')

/-- `Mutation::api_key_revoke`: no check of `can_write`. -/
def apiKeyRevoke (store : Identities) (subject : AuthSubject) (keyId : ℕ) :
    Except String (ApiKey × Identities) :=
  match store.revokeApiKey subject.id keyId with
  | .error error => .error (ApplicationError.Identity error).message
  | .ok (key, store') => .ok (ApiKey.ofIdentityApiKey key, store')

inductive Mutation where
  | apiKeyCreate (input : ApiKeyCreateInput) (freshId : ℕ)
  | apiKeyRevoke (keyId : ℕ)

/-- A mutation of a request with these claims, and the key store after it. -/
def execute (claims : JwtClaims) (store : Identities) : Mutation → Except String (ApiKey × Identities)
  | .apiKeyCreate input freshId => apiKeyCreate store (graphqlHandler claims) input freshId
  | .apiKeyRevoke keyId => apiKeyRevoke store (graphqlHandler claims) keyId

/-- The key store after a request with these claims runs a mutation; a
    mutation that fails changes nothing. -/
def Identities.afterMutation (store : Identities) (request : JwtClaims × Mutation) :
    Option Identities :=
  match execute request.1 store request.2 with
  | .ok (_, store') => some store'
  | .error _ => none

-- ============================================================================
-- What the scope claim allows
-- ============================================================================

@[simp] theorem sessionScope_empty : sessionScope (some "") = [] := by decide

/-- For a claim with a non-empty part, `can_write` and the public API agree:
    the token can write exactly when `write` is one of its parts. -/
theorem canWrite_iff {scope : String} (hScope : sessionScope (some scope) ≠ []) :
    canWrite scope = true ↔ "write" ∈ sessionScope (some scope) := by
  have hNonEmpty : scope.isEmpty = false := by
    cases hEmpty : scope.isEmpty with
    | false => rfl
    | true =>
      rw [String.isEmpty_iff] at hEmpty
      subst hEmpty
      exact absurd sessionScope_empty hScope
  rw [canWrite, hNonEmpty, Bool.or_false, List.any_eq_true, mem_sessionScope]
  simp

theorem Scope.toString_ne_empty (scope : Scope) : scope.toString ≠ "" := by
  cases scope <;> decide

/-- The claim minted from a key's scopes parses back to them: no scope string
    is empty or holds a space. -/
theorem sessionScope_intercalate {scopes : List Scope} (hScopes : scopes ≠ []) :
    sessionScope (some (" ".intercalate (scopes.map Scope.toString))) = scopes.map Scope.toString := by
  have hNoSpace : ∀ part ∈ (scopes.map Scope.toString).map String.toList, ' ' ∉ part := by
    intro part hPart
    obtain ⟨scope, -, rfl⟩ := List.mem_map.mp (List.map_map ▸ hPart)
    cases scope <;> decide
  have hSplit : splitOnChar (" ".intercalate (scopes.map Scope.toString)) ' ' =
      scopes.map Scope.toString := by
    have hSpace : " ".toList = [' '] := rfl
    rw [splitOnChar, String.toList_intercalate, hSpace,
      List.splitOn_intercalate ' ' hNoSpace (by simpa using hScopes), List.map_map]
    simp
  rw [sessionScope, Option.map_some, Option.getD_some, hSplit, List.filter_eq_self]
  intro part hPart
  obtain ⟨scope, -, rfl⟩ := List.mem_map.mp hPart
  simpa using scope.toString_ne_empty

-- ============================================================================
-- The key store under the mutations
-- ============================================================================

namespace Identities

/-- Every key has a scope: `create_api_key_for_subject` refuses empty scopes. -/
def ScopesNonEmpty (store : Identities) : Prop :=
  ∀ key ∈ store.keys, key.scopes ≠ []

theorem createApiKeyForSubject_eq_ok {store store' : Identities} {subjectId name : String}
    {scopes : List Scope} {freshId : ℕ} {key : IdentityApiKey}
    (h : store.createApiKeyForSubject subjectId name scopes freshId = .ok (key, store')) :
    scopes ≠ [] ∧ key = ⟨freshId, subjectId, name, false, scopes⟩ ∧ store' = ⟨store.keys ++ [key]⟩ := by
  unfold createApiKeyForSubject at h
  split at h
  · cases h
  · rename_i hEmpty
    cases h
    exact ⟨by simpa using hEmpty, rfl, rfl⟩

/-- A revoke marks the subject's key with that id, and only keys of that
    subject with that id; it succeeds exactly when there is one. -/
theorem revokeApiKey_eq_ok_iff {store : Identities} {subjectId : String} {keyId : ℕ} :
    (∃ result, store.revokeApiKey subjectId keyId = .ok result) ↔
      ∃ key ∈ store.keys, key.subjectId = subjectId ∧ key.id = keyId := by
  unfold revokeApiKey
  split
  · rename_i hNone
    rw [List.find?_eq_none] at hNone
    simp only [reduceCtorEq, exists_false, false_iff, not_exists, not_and]
    intro key hKey hSubject hId
    exact hNone key hKey (by simp [revokes, hSubject, hId])
  · rename_i key hFound
    have hRevokes := List.find?_some hFound
    simp only [revokes, Bool.and_eq_true, beq_iff_eq] at hRevokes
    exact ⟨fun _ => ⟨key, List.mem_of_find?_eq_some hFound, hRevokes⟩, fun _ => ⟨_, rfl⟩⟩

theorem revokeApiKey_scopesNonEmpty {store store' : Identities} {subjectId : String} {keyId : ℕ}
    {key : IdentityApiKey} (hStore : store.ScopesNonEmpty)
    (h : store.revokeApiKey subjectId keyId = .ok (key, store')) : store'.ScopesNonEmpty := by
  unfold revokeApiKey at h
  split at h
  · cases h
  · cases h
    intro key' hKey'
    obtain ⟨key'', hKey'', rfl⟩ := List.mem_map.mp hKey'
    split <;> exact hStore key'' hKey''

end Identities

/-- Creating a key needs `can_write`. -/
theorem apiKeyCreate_eq_ok {store store' : Identities} {subject : AuthSubject}
    {input : ApiKeyCreateInput} {freshId : ℕ} {apiKey : ApiKey}
    (h : apiKeyCreate store subject input freshId = .ok (apiKey, store')) :
    subject.canWrite = true ∧ ∃ key, apiKey = ApiKey.ofIdentityApiKey key ∧
      store.createApiKeyForSubject subject.id input.name (input.scopes.getD defaultScopes) freshId =
        .ok (key, store') := by
  unfold apiKeyCreate at h
  split at h
  · cases h
  · rename_i hCanWrite
    refine ⟨by simpa using hCanWrite, ?_⟩
    split at h
    · cases h
    · rename_i key store'' hCreate
      cases h
      exact ⟨key, rfl, hCreate⟩

/-- Revoking needs nothing of the scope claim: only a key of the subject. -/
theorem execute_apiKeyRevoke_ok_iff {claims : JwtClaims} {store : Identities} {keyId : ℕ} :
    (∃ result, execute claims store (.apiKeyRevoke keyId) = .ok result) ↔
      ∃ key ∈ store.keys, key.subjectId = claims.sub ∧ key.id = keyId := by
  rw [← Identities.revokeApiKey_eq_ok_iff]
  simp only [execute, apiKeyRevoke, graphqlHandler]
  split
  · rename_i hError
    simp [hError]
  · rename_i key store' hOk
    simp [hOk]

/-- Every key keeps a scope through any mutation. -/
theorem execute_scopesNonEmpty {claims : JwtClaims} {store store' : Identities} {m : Mutation}
    {apiKey : ApiKey} (hStore : store.ScopesNonEmpty)
    (h : execute claims store m = .ok (apiKey, store')) : store'.ScopesNonEmpty := by
  cases m with
  | apiKeyCreate input freshId =>
    obtain ⟨-, key, -, hCreate⟩ := apiKeyCreate_eq_ok h
    obtain ⟨hScopes, rfl, rfl⟩ := Identities.createApiKeyForSubject_eq_ok hCreate
    intro key' hKey'
    rcases List.mem_append.mp hKey' with hOld | hNew
    · exact hStore key' hOld
    · rw [List.mem_singleton.mp hNew]
      exact hScopes
  | apiKeyRevoke keyId =>
    simp only [execute, apiKeyRevoke] at h
    split at h
    · cases h
    · rename_i key store'' hRevoke
      cases h
      exact Identities.revokeApiKey_scopesNonEmpty hStore hRevoke

open Transition in
/-- From an empty key store, every key has a scope after any sequence of
    mutations. -/
theorem scopesNonEmpty_of_reachable {store : Identities}
    (h : Reachable Identities.afterMutation ⟨[]⟩ store) : store.ScopesNonEmpty := by
  refine Invariant.holds ⟨fun _ hKey => absurd hKey List.not_mem_nil, ?_⟩ h
  intro s request s' hs hStep
  unfold Identities.afterMutation at hStep
  split at hStep
  · rename_i apiKey store' hExecute
    cases hStep
    exact execute_scopesNonEmpty hs hExecute
  · cases hStep

/-- The check endpoint answers an unrevoked key with its subject and its
    scopes joined by spaces. -/
theorem checkHandler_eq_ok {store : Identities} {keyId : ℕ} {response : CheckResponse}
    (h : checkHandler store keyId = .ok response) :
    ∃ key ∈ store.keys, key.id = keyId ∧ key.revoked = false ∧ response.sub = key.subjectId ∧
      response.scope = " ".intercalate (key.scopes.map Scope.toString) := by
  unfold checkHandler at h
  split at h
  · cases h
  · rename_i keyId' sub scopes hFind
    cases h
    unfold Identities.findSubjectByKey at hFind
    split at hFind
    · cases hFind
    · rename_i key hFound
      cases hFind
      have hActive := List.find?_some hFound
      simp only [Bool.and_eq_true, beq_iff_eq, Bool.not_eq_true'] at hActive
      exact ⟨key, List.mem_of_find?_eq_some hFound, hActive.1, hActive.2, rfl, rfl⟩

/-- A token minted from a key without `write` can run no account-level or send
    mutation of the public API and cannot create a key; a receive mutation
    needs `receive` in the key.  (Revoking a key is not closed to it.) -/
theorem mintedToken_without_write {store : Identities} (hStore : store.ScopesNonEmpty) {keyId : ℕ}
    {response : CheckResponse} (hCheck : checkHandler store keyId = .ok response)
    (hNoWrite : ∀ key ∈ store.keys, key.id = keyId → Scope.Write ∉ key.scopes) :
    (∀ field ∈ mutationFields.authed.atAccountLevel ++ mutationFields.authed.atWalletLevel.send,
      guardField scopeMiddleware.Mutation field (some (sessionScope (some response.scope))) ≠
        .resolve) ∧
    (∀ field ∈ mutationFields.authed.atWalletLevel.receive,
      guardField scopeMiddleware.Mutation field (some (sessionScope (some response.scope))) =
        .resolve → "receive" ∈ sessionScope (some response.scope)) ∧
    ∀ (store' : Identities) (input : ApiKeyCreateInput) (freshId : ℕ),
      execute ⟨response.sub, response.scope⟩ store' (.apiKeyCreate input freshId) =
        .error "Permission denied" := by
  obtain ⟨key, hKey, hId, -, -, hScope⟩ := checkHandler_eq_ok hCheck
  have hParts : sessionScope (some response.scope) = key.scopes.map Scope.toString := by
    rw [hScope]
    exact sessionScope_intercalate (hStore key hKey)
  have hNonEmpty : sessionScope (some response.scope) ≠ [] := by
    rw [hParts]
    simpa using hStore key hKey
  -- `write` is not a part: the scope strings are distinct
  have hNotWrite : "write" ∉ sessionScope (some response.scope) := by
    rw [hParts, List.mem_map]
    rintro ⟨scope, hMem, hString⟩
    cases scope with
    | Write => exact hNoWrite key hKey hId hMem
    | Read => exact absurd hString (by decide)
    | Receive => exact absurd hString (by decide)
  have hGuards := scopeMiddleware_guards hNonEmpty
  refine ⟨fun field hField hResolve => hNotWrite ((hGuards.2.1 field hField).mp hResolve),
    fun field hField hResolve => ?_, fun store' input freshId => ?_⟩
  · rcases (hGuards.2.2 field hField).mp hResolve with hReceive | hWrite
    · exact hReceive
    · exact absurd hWrite hNotWrite
  · have hCannot : canWrite response.scope = false := by
      cases hCan : canWrite response.scope with
      | false => rfl
      | true => exact absurd ((canWrite_iff hNonEmpty).mp hCan) hNotWrite
    simp [execute, apiKeyCreate, graphqlHandler, hCannot]

open Transition in
/-- Over every sequence of mutations from an empty key store, a token minted
    from a key without `write` can run no account-level or send mutation of the
    public API and cannot create a key, a receive mutation needs `receive` in
    the key, and it revokes a key exactly when its subject owns one with that
    id. -/
theorem mintedToken_without_write_of_reachable {store : Identities}
    (hReach : Reachable Identities.afterMutation ⟨[]⟩ store) {keyId : ℕ}
    {response : CheckResponse} (hCheck : checkHandler store keyId = .ok response)
    (hNoWrite : ∀ key ∈ store.keys, key.id = keyId → Scope.Write ∉ key.scopes) :
    (∀ field ∈ mutationFields.authed.atAccountLevel ++ mutationFields.authed.atWalletLevel.send,
      guardField scopeMiddleware.Mutation field (some (sessionScope (some response.scope))) ≠
        .resolve) ∧
    (∀ field ∈ mutationFields.authed.atWalletLevel.receive,
      guardField scopeMiddleware.Mutation field (some (sessionScope (some response.scope))) =
        .resolve → "receive" ∈ sessionScope (some response.scope)) ∧
    (∀ (store' : Identities) (input : ApiKeyCreateInput) (freshId : ℕ),
      execute ⟨response.sub, response.scope⟩ store' (.apiKeyCreate input freshId) =
        .error "Permission denied") ∧
    ∀ (store' : Identities) (revokedId : ℕ),
      (∃ result, execute ⟨response.sub, response.scope⟩ store' (.apiKeyRevoke revokedId) =
        .ok result) ↔
      ∃ key ∈ store'.keys, key.subjectId = response.sub ∧ key.id = revokedId := by
  obtain ⟨hGuarded, hReceive, hCreate⟩ :=
    mintedToken_without_write (scopesNonEmpty_of_reachable hReach) hCheck hNoWrite
  exact ⟨hGuarded, hReceive, hCreate, fun _ _ => execute_apiKeyRevoke_ok_iff⟩

/-- A subject that can write creates a key with the scope `read` only. -/
def readOnlyKeyStore : Identities := ⟨[⟨1, "user", "read-only", false, [.Read]⟩]⟩

open Transition in
/-- The token minted from that key cannot create a key. -/
theorem readOnlyKey_cannot_create :
    run Identities.afterMutation ⟨[]⟩
        [(⟨"user", "write"⟩, .apiKeyCreate ⟨"read-only", some [.Read]⟩ 1)] =
        some readOnlyKeyStore ∧
      execute ⟨"user", "read"⟩ readOnlyKeyStore (.apiKeyCreate ⟨"read-write", none⟩ 2) =
        .error "Permission denied" := by
  have hRun : run Identities.afterMutation ⟨[]⟩
      [(⟨"user", "write"⟩, .apiKeyCreate ⟨"read-only", some [.Read]⟩ 1)] =
      some readOnlyKeyStore := by decide
  have hCheck : checkHandler readOnlyKeyStore 1 = .ok ⟨"user", "read"⟩ := rfl
  exact ⟨hRun, (mintedToken_without_write_of_reachable (reachable_of_run hRun) hCheck
    (by decide)).2.2.1 _ _ _⟩

/-- One subject with a read-only key (id 1) and a read-write key (id 2). -/
def readOnlyAndReadWrite : Identities :=
  ⟨[⟨1, "user", "read-only", false, [.Read]⟩, ⟨2, "user", "read-write", false, [.Read, .Write]⟩]⟩

/-- The token minted from the read-only key has the scope `read`: the public
    API reads it as `["read"]`, and `can_write` is false, yet `apiKeyRevoke`
    with it revokes the read-write key. -/
theorem apiKeyRevoke_readOnlyKey_revokes :
    checkHandler readOnlyAndReadWrite 1 = .ok ⟨"user", "read"⟩ ∧
      sessionScope (some "read") = ["read"] ∧ canWrite "read" = false ∧
      (execute ⟨"user", "read"⟩ readOnlyAndReadWrite (.apiKeyRevoke 2)).map
          (fun result => result.2.keys.map (·.revoked)) = .ok [false, true] := by
  refine ⟨rfl, by decide, by decide, rfl⟩

end ApiKeys

end Galoy
