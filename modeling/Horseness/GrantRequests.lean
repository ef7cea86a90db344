import Horseness.GrantLineage

/-!
The requests that issue, delegate and revoke grants, and the grants that the service has
issued to the producers of its attempts. Each is one synchronous call on the grants of the
workspace.
-/

namespace Horseness.GrantRequests

open FallibleRuns Records ScriptText JsonValues ScriptEngine Canonical Cursors TaskPlans
  ExecutionStore ServiceViews GrantStore

section Requests

/-- What a grant request says next to the names it grants to. The resource scope is an object
of the caller's own making. -/
structure GrantParams where
  workspaceId : JsString
  observationCursor : WorkspaceOnlyCursorV1
  idempotencyKey : JsString
  operationId : JsString
  actions : List JsValue
  resourceScope : List (JsString × JsValue)
  expiresAt : JsString

structure IssueRequestV1 where
  params : GrantParams
  principalId : JsString
  principalRole : JsString

structure DelegateRequestV1 where
  params : GrantParams
  parentGrantDigest : JsString
  delegatePrincipalId : JsString

structure RevokeRequestV1 where
  workspaceId : JsString
  observationCursor : WorkspaceOnlyCursorV1
  grantDigest : JsString

/-- `request.params`. -/
def GrantParams.toJson (params : GrantParams) (method : ProtocolMethodV1)
    (own : List (String × JsValue)) : JsValue :=
  object [("protocolVersion", .str (js "1")),
    ("observationCursor", params.observationCursor.toJson),
    ("idempotencyKey", .str params.idempotencyKey),
    ("body", object [("schemaVersion", .str (js "1")), ("workspaceId", .str params.workspaceId),
      ("input", object [("schemaVersion", .str (js "1")),
        ("requestType", .str (ProtocolMethodV1.text method)),
        ("value", object (own ++ [("operationId", .str params.operationId),
          ("actions", .arr params.actions), ("resourceScope", .obj .object params.resourceScope),
          ("expiresAt", .str params.expiresAt)]))])])]

def IssueRequestV1.toJson (request : IssueRequestV1) : JsValue :=
  request.params.toJson .grantIssue [("principalId", .str request.principalId),
    ("principalRole", .str request.principalRole)]

def DelegateRequestV1.toJson (request : DelegateRequestV1) : JsValue :=
  request.params.toJson .grantDelegate [("parentGrantDigest", .str request.parentGrantDigest),
    ("delegatePrincipalId", .str request.delegatePrincipalId)]

def ProducerRequest.toJson (request : ProducerRequest) : JsValue :=
  object [("actor", object [("principalId", .str request.actor.principalId),
      ("grantDigest", .str request.actor.grantDigest)]),
    ("runId", .str request.runId), ("taskId", .str request.taskId),
    ("attemptId", .str request.attemptId), ("generation", natural request.generation),
    ("adapterId", .str request.adapterId), ("expiresAt", .str request.expiresAt)]

end Requests

section Scopes

/-- What a grant is bound to; nothing where it is not restricted. -/
structure GrantBindings where
  runId : Option JsString
  taskId : Option JsString
  attemptId : Option JsString
  generation : Option Nat
  proposalId : Option JsString
  adapterId : Option JsString
  deriving DecidableEq

def bindingsOf (grant : AuthenticatedGrantV1) : GrantBindings :=
  ⟨grant.runId, grant.taskId, grant.attemptId, grant.generation, grant.proposalId, grant.adapterId⟩

variable (scope : List (JsString × JsValue))

def scopeText (key : String) : Option JsString :=
  match findEntry (js key) scope with
  | some (.str text) => some text
  | _ => none

/-- `Number(scope.generation)`, where it is a safe integer from 1 on. -/
def scopeGeneration : Option Nat :=
  match findEntry (js "generation") scope with
  | some (.num (.finite value)) =>
      if value.den = 1 ∧ 1 ≤ value.num ∧ value.num ≤ maxSafeInteger then some value.num.toNat
      else none
  | _ => none

def unset (key : String) : Bool :=
  match findEntry (js key) scope with
  | none => true
  | some .null => true
  | _ => false

def within {Value : Type} [DecidableEq Value] (selected : Option Value)
    (limits : List (Option Value)) : Prop :=
  ∀ limit ∈ limits, ∀ own ∈ limit, selected = some own

instance {Value : Type} [DecidableEq Value] (selected : Option Value) (limits : List (Option Value)) :
    Decidable (within selected limits) :=
  inferInstanceAs (Decidable (∀ limit ∈ limits, ∀ own ∈ limit, selected = some own))

def bindText (key : String) (limits : List (Option JsString)) :
    Except Failure (Option JsString) := do
  ensure (unset scope key = true ∨ ∃ text ∈ scopeText scope key, text ≠ [])
    (.protocol .invalidParams)
  ensure (within (scopeText scope key) limits) (.protocol .authScopeMismatch)
  return scopeText scope key

def bindGeneration (limits : List (Option Nat)) : Except Failure (Option Nat) := do
  ensure (unset scope "generation" = true ∨ (scopeGeneration scope).isSome = true)
    (.protocol .invalidParams)
  ensure (within (scopeGeneration scope) limits) (.protocol .authScopeMismatch)
  return scopeGeneration scope

def bindScope (limits : List GrantBindings) : Except Failure GrantBindings := do
  let runId ← bindText scope "runId" (limits.map GrantBindings.runId)
  let taskId ← bindText scope "taskId" (limits.map GrantBindings.taskId)
  let attemptId ← bindText scope "attemptId" (limits.map GrantBindings.attemptId)
  let proposalId ← bindText scope "proposalId" (limits.map GrantBindings.proposalId)
  let adapterId ← bindText scope "adapterId" (limits.map GrantBindings.adapterId)
  let generation ← bindGeneration scope (limits.map GrantBindings.generation)
  return ⟨runId, taskId, attemptId, generation, proposalId, adapterId⟩

end Scopes

section Handlers

variable [Engine] (clock uuid : JsString) (record : GrantRecord) (workspaceId : JsString)

/-- What `dispatch` asks before it calls a handler of grants: the connection's grant allows
the method, the request is of its workspace, and the grant is still active. -/
def authorizeRequest (context : AuthenticatedGrantV1) (method : ProtocolMethodV1)
    (requested : JsString) (cursor : WorkspaceOnlyCursorV1) :
    Except Failure ExecutionGrantObservationV1 := do
  ensure (context.principalRole = .authority ∧ method ∈ context.allowedMethods)
    (.protocol .methodNotAuthorized)
  ensure (requested = context.workspaceId ∧ cursor.workspaceId = context.workspaceId)
    (.protocol .authScopeMismatch)
  let found ← observe clock record context.grantDigest
  let authorization ← required found (.protocol .grantInvalid)
  ensure (authorization.grant.principalId = context.principalId ∧
    authorization.grant.principalRole = context.principalRole ∧
    authorization.grant.peerIdentity = context.peerIdentity) (.protocol .grantInvalid)
  return authorization

def readRole (text : JsString) : Option PrincipalRole :=
  [PrincipalRole.authority, .approver, .operator, .worker, .adapter].find? fun role =>
    PrincipalRole.text role = text

def readActions (actions : List JsValue) : Option (List JsString) :=
  actions.mapM fun action =>
    match action with
    | .str text => some text
    | _ => none

def grantInput (params : GrantParams) (principalId : JsString) (role : PrincipalRole)
    (actions : List JsString) (bindings : GrantBindings) : IssueGrantV1 where
  peerIdentity := (scopeText params.resourceScope "peerIdentity").getD principalId
  principalId := principalId
  principalRole := role
  workspaceId := params.workspaceId
  runId := bindings.runId
  taskId := bindings.taskId
  attemptId := bindings.attemptId
  generation := bindings.generation
  proposalId := bindings.proposalId
  adapterId := bindings.adapterId
  allowedMethods := actions
  expiresAt := params.expiresAt

/-- `activeByDigest`, where it finds a grant. -/
def activeGrant (digest : JsString) : Except Failure AuthenticatedGrantV1 := do
  let found ← observe clock record digest
  let observation ← required found (.protocol .grantInvalid)
  return observation.grant

def grantIssue (context : AuthenticatedGrantV1) (authorization : ExecutionGrantObservationV1)
    (request : IssueRequestV1) : Except Failure (IssuedGrant × GrantRecord) := do
  let params := request.params
  ensure (params.operationId = params.idempotencyKey) (.protocol .invalidParams)
  let actions ← required (readActions params.actions) (.protocol .invalidParams)
  ensure (context.principalRole = .authority ∧ context.workspaceId = params.workspaceId)
    (.protocol .methodNotAuthorized)
  let role ← required (readRole request.principalRole) (.protocol .invalidParams)
  let issuer ← activeGrant clock record context.grantDigest
  let expires ← required (Engine.dateParse params.expiresAt) (.protocol .invalidParams)
  ensure (∀ limit ∈ Engine.dateParse issuer.expiresAt, expires ≤ limit) (.protocol .invalidParams)
  ensure (findEntry (js "workspaceId") params.resourceScope = none ∨
    scopeText params.resourceScope "workspaceId" = some params.workspaceId)
    (.protocol .authScopeMismatch)
  let bindings ← bindScope params.resourceScope [bindingsOf issuer]
  let requestDigest ← (domainDigest (js "horseness.grant-issue-request.v1")
    request.toJson).mapError .domain
  issue clock uuid record workspaceId
    (grantInput params request.principalId role actions bindings) none
    (some ⟨js "grant.issue:" ++ context.principalId ++ js ":" ++ params.operationId, requestDigest⟩)
    (some authorization)

def grantDelegate (context : AuthenticatedGrantV1) (authorization : ExecutionGrantObservationV1)
    (request : DelegateRequestV1) : Except Failure (IssuedGrant × GrantRecord) := do
  let params := request.params
  ensure (params.operationId = params.idempotencyKey) (.protocol .invalidParams)
  let actions ← required (readActions params.actions) (.protocol .invalidParams)
  ensure (context.principalRole = .authority) (.protocol .methodNotAuthorized)
  let parent ← activeGrant clock record request.parentGrantDigest
  let expires ← required (Engine.dateParse params.expiresAt) (.protocol .invalidParams)
  ensure (∀ limit ∈ Engine.dateParse parent.expiresAt,
    ∀ other ∈ Engine.dateParse authorization.grant.expiresAt, expires ≤ min limit other)
    (.protocol .invalidParams)
  let bindings ← bindScope params.resourceScope [bindingsOf parent, bindingsOf authorization.grant]
  ensure (∀ action ∈ actions, action ∈ parent.allowedMethods.map ProtocolMethodV1.text)
    (.protocol .methodNotAuthorized)
  let requestDigest ← (domainDigest (js "horseness.grant-delegate-request.v1")
    request.toJson).mapError .domain
  issue clock uuid record workspaceId
    (grantInput params request.delegatePrincipalId parent.principalRole actions bindings)
    (some request.parentGrantDigest)
    (some ⟨js "grant.delegate:" ++ context.principalId ++ js ":" ++ params.operationId,
      requestDigest⟩)
    (some authorization)

def grantRevoke (context : AuthenticatedGrantV1) (authorization : ExecutionGrantObservationV1)
    (request : RevokeRequestV1) : Except Failure GrantRecord := do
  ensure (context.principalRole = .authority) (.protocol .methodNotAuthorized)
  parseState record.state
  let target ← required (record.state.find request.grantDigest) (.protocol .grantInvalid)
  let own := bindingsOf authorization.grant
  let bound := bindingsOf target.grant
  ensure ((∀ value ∈ own.runId, bound.runId = some value) ∧
    (∀ value ∈ own.taskId, bound.taskId = some value) ∧
    (∀ value ∈ own.attemptId, bound.attemptId = some value) ∧
    (∀ value ∈ own.generation, bound.generation = some value) ∧
    (∀ value ∈ own.proposalId, bound.proposalId = some value) ∧
    (∀ value ∈ own.adapterId, bound.adapterId = some value)) (.protocol .authScopeMismatch)
  let (revoked, next) ← revoke clock record target.grantReference (some authorization)
  ensure (revoked = true) (.protocol .grantInvalid)
  return next

/-- The callback that issues the grant of an attempt's producer, below that of the workflow's
issuer. The tasks of the run are given by their contracts. -/
def producer (contracts : Record JsString TaskContractV2) (input : ProducerRequest) :
    Except Failure (IssuedGrant × GrantRecord) := do
  let found ← observe clock record input.actor.grantDigest
  let observation ← required found (.domain .authorizationDenied)
  let issuer := observation.grant
  ensure (issuer.principalId = input.actor.principalId ∧ issuer.workspaceId = workspaceId ∧
    (∀ asked ∈ Engine.dateParse input.expiresAt, ∀ limit ∈ Engine.dateParse issuer.expiresAt,
      asked ≤ limit) ∧
    (∀ own ∈ issuer.adapterId, own = input.adapterId) ∧
    (∀ own ∈ issuer.runId, own = input.runId)) (.domain .authorizationDenied)
  ensure (∀ own ∈ issuer.taskId, own = input.taskId ∨
    (contracts.get input.taskId).bind TaskContractV2.sourceTaskId = some own)
    (.domain .authorizationDenied)
  let requestDigest ← (domainDigest (js "horseness.task-producer-grant.v1")
    (ProducerRequest.toJson input)).mapError .domain
  issue clock uuid record workspaceId {
    peerIdentity := issuer.peerIdentity
    principalId := js "adapter:" ++ input.attemptId ++ js ":" ++ decimal input.generation
    principalRole := .adapter
    workspaceId := workspaceId
    runId := some input.runId
    taskId := some input.taskId
    attemptId := some input.attemptId
    generation := some input.generation
    proposalId := none
    adapterId := some input.adapterId
    allowedMethods := [js "receipt.submit.v1", js "task.get.v1"]
    expiresAt := input.expiresAt }
    (some input.actor.grantDigest)
    (some ⟨js "producer:" ++ input.attemptId ++ js ":" ++ decimal input.generation, requestDigest⟩)
    (some observation)

end Handlers

end Horseness.GrantRequests
