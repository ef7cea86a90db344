import Horseness.ServiceViews

/-!
The grants of a workspace, recorded as one authority state. A grant is active while neither it
nor an ancestor is revoked or expired, and an operation issues a grant once. The state is
replaced by compare-and-swap; a call is synchronous, so that nothing replaces what it has read.
-/

namespace Horseness.GrantStore

open FallibleRuns Records ScriptText JsonValues ScriptEngine Canonical ExecutionStore ServiceViews

section Records

def PrincipalRole.text : PrincipalRole → JsString
  | .authority => js "authority"
  | .approver => js "approver"
  | .operator => js "operator"
  | .worker => js "worker"
  | .adapter => js "adapter"

def ProtocolMethodV1.text : ProtocolMethodV1 → JsString
  | .workspaceCreate => js "workspace.create.v1"
  | .workspaceGet => js "workspace.get.v1"
  | .runCreate => js "run.create.v1"
  | .runGet => js "run.get.v1"
  | .runList => js "run.list.v1"
  | .runStatus => js "run.status.v1"
  | .runClose => js "run.close.v1"
  | .taskCreate => js "task.create.v1"
  | .taskUpdate => js "task.update.v1"
  | .taskCancel => js "task.cancel.v1"
  | .taskResolve => js "task.resolve.v1"
  | .taskGet => js "task.get.v1"
  | .taskList => js "task.list.v1"
  | .taskDispatch => js "task.dispatch.v1"
  | .taskBreakdown => js "task.breakdown.v1"
  | .taskAdoptPlan => js "task.adoptPlan.v1"
  | .taskExecute => js "task.execute.v1"
  | .taskRevisePlan => js "task.revisePlan.v1"
  | .dependencyAdd => js "dependency.add.v1"
  | .dependencyList => js "dependency.list.v1"
  | .joinGet => js "join.get.v1"
  | .joinList => js "join.list.v1"
  | .forkCreate => js "fork.create.v1"
  | .forkRefresh => js "fork.refresh.v1"
  | .forkGet => js "fork.get.v1"
  | .contextMaterialize => js "context.materialize.v1"
  | .contextBind => js "context.bind.v1"
  | .contextGet => js "context.get.v1"
  | .dispatchLaunch => js "dispatch.launch.v1"
  | .dispatchCancel => js "dispatch.cancel.v1"
  | .dispatchReconcile => js "dispatch.reconcile.v1"
  | .dispatchResolveUnknown => js "dispatch.resolveUnknown.v1"
  | .dispatchAuthorizeDuplicateRisk => js "dispatch.authorizeDuplicateRisk.v1"
  | .dispatchGet => js "dispatch.get.v1"
  | .artifactPublish => js "artifact.publish.v1"
  | .artifactGet => js "artifact.get.v1"
  | .receiptSubmit => js "receipt.submit.v1"
  | .receiptGet => js "receipt.get.v1"
  | .proposalSubmit => js "proposal.submit.v1"
  | .proposalGet => js "proposal.get.v1"
  | .proposalEvaluate => js "proposal.evaluate.v1"
  | .proposalApprove => js "proposal.approve.v1"
  | .proposalReject => js "proposal.reject.v1"
  | .proposalRelease => js "proposal.release.v1"
  | .proposalRebase => js "proposal.rebase.v1"
  | .admissionDecision => js "admission.decision.v1"
  | .admissionSubscribe => js "admission.subscribe.v1"
  | .admissionHistory => js "admission.history.v1"
  | .canonicalGet => js "canonical.get.v1"
  | .historyList => js "history.list.v1"
  | .historySubscribe => js "history.subscribe.v1"
  | .policySet => js "policy.set.v1"
  | .policyGet => js "policy.get.v1"
  | .grantIssue => js "grant.issue.v1"
  | .grantDelegate => js "grant.delegate.v1"
  | .grantRevoke => js "grant.revoke.v1"
  | .grantList => js "grant.list.v1"
  | .quotaSet => js "quota.set.v1"
  | .quotaGet => js "quota.get.v1"
  | .adapterCapabilities => js "adapter.capabilities.v1"
  | .adapterLaunch => js "adapter.launch.v1"
  | .adapterCancel => js "adapter.cancel.v1"
  | .adapterReconcile => js "adapter.reconcile.v1"
  | .adapterResume => js "adapter.resume.v1"
  | .adapterReattach => js "adapter.reattach.v1"
  | .adapterInjectContext => js "adapter.injectContext.v1"
  | .adapterCollectReceipt => js "adapter.collectReceipt.v1"
  | .adapterNativePackageMetadata => js "adapter.nativePackageMetadata.v1"
  | .adapterInstallContributions => js "adapter.installContributions.v1"
  | .adapterDoctor => js "adapter.doctor.v1"
  | .adapterWorkerReturn => js "adapter.workerReturn.v1"

def methodRegistry : List ProtocolMethodV1 :=
  [.workspaceCreate, .workspaceGet, .runCreate, .runGet, .runList, .runStatus, .runClose,
    .taskCreate, .taskUpdate, .taskCancel, .taskResolve, .taskGet, .taskList, .taskDispatch,
    .taskBreakdown, .taskAdoptPlan, .taskExecute, .taskRevisePlan, .dependencyAdd, .dependencyList,
    .joinGet, .joinList, .forkCreate, .forkRefresh, .forkGet, .contextMaterialize, .contextBind,
    .contextGet, .dispatchLaunch, .dispatchCancel, .dispatchReconcile, .dispatchResolveUnknown,
    .dispatchAuthorizeDuplicateRisk, .dispatchGet, .artifactPublish, .artifactGet, .receiptSubmit,
    .receiptGet, .proposalSubmit, .proposalGet, .proposalEvaluate, .proposalApprove,
    .proposalReject, .proposalRelease, .proposalRebase, .admissionDecision, .admissionSubscribe,
    .admissionHistory, .canonicalGet, .historyList, .historySubscribe, .policySet, .policyGet,
    .grantIssue, .grantDelegate, .grantRevoke, .grantList, .quotaSet, .quotaGet,
    .adapterCapabilities, .adapterLaunch, .adapterCancel, .adapterReconcile, .adapterResume,
    .adapterReattach, .adapterInjectContext, .adapterCollectReceipt, .adapterNativePackageMetadata,
    .adapterInstallContributions, .adapterDoctor, .adapterWorkerReturn]

def methodDefinition (method : JsString) : Option ProtocolMethodV1 :=
  methodRegistry.find? fun known => ProtocolMethodV1.text known = method

theorem method_definition (method : ProtocolMethodV1) :
    methodDefinition (ProtocolMethodV1.text method) = some method := by
  cases method <;> decide +kernel

theorem method_text_injective {left right : ProtocolMethodV1}
    (same : ProtocolMethodV1.text left = ProtocolMethodV1.text right) : left = right := by
  have found := method_definition left
  rw [same, method_definition right] at found
  exact (Option.some.inj found).symm

theorem role_text_injective {left right : PrincipalRole}
    (same : PrincipalRole.text left = PrincipalRole.text right) : left = right := by
  revert same
  cases left <;> cases right <;> decide

def coreFields (grant : AuthenticatedGrantV1) : List (String × JsValue) :=
  [("schemaVersion", .str (js "1")), ("principalId", .str grant.principalId),
    ("principalRole", .str (PrincipalRole.text grant.principalRole)),
    ("peerIdentity", .str grant.peerIdentity), ("expiresAt", .str grant.expiresAt),
    ("workspaceId", .str grant.workspaceId), ("runId", nullable .str grant.runId),
    ("taskId", nullable .str grant.taskId), ("attemptId", nullable .str grant.attemptId),
    ("generation", nullable natural grant.generation),
    ("proposalId", nullable .str grant.proposalId), ("adapterId", nullable .str grant.adapterId),
    ("allowedMethods", texts (grant.allowedMethods.map ProtocolMethodV1.text))]

structure StoredGrantV1 where
  grant : AuthenticatedGrantV1
  revoked : Bool
  grantReference : JsString
  parentGrantDigest : Option JsString
  deriving DecidableEq

def StoredGrantV1.digest (stored : StoredGrantV1) : JsString := stored.grant.grantDigest

def StoredGrantV1.toJson (stored : StoredGrantV1) : JsValue :=
  object (coreFields stored.grant ++ [("revoked", .bool stored.revoked),
    ("grantDigest", .str stored.digest), ("grantReference", .str stored.grantReference),
    ("parentGrantDigest", nullable .str stored.parentGrantDigest)])

structure GrantIssuance where
  requestDigest : JsString
  grantDigest : JsString
  issuedAt : JsString
  deriving DecidableEq

structure GrantAuthorityStateV1 where
  grants : List StoredGrantV1
  issuances : Option (Record JsString GrantIssuance)

def issuanceJson (issuance : GrantIssuance) : JsValue :=
  object [("requestDigest", .str issuance.requestDigest),
    ("grantDigest", .str issuance.grantDigest), ("issuedAt", .str issuance.issuedAt)]

def GrantAuthorityStateV1.toJson (state : GrantAuthorityStateV1) : JsValue :=
  .obj .object ([(js "schemaVersion", .str (js "1")),
      (js "grants", .arr (state.grants.map StoredGrantV1.toJson))] ++
    state.issuances.toList.map fun issuances => (js "issuances",
      .obj .object (issuances.entries.map fun entry => (entry.1, issuanceJson entry.2))))

def initialState (grantReference : JsString) (grant : AuthenticatedGrantV1) (revoked : Bool) :
    GrantAuthorityStateV1 :=
  ⟨[⟨grant, revoked, grantReference, none⟩], none⟩

/-- The row of the authority state. -/
structure GrantRecord where
  revision : Nat
  stateDigest : JsString
  state : GrantAuthorityStateV1

def grantAuthorityStateKind : JsString := js "local-grants-v1"

def GrantRecord.expectation (record : GrantRecord) : AuthorityStateExpectationV1 :=
  ⟨grantAuthorityStateKind, record.revision, record.stateDigest⟩

end Records

section Reading

variable [Engine] (clock : JsString)

def plainError : Failure := .thrown (js "EXECUTION_FAILED")

def grantDigestOf (grant : AuthenticatedGrantV1) : Except DomainError JsString :=
  domainDigest (js "horseness.daemon-grant.v1") (object (coreFields grant))

def parseState (state : GrantAuthorityStateV1) : Except Failure Unit := do
  ensure ((state.grants.map StoredGrantV1.grantReference).Nodup ∧
    (state.grants.map StoredGrantV1.digest).Nodup) plainError
  state.grants.forM fun stored => do
    let digest ← (grantDigestOf stored.grant).mapError .domain
    ensure (digest = stored.digest) plainError
  state.issuances.toList.forM fun issuances =>
    ensure (∀ issuance ∈ issuances.values,
      issuance.grantDigest ∈ state.grants.map StoredGrantV1.digest ∧
        (Engine.dateParse issuance.issuedAt).isSome = true) plainError

def GrantAuthorityStateV1.find (state : GrantAuthorityStateV1) (digest : JsString) :
    Option StoredGrantV1 :=
  state.grants.find? fun stored => stored.digest = digest

/-- From a grant to its root. The walk meets no grant twice, so that one more step than there
are grants is never taken. -/
def activeFrom (state : GrantAuthorityStateV1) (now : Int) :
    Nat → List JsString → StoredGrantV1 → Bool
  | 0, _, _ => false
  | steps + 1, seen, current =>
      if current.revoked = true ∨ ¬ (∃ expiry ∈ Engine.dateParse current.grant.expiresAt,
          now < expiry) ∨ current.digest ∈ seen then false
      else match current.parentGrantDigest with
        | none => true
        | some parent => match state.find parent with
            | none => false
            | some next => activeFrom state now steps (current.digest :: seen) next

def activeInLineage (state : GrantAuthorityStateV1) (stored : StoredGrantV1) : Bool :=
  match Engine.dateParse clock with
  | none => false
  | some now => activeFrom state now (state.grants.length + 1) [] stored

def observe (record : GrantRecord) (grantDigest : JsString) :
    Except Failure (Option ExecutionGrantObservationV1) := do
  parseState record.state
  return (record.state.find grantDigest).bind fun stored =>
    if activeInLineage clock record.state stored = true then
      some ⟨stored.grant, record.expectation⟩ else none

def lookupActiveGrant (record : GrantRecord) (peerIdentity grantReference : JsString) :
    Except Failure (Option AuthenticatedGrantV1) := do
  parseState record.state
  let found := record.state.grants.find? fun stored =>
    stored.grantReference = grantReference ∧ stored.grant.peerIdentity = peerIdentity
  return found.bind fun stored =>
    if activeInLineage clock record.state stored = true then some stored.grant else none

def referenceForDigest (record : GrantRecord) (grantDigest : JsString) :
    Except Failure (Option JsString) := do
  parseState record.state
  return (record.state.find grantDigest).map StoredGrantV1.grantReference

end Reading

section Issuing

structure IssueGrantV1 where
  peerIdentity : JsString
  principalId : JsString
  principalRole : PrincipalRole
  workspaceId : JsString
  runId : Option JsString
  taskId : Option JsString
  attemptId : Option JsString
  generation : Option Nat
  proposalId : Option JsString
  adapterId : Option JsString
  allowedMethods : List JsString
  expiresAt : JsString

structure GrantOperation where
  id : JsString
  requestDigest : JsString

structure IssuedGrant where
  grantReference : JsString
  grant : AuthenticatedGrantV1
  revoked : Bool
  issuedAt : JsString

/-- `[...new Set(input.allowedMethods)].sort()`. -/
def IssueGrantV1.allowed (input : IssueGrantV1) : List JsString :=
  input.allowedMethods.dedup.insertionSort (· ≤ ·)

/-- The grant that an input asks for with these methods, without its digest. -/
def IssueGrantV1.core (input : IssueGrantV1) (methods : List ProtocolMethodV1) :
    AuthenticatedGrantV1 :=
  { principalId := input.principalId
    principalRole := input.principalRole
    peerIdentity := input.peerIdentity
    workspaceId := input.workspaceId
    runId := input.runId
    taskId := input.taskId
    attemptId := input.attemptId
    generation := input.generation
    proposalId := input.proposalId
    adapterId := input.adapterId
    allowedMethods := methods
    expiresAt := input.expiresAt
    grantDigest := [] }

variable [Engine] (clock uuid : JsString) (record : GrantRecord)

def assertMutationAuthority (authorization : Option ExecutionGrantObservationV1) :
    Except Failure Unit :=
  authorization.toList.forM fun observation => do
    ensure (observation.expectation = record.expectation) (.conflict false)
    let issuer ← required (record.state.find observation.grant.grantDigest)
      (.protocol .grantInvalid)
    ensure (activeInLineage clock record.state issuer = true) (.protocol .grantInvalid)

def issuedBefore (operation : GrantOperation) : Except Failure (Option IssuedGrant) := do
  ensure (operation.id ≠ [] ∧ operation.requestDigest ≠ []) (.protocol .invalidParams)
  match record.state.issuances.bind fun issuances => issuances.get operation.id with
  | none => return none
  | some prior => do
      ensure (prior.requestDigest = operation.requestDigest) (.protocol .invalidParams)
      let stored ← required (record.state.find prior.grantDigest) plainError
      return some ⟨stored.grantReference, stored.grant, stored.revoked, prior.issuedAt⟩

def replace (state : GrantAuthorityStateV1) : Except Failure GrantRecord := do
  let stateDigest ← (domainDigest (js "horseness.workspace-authority-state.v1")
    state.toJson).mapError .domain
  return ⟨record.revision + 1, stateDigest, state⟩

/-- A grant that the operation, if there is one, has not issued yet. -/
def issueNew (input : IssueGrantV1) (parentGrantDigest : Option JsString)
    (operation : Option GrantOperation) : Except Failure (IssuedGrant × GrantRecord) := do
  parentGrantDigest.toList.forM fun digest => do
    let parent ← required (record.state.find digest) (.protocol .grantInvalid)
    ensure (activeInLineage clock record.state parent = true) (.protocol .grantInvalid)
  let methods ← required (input.allowed.mapM methodDefinition) plainError
  ensure (methods ≠ []) plainError
  let expires ← required (Engine.dateParse input.expiresAt) plainError
  ensure (∀ now ∈ Engine.dateParse clock, now < expires) plainError
  let core := input.core methods
  let grantDigest ← (grantDigestOf core).mapError .domain
  let grant := { core with grantDigest := grantDigest }
  let existing := record.state.find grantDigest
  ensure (∀ stored ∈ existing, stored.revoked = false ∧
    stored.parentGrantDigest = parentGrantDigest) (.protocol .grantInvalid)
  let grantReference := (existing.map StoredGrantV1.grantReference).getD (js "grant:" ++ uuid)
  let grants := if existing.isSome then record.state.grants
    else record.state.grants ++ [⟨grant, false, grantReference, parentGrantDigest⟩]
  let issued : IssuedGrant := ⟨grantReference, grant, false, clock⟩
  match operation with
  | none => do
      if existing.isSome then return (issued, record)
      let next ← replace record ⟨grants, record.state.issuances⟩
      return (issued, next)
  | some operation => do
      let issuances := (record.state.issuances.getD ∅).set operation.id
        ⟨operation.requestDigest, grantDigest, clock⟩
      let next ← replace record ⟨grants, some issuances⟩
      return (issued, next)

def issue (workspaceId : JsString) (input : IssueGrantV1) (parentGrantDigest : Option JsString)
    (operation : Option GrantOperation) (authorization : Option ExecutionGrantObservationV1) :
    Except Failure (IssuedGrant × GrantRecord) := do
  ensure (input.workspaceId = workspaceId) plainError
  parseState record.state
  assertMutationAuthority clock record authorization
  let before ← operation.toList.mapM (issuedBefore record)
  match before.head?.join with
  | some issued => return (issued, record)
  | none => issueNew clock uuid record input parentGrantDigest operation

end Issuing

section Revoking

variable [Engine] (clock : JsString) (record : GrantRecord)

def markRevoked (grantReference : JsString) (stored : StoredGrantV1) : StoredGrantV1 :=
  if stored.grantReference = grantReference then { stored with revoked := true } else stored

/-- Whether the reference named a grant that was not revoked yet. -/
def revoke (grantReference : JsString) (authorization : Option ExecutionGrantObservationV1) :
    Except Failure (Bool × GrantRecord) := do
  parseState record.state
  assertMutationAuthority clock record authorization
  match record.state.grants.find? fun stored => stored.grantReference = grantReference with
  | none => return (false, record)
  | some existing =>
      if existing.revoked = true then return (false, record)
      let next ← replace record { record.state with
        grants := record.state.grants.map (markRevoked grantReference) }
      return (true, next)

end Revoking

end Horseness.GrantStore
