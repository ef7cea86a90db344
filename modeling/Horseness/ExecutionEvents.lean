import Horseness.TaskPlans

/-!
The task execution events and what each must satisfy before any state is looked
at. Shapes are given by the types; texts, numbers, digests and agreements between
the sealed records are checked.
-/

namespace Horseness.ExecutionEvents

open FallibleRuns ScriptText ScriptEngine Canonical Cursors ForkContext Tasks AttemptReceipts
  TaskPlans

structure TaskExecutionLeaseV1 where
  ownerId : JsString
  bootId : JsString
  processId : JsString
  issuedAt : JsString
  expiresAt : JsString
  durationMs : Nat
  fenceToken : Nat
  observationCursor : CompositeCursorV1
  deriving DecidableEq

structure TaskExecutionPreparedDataV1 where
  workflowId : Option JsString
  taskId : JsString
  attemptId : JsString
  generation : Nat
  profile : TaskExecutionProfileV1
  profileDigest : JsString
  forkPin : SealedForkPinV1
  join : DependencyJoinSnapshotCoreV1
  manifest : ContextManifestCoreV1
  binding : AttemptContextBindingV1
  renderedContext : JsString
  evaluationClock : EvaluationClockV1
  lease : TaskExecutionLeaseV1

inductive OperationKind where
  | dispatch
  | breakdown
  | execute
  deriving DecidableEq

structure PlanningSource where
  taskId : JsString
  contractDigest : JsString
  deriving DecidableEq

structure TaskWorkflowAuthorizationV1 where
  workflowId : JsString
  operationKind : OperationKind
  requestDigest : JsString
  planningSource : Option PlanningSource
  parentWorkflowId : Option JsString
  workspaceId : JsString
  runId : JsString
  targetTaskId : JsString
  targetContractDigest : JsString
  issuerPrincipalId : JsString
  issuerGrantDigest : JsString
  expiresAt : JsString
  executionProfile : TaskExecutionProfileV1
  plannerProfile : Option TaskExecutionProfileV1
  autoPlan : Bool
  graphDigest : Option JsString
  planDigest : Option JsString
  deriving DecidableEq

/-- How a workflow can end. -/
inductive WorkflowEnd where
  | succeeded
  | stopped
  | cancelled
  | revoked
  deriving DecidableEq

/-- The attempt an event is about. -/
structure AttemptReference where
  taskId : JsString
  attemptId : JsString
  generation : Nat
  profileDigest : JsString
  deriving DecidableEq

/-- The event kinds with their own fields. -/
inductive TaskExecutionPayloadV1 where
  | taskCreatedV2 (contract : TaskContractV2)
  | taskActivatedV1 (taskId : JsString)
  | dependencyAddedV1 (edge : DependencyEdgeV1)
  | taskExecutionPreparedV1 (prepared : TaskExecutionPreparedDataV1)
  | taskExecutionTransitionV1 (attempt : AttemptReference) (input : DispatchInputV1)
  | taskExecutionReceiptV1 (attempt : AttemptReference) (receipt : AttemptReceiptEnvelopeV1)
  | taskExecutionAbortedV1 (attempt : AttemptReference) (reasonCode : JsString)
      (evaluationClock : EvaluationClockV1)
  | taskResolvedV2 (resolution : TaskResolutionV1) (evaluationClock : EvaluationClockV1)
  | taskPlanProposedV1 (plannerTaskId : JsString) (plan : TaskPlanV1)
  | taskPlanRevisedV1 (basePlanDigest : JsString) (plan : TaskPlanV1)
  | taskPlanRejectedV1 (taskId plannerTaskId reasonCode : JsString)
  | taskPlanAdoptedV1 (taskId planDigest : JsString)
  | taskWorkflowStartedV1 (authorization : TaskWorkflowAuthorizationV1)
  | taskWorkflowPlanBoundV1 (workflowId planDigest graphDigest : JsString)
  | taskWorkflowStoppedV1 (workflowId : JsString) (state : WorkflowEnd) (reasonCode : JsString)

structure TaskExecutionEventV1 where
  workspaceId : JsString
  runId : JsString
  payload : TaskExecutionPayloadV1

def text (value : JsString) : Except DomainError Unit := textCheck value .executionInvalid

section Parsing

variable [Engine]

def parseTaskExecutionLeaseV1 (lease : TaskExecutionLeaseV1) : Except DomainError Unit := do
  [lease.ownerId, lease.bootId, lease.processId, lease.issuedAt, lease.expiresAt].forM text
  positive lease.durationMs
  positive lease.fenceToken
  ensure (canonicalTimestamp lease.issuedAt = true ∧ canonicalTimestamp lease.expiresAt = true)
    .executionInvalid
  let issued ← required (Engine.dateParse lease.issuedAt) .executionInvalid
  let expires ← required (Engine.dateParse lease.expiresAt) .executionInvalid
  ensure (expires - issued = lease.durationMs) .executionInvalid
  parseObservationCursorV1 (.composite lease.observationCursor)

def parseClock (clock : EvaluationClockV1) : Except DomainError Unit := do
  ensure ((Engine.dateParse clock.authorityTime).isSome = true) .executionInvalid
  parseObservationCursorV1 clock.observationCursor
  ensure (clock.observationCursor.isComposite = true) .executionInvalid

def parseTaskWorkflowAuthorizationV1 (a : TaskWorkflowAuthorizationV1) :
    Except DomainError Unit := do
  [a.workflowId, a.requestDigest, a.workspaceId, a.runId, a.targetTaskId, a.targetContractDigest,
    a.issuerPrincipalId, a.issuerGrantDigest, a.expiresAt].forM text
  ensure ((Engine.dateParse a.expiresAt).isSome = true) .executionInvalid
  parseTaskExecutionProfileV1 a.executionProfile
  ensure (a.executionProfile.purpose = (if a.operationKind = .breakdown then .planner else .work))
    .executionInvalid
  a.plannerProfile.toList.forM (fun profile => do
    parseTaskExecutionProfileV1 profile
    ensure (profile.purpose = .planner) .executionInvalid)
  a.planningSource.toList.forM (fun source => do
    text source.taskId
    text source.contractDigest)
  a.parentWorkflowId.toList.forM text
  a.graphDigest.toList.forM text
  a.planDigest.toList.forM text
  ensure (a.graphDigest = none → a.operationKind = .execute ∧ a.autoPlan = true ∧
    a.plannerProfile ≠ none ∧ a.planDigest = none) .executionInvalid
  ensure (a.operationKind = .breakdown ∨ a.autoPlan = true → a.planningSource ≠ none)
    .executionInvalid
  ensure (a.operationKind ≠ .execute → a.autoPlan = false) .executionInvalid
  ensure (a.parentWorkflowId ≠ none → a.operationKind = .breakdown) .executionInvalid

def preparedTexts (prepared : TaskExecutionPreparedDataV1) : List JsString :=
  let forkPin := prepared.forkPin
  let join := prepared.join
  let manifest := prepared.manifest
  let binding := prepared.binding
  [forkPin.forkPinDigest, forkPin.forkPinId, forkPin.core.forkId, forkPin.core.workspaceId,
    forkPin.core.runId, forkPin.core.canonicalStateHash, forkPin.core.dependencyJoinSnapshotDigest,
    forkPin.core.deltaAuthorityScopeDigest, forkPin.core.pinnedPolicyDigest,
    forkPin.core.createdByPrincipalId, forkPin.core.createdByGrantDigest, join.runId, join.taskId,
    join.taskContractDigest, join.joinEvaluationId, manifest.workspaceId, manifest.runId,
    manifest.attemptId, manifest.rendererVersion, manifest.renderedOutputDigest,
    manifest.authorizationOverlayV1.policyDigest, manifest.authorizationOverlayV1.grantDigest,
    manifest.authorizationOverlayV1.quotaDigest, binding.attemptId, binding.providerIdempotencyKey,
    binding.allowedProducerPrincipalId, binding.allowedProducerGrantDigest]

def validatePreparedRecords (prepared : TaskExecutionPreparedDataV1) : Except DomainError Unit := do
  let forkPin := prepared.forkPin
  let join := prepared.join
  let manifest := prepared.manifest
  let binding := prepared.binding
  ensure (manifest.authorizationOverlayV1.allowed = true ∧
    manifest.forkPinDigest = forkPin.forkPinDigest) .executionInvalid
  let joinDigest ← sealDependencyJoinSnapshot join
  ensure (forkPin.core.dependencyJoinSnapshotDigest = joinDigest ∧
    manifest.workspaceId = forkPin.core.workspaceId ∧ manifest.runId = forkPin.core.runId ∧
    join.runId = manifest.runId ∧ manifest.selectedBytes = byteLength prepared.renderedContext)
    .executionInvalid
  (preparedTexts prepared).forM text
  [forkPin.core.pinVersion, manifest.generation, binding.generation].forM positive
  [forkPin.core.canonicalRevision, manifest.canonicalRevision, manifest.selectedBytes,
    manifest.byteBudget].forM (naturalCheck · .executionInvalid)
  forkPin.core.ancestry.forM text
  join.reasonCodes.forM text
  manifest.omissions.forM text
  join.dependencies.forM (fun dependency => do
    [dependency.edgeId, dependency.sourceTaskId, dependency.taskResolutionDigest].forM text
    positive dependency.taskResolutionEventSequence
    dependency.winningGeneration.toList.forM positive)
  forkPin.core.parentForkPinDigest.toList.forM text
  forkPin.core.refreshesForkPinDigest.toList.forM text
  manifest.sources.forM (fun source => do
    text source.kind
    text source.digest
    [source.byteStart, source.byteEnd, source.priority].forM (naturalCheck · .executionInvalid))
  sameCanonicalJson manifest.sourceObservationCursor.toJson binding.sourceObservationCursor.toJson
    .executionInvalid
  sameCanonicalJson manifest.authorizationObservationCursor.toJson
    binding.authorizationObservationCursor.toJson .executionInvalid
  sameCanonicalJson prepared.evaluationClock.observationCursor.toJson
    binding.authorizationObservationCursor.toJson .executionInvalid
  [join.joinObservationCursor, forkPin.core.sourceObservationCursor,
    manifest.sourceObservationCursor, binding.sourceObservationCursor].forM
      (fun cursor => parseObservationCursorV1 (.composite cursor))
  [forkPin.core.sourceContextVersion, manifest.sourceContextVersion,
    manifest.authorizationContextVersion, binding.sourceContextVersion,
    binding.authorizationContextVersion].forM parseContextVersionV1
  parseObservationCursorV1 manifest.authorizationObservationCursor
  parseObservationCursorV1 binding.authorizationObservationCursor
  sameCanonicalJson forkPin.core.sourceObservationCursor.toJson
    manifest.sourceObservationCursor.toJson .executionInvalid
  ensure (manifest.canonicalRevision = forkPin.core.canonicalRevision ∧
    manifest.canonicalStateHash = forkPin.core.canonicalStateHash) .executionInvalid

def checkRenderedContext (prepared : TaskExecutionPreparedDataV1) : Except DomainError Unit := do
  ensure (prepared.renderedContext = Engine.normalizeNFC prepared.renderedContext)
    .contextBytesMismatch
  let digest ← domainDigest (js "horseness.context-source-bytes.v1")
    (.str (base64 (utf8 prepared.renderedContext)))
  ensure (digest = prepared.manifest.renderedOutputDigest) .contextBytesMismatch

def parsePrepared (workspaceId runId : JsString) (p : TaskExecutionPreparedDataV1) :
    Except DomainError Unit := do
  [p.taskId, p.attemptId, p.profileDigest].forM text
  p.workflowId.toList.forM text
  positive p.generation
  parseClock p.evaluationClock
  parseTaskExecutionLeaseV1 p.lease
  sameCanonicalJson p.lease.observationCursor.toJson p.evaluationClock.observationCursor.toJson
    .executionInvalid
  ensure (p.lease.issuedAt = p.evaluationClock.authorityTime) .executionInvalid
  validatePreparedRecords p
  checkRenderedContext p
  verifyForkPin p.forkPin
  let _ ← sealDependencyJoinSnapshot p.join
  let manifestDigest ← contextManifestCoreDigest p.manifest
  let _ ← attemptContextBindingDigest p.binding
  let profileDigest ← taskExecutionProfileDigest p.profile
  ensure (p.manifest.workspaceId = workspaceId ∧ p.manifest.runId = runId ∧
    profileDigest = p.profileDigest ∧ p.join.taskId = p.taskId ∧
    p.binding.attemptId = p.attemptId ∧ p.binding.generation = p.generation ∧
    p.manifest.attemptId = p.attemptId ∧ p.manifest.generation = p.generation ∧
    p.binding.forkPinDigest = p.forkPin.forkPinDigest ∧
    p.binding.contextManifestCoreDigest = manifestDigest ∧
    ∃ source ∈ p.manifest.sources, source.kind = js "execution-profile" ∧
      source.digest = p.profileDigest) .executionProfileMismatch

/-- `transition(value)`: handles are not blank, outcome sequences are positive. -/
def parseTransition : DispatchInputV1 → Except DomainError Unit
  | .recordHandle handle => text handle
  | .reconcileFound handle => text handle
  | .terminalReceipt _ eventSequence handle => do
      handle.toList.forM text
      positive eventSequence
  | .manualResolution _ eventSequence => positive eventSequence
  | _ => .ok ()

def parseAttemptReference (attempt : AttemptReference) : Except DomainError Unit := do
  [attempt.taskId, attempt.attemptId, attempt.profileDigest].forM text
  positive attempt.generation

def parseEdge (edge : DependencyEdgeV1) : Except DomainError Unit := do
  ensure ((edge.edgeType = .requiresOutcome) ↔ edge.allowedOutcomes.isSome = true) .executionInvalid
  [edge.edgeId, edge.sourceTaskId, edge.dependentTaskId, edge.releasePredicate].forM text
  ensure (edge.allowedOutcomes ≠ some []) .executionInvalid

def parseResolution (s : TaskResolutionV1) (clock : EvaluationClockV1) :
    Except DomainError Unit := do
  [s.taskId, s.retryPolicyDigest, s.arbitrationReason].forM text
  parseObservationCursorV1 (.composite s.observationCursor)
  s.winningGeneration.toList.forM positive
  s.consideredGenerationOutcomes.forM (fun outcome => do
    positive outcome.generation
    positive outcome.terminalEventSequence)
  parseClock clock
  sameCanonicalJson clock.observationCursor.toJson s.observationCursor.toJson .executionInvalid

def parseTaskExecutionEventV1 (event : TaskExecutionEventV1) : Except DomainError Unit := do
  text event.workspaceId
  text event.runId
  match event.payload with
  | .taskCreatedV2 contract => parseTaskContractV2 contract
  | .taskActivatedV1 taskId => text taskId
  | .dependencyAddedV1 edge => parseEdge edge
  | .taskExecutionPreparedV1 prepared => parsePrepared event.workspaceId event.runId prepared
  | .taskExecutionTransitionV1 attempt input => do
      parseAttemptReference attempt
      parseTransition input
  | .taskExecutionReceiptV1 attempt receipt => do
      parseAttemptReference attempt
      verifyAttemptReceipt receipt
  | .taskExecutionAbortedV1 attempt reasonCode clock => do
      parseAttemptReference attempt
      text reasonCode
      parseClock clock
  | .taskResolvedV2 resolution clock => parseResolution resolution clock
  | .taskPlanProposedV1 plannerTaskId plan => do
      text plannerTaskId
      parseTaskPlanV1 plan
  | .taskPlanRevisedV1 basePlanDigest plan => do
      parseTaskPlanV1 plan
      textCheck basePlanDigest .planInvalid
  | .taskPlanRejectedV1 taskId plannerTaskId reasonCode =>
      [taskId, plannerTaskId, reasonCode].forM text
  | .taskPlanAdoptedV1 taskId planDigest => [taskId, planDigest].forM text
  | .taskWorkflowStartedV1 authorization => do
      parseTaskWorkflowAuthorizationV1 authorization
      ensure (authorization.workspaceId = event.workspaceId ∧
        authorization.runId = event.runId) .executionInvalid
  | .taskWorkflowPlanBoundV1 workflowId planDigest graphDigest =>
      [workflowId, planDigest, graphDigest].forM text
  | .taskWorkflowStoppedV1 workflowId _ reasonCode => [workflowId, reasonCode].forM text

end Parsing

end Horseness.ExecutionEvents
