import Horseness.ExecutionStore

/-!
What the execution service reads before it acts: a run as it is stored, the grants that
authorize an actor or a workflow, the dependencies and attempts of a task, and whether the
workspace is free. Nothing here writes. What the parts around the service answer while it
reads (the clock, the grants, the policy, the artifacts) is a parameter.
-/

namespace Horseness.ServiceViews

open FallibleRuns ScriptText JsonValues ScriptEngine Canonical Cursors ForkContext Tasks
  AttemptReceipts TaskPlans ExecutionEvents Execution EventPayloads EventChains Replay
  ExecutionStore

section Grants

inductive PrincipalRole where
  | authority
  | approver
  | operator
  | worker
  | adapter
  deriving DecidableEq

/-- The methods of `METHOD_REGISTRY_V1`. -/
inductive ProtocolMethodV1 where
  | workspaceCreate
  | workspaceGet
  | runCreate
  | runGet
  | runList
  | runStatus
  | runClose
  | taskCreate
  | taskUpdate
  | taskCancel
  | taskResolve
  | taskGet
  | taskList
  | taskDispatch
  | taskBreakdown
  | taskAdoptPlan
  | taskExecute
  | taskRevisePlan
  | dependencyAdd
  | dependencyList
  | joinGet
  | joinList
  | forkCreate
  | forkRefresh
  | forkGet
  | contextMaterialize
  | contextBind
  | contextGet
  | dispatchLaunch
  | dispatchCancel
  | dispatchReconcile
  | dispatchResolveUnknown
  | dispatchAuthorizeDuplicateRisk
  | dispatchGet
  | artifactPublish
  | artifactGet
  | receiptSubmit
  | receiptGet
  | proposalSubmit
  | proposalGet
  | proposalEvaluate
  | proposalApprove
  | proposalReject
  | proposalRelease
  | proposalRebase
  | admissionDecision
  | admissionSubscribe
  | admissionHistory
  | canonicalGet
  | historyList
  | historySubscribe
  | policySet
  | policyGet
  | grantIssue
  | grantDelegate
  | grantRevoke
  | grantList
  | quotaSet
  | quotaGet
  | adapterCapabilities
  | adapterLaunch
  | adapterCancel
  | adapterReconcile
  | adapterResume
  | adapterReattach
  | adapterInjectContext
  | adapterCollectReceipt
  | adapterNativePackageMetadata
  | adapterInstallContributions
  | adapterDoctor
  | adapterWorkerReturn
  deriving DecidableEq

structure AuthenticatedGrantV1 where
  principalId : JsString
  principalRole : PrincipalRole
  peerIdentity : JsString
  workspaceId : JsString
  runId : Option JsString
  taskId : Option JsString
  attemptId : Option JsString
  generation : Option Nat
  proposalId : Option JsString
  adapterId : Option JsString
  allowedMethods : List ProtocolMethodV1
  expiresAt : JsString
  grantDigest : JsString
  deriving DecidableEq

structure ExecutionActorV1 where
  principalId : JsString
  grantDigest : JsString
  deriving DecidableEq

structure ExecutionGrantObservationV1 where
  grant : AuthenticatedGrantV1
  expectation : AuthorityStateExpectationV1
  deriving DecidableEq

structure ProducerRequest where
  actor : ExecutionActorV1
  runId : JsString
  taskId : JsString
  attemptId : JsString
  generation : Nat
  adapterId : JsString
  expiresAt : JsString

structure ExecutionPublicationV1 where
  digest : JsString
  mediaType : JsString
  bytes : List Nat
  deriving DecidableEq

/-- The policy that lets a task go on, by its digest and its canonical JSON, and the quota. -/
structure PolicySelection where
  policyDigest : JsString
  policyText : JsString
  quotaDigest : JsString

end Grants

section Views

variable [Engine]

structure ExecutionView where
  cursor : CompositeCursorV1
  stream : RunStream
  canonical : CanonicalDocument
  state : TaskExecutionProjectionV1
  workspace : WorkspaceState

def viewOf (store : Store) (runId : JsString) : Except DomainError ExecutionView := do
  let stream ← required (store.runs.get runId) .taskNotFound
  let head ← required stream.head .taskNotFound
  return {
    cursor := {
      workspaceId := store.workspaceId
      workspaceSequence := store.workspace.sequence
      workspaceEnvelopeHash := store.workspace.envelopeHash
      workspaceContextEpoch := store.workspace.sequence - 1
      runId := runId
      runSequence := head.sequence
      runEnvelopeHash := head.envelopeHash
      runContextEpoch := head.sequence - 1 }
    stream := stream
    canonical := stream.replay.canonical
    state := stream.replay.operational.execution
    workspace := store.workspace.state }

/-- What the parts around the service answer during one turn of it. -/
structure Surroundings where
  clock : JsString
  observe : JsString → Option ExecutionGrantObservationV1
  reference : JsString → Option JsString
  /-- The principal and the grant that `producer` issues for an attempt. -/
  producer : ProducerRequest → Except Failure (JsString × JsString)
  /-- Is this still the recorded authority state? -/
  current : AuthorityStateExpectationV1 → Bool
  checkPolicy : ExecutionView → JsString → JsString → Except DomainError PolicySelection
  /-- The policy pinned in the stored context is the pinned one and lets the attempt go on. -/
  checkPinnedPolicy : ExecutionView → TaskExecutionPreparedDataV1 → Except DomainError Unit
  /-- The rendered context is stored and hashes to what the manifest names. -/
  storedContext : TaskExecutionPreparedDataV1 → Except Failure Unit
  /-- What a recorded receipt names is stored, with the sizes it gives. -/
  storedReceipt : AttemptReceiptEnvelopeV1 → Except Failure Unit
  /-- What a new receipt names is supplied, or was published with its attempt. -/
  suppliedObjects : TaskExecutionPreparedDataV1 → AttemptReceiptEnvelopeV1 →
    List ExecutionPublicationV1 → Except Failure Unit
  /-- The plan that the stored output of a planner holds. -/
  planOutput : JsString → Except Failure (List TaskPlanItemV1)
  /-- The text of a stored output. -/
  output : JsString → Except Failure JsString
  /-- Artifacts are published before what refers to them is appended. -/
  publish : List JsString → Except Failure Unit
  /-- The request was parsed for its connection, whose grant allows its method and scope. -/
  admitted : Except Failure Unit
  /-- What else the grant authority asks of a grant before it is issued. -/
  issuable : JsString → Except Failure Unit

end Views

section Authorization

def workflowMethod : OperationKind → ProtocolMethodV1
  | .dispatch => .taskDispatch
  | .breakdown => .taskBreakdown
  | .execute => .taskExecute

def bridgeAdapter (adapterId : NativeTaskAdapterIdV1) : JsString :=
  js "horseness-" ++ adapterId.text ++ js "-v1"

/-- The methods that start or revise work ask for a grant of an authority or an operator
that is bound to no attempt and no proposal. -/
def startsWork (method : ProtocolMethodV1) : Bool :=
  [.taskDispatch, .taskBreakdown, .taskExecute, .taskRevisePlan].contains method

variable [Engine] (w : Surroundings) (workspaceId : JsString)

def authorize (actor : ExecutionActorV1) (runId taskId : JsString) (method : ProtocolMethodV1)
    (adapterId : Option NativeTaskAdapterIdV1) :
    Except DomainError ExecutionGrantObservationV1 := do
  let observed ← required (w.observe actor.grantDigest) .authorizationDenied
  let g := observed.grant
  ensure (g.principalId = actor.principalId ∧ g.workspaceId = workspaceId ∧
    method ∈ g.allowedMethods ∧ (∀ bound ∈ g.runId, bound = runId) ∧
    ∀ bound ∈ g.taskId, bound = taskId) .authorizationDenied
  ensure (∀ adapter ∈ adapterId, ∀ bound ∈ g.adapterId, bound = bridgeAdapter adapter)
    .authorizationDenied
  ensure (startsWork method = true → g.attemptId = none ∧ g.generation = none ∧
    g.proposalId = none ∧ (g.principalRole = .authority ∨ g.principalRole = .operator))
    .authorizationDenied
  return observed

def workflowAuthority (view : ExecutionView) (authorization : TaskWorkflowAuthorizationV1) :
    Except DomainError ExecutionGrantObservationV1 := do
  let registered ← required (view.state.workflows.get authorization.workflowId) .workflowStopped
  ensure (registered.state = .running ∧ registered.authorization = authorization) .workflowStopped
  let parent := authorization.parentWorkflowId.bind view.state.workflows.get
  ensure (authorization.parentWorkflowId.isSome = true →
    parent.map WorkflowRecord.state = some .running) .workflowStopped
  let grantTask := match parent with
    | some record => record.authorization.targetTaskId
    | none => (authorization.planningSource.map PlanningSource.taskId).getD
        authorization.targetTaskId
  let method := if parent.isSome then .taskExecute else workflowMethod authorization.operationKind
  let actor := ⟨authorization.issuerPrincipalId, authorization.issuerGrantDigest⟩
  let observation ← authorize w workspaceId actor view.cursor.runId grantTask method
    (some authorization.executionProfile.adapterId)
  authorization.plannerProfile.toList.forM fun profile => do
    let _ ← authorize w workspaceId actor view.cursor.runId grantTask method
      (some profile.adapterId)
  ensure (notBefore w.clock authorization.expiresAt = false) .workflowAuthorizationExpired
  ensure (view.state.lifecycles.get authorization.targetTaskId ≠ some (.resolved .cancelled) ∧
    ∀ source ∈ authorization.planningSource,
      view.state.lifecycles.get source.taskId ≠ some (.resolved .cancelled)) .taskCancelled
  return observation

end Authorization

section Reading

variable [Engine]

def assertCursor (view : ExecutionView) (expected : CompositeCursorV1) : Except Failure Unit :=
  ensure (view.cursor = expected) (.conflict false)

def resolvedEvent (view : ExecutionView) (taskId : JsString) : Option HashedEventEnvelopeV1 :=
  view.stream.events.find? fun item => match item.envelope.payload with
    | .run (.taskExecution ⟨_, _, .taskResolvedV2 resolution _⟩) => resolution.taskId = taskId
    | _ => false

structure Dependencies where
  satisfied : Bool
  unknown : Bool
  cancelled : Bool
  outcomes : List DependencyOutcomeV1

def completionPredicateIdentity : Except DomainError JsString :=
  domainDigest (js "horseness.task-completion-predicate.v1")
    (object [("kind", .str (js "receipt-only"))])

/-- A predicate of an edge is met by any resolution, or by a receipt of the winner. -/
def edgeReleased (view : ExecutionView) (edge : DependencyEdgeV1) (resolution : TaskResolutionV1) :
    Except DomainError Bool := do
  let receiptOnly ← completionPredicateIdentity
  let succeeded := view.state.receipts.values.any fun receipt =>
    receipt.taskId = edge.sourceTaskId && some receipt.generation = resolution.winningGeneration &&
      receipt.outcome = .succeeded
  return edge.releasePredicate = js "task-resolution" ||
    edge.releasePredicate = receiptOnly && succeeded

def dependencyRound (view : ExecutionView) (found : Dependencies) (edge : DependencyEdgeV1) :
    Except DomainError Dependencies :=
  match view.state.resolutions.get edge.sourceTaskId with
  | none => .ok { found with unknown := true, satisfied := false }
  | some resolution => do
      let event ← required (resolvedEvent view edge.sourceTaskId) .taskResolutionMismatch
      let released ← edgeReleased view edge resolution
      let satisfied ← if released then dependencySatisfied edge resolution.resolution
        else pure false
      return {
        satisfied := found.satisfied && satisfied
        unknown := found.unknown
        cancelled := found.cancelled ||
          (edge.propagateCancellation && resolution.resolution = .cancelled)
        outcomes := found.outcomes ++ [{
          edgeId := edge.edgeId
          edgeType := edge.edgeType
          sourceTaskId := edge.sourceTaskId
          taskResolutionEventSequence := event.envelope.sequence
          taskResolutionDigest := event.envelopeHash
          winningGeneration := resolution.winningGeneration }] }

def dependencies (view : ExecutionView) (taskId : JsString) : Except DomainError Dependencies :=
  (view.state.edges.filter fun edge => edge.dependentTaskId = taskId).foldlM (dependencyRound view)
    ⟨true, false, false, []⟩

structure AttemptView where
  key : JsString
  prepared : TaskExecutionPreparedDataV1
  state : AttemptGenerationStateV1
  receipt : Option AttemptReceiptEnvelopeV1

def taskAttempts (view : ExecutionView) (taskId : JsString) :
    Except DomainError (List AttemptView) :=
  (view.state.prepared.entries.filter fun entry => entry.2.taskId = taskId).mapM fun entry => do
    let state ← required (view.state.attempts.get entry.1) DomainError.executionInvalid
    return ⟨entry.1, entry.2, state, view.state.receipts.get entry.1⟩

/-- An attempt that was launched, or may have been, and has not ended. -/
def live (state : DispatchState) : Bool := !isTerminal state && state != .planned

def assertWorkspaceAvailable (store : Store) (exceptKey : Option JsString) :
    Except DomainError Unit :=
  store.listRunIds.forM fun runId => do
    let view ← viewOf store runId
    view.state.attempts.entries.forM fun entry =>
      ensure (some entry.1 = exceptKey ∨ live entry.2.state = false) .executionWorkspaceBusy

end Reading

end Horseness.ServiceViews
