import Horseness.DepthFirst
import Horseness.ExecutionEvents

/-!
The projection of task execution events and its reducer, one function for each
event kind. A refused event leaves no successor; an event that repeats a recorded
fact may leave the projection as it is. Members of an object are visited here in
insertion order: every such visit asks for existence only.
-/

namespace Horseness.Execution

open FallibleRuns Records DepthFirst ScriptText JsonValues PlainObjects ScriptEngine Canonical
  ForkContext Tasks AttemptReceipts TaskPlans ExecutionEvents

structure TaskExecutionAbortRecordV1 where
  reasonCode : JsString
  eventSequence : Nat
  deriving DecidableEq

inductive WorkflowState where
  | running
  | ended (state : WorkflowEnd)
  deriving DecidableEq

structure WorkflowRecord where
  authorization : TaskWorkflowAuthorizationV1
  state : WorkflowState
  reasonCode : Option JsString
  deriving DecidableEq

structure TaskExecutionProjectionV1 where
  contracts : Record JsString TaskContractV2
  lifecycles : Record JsString TaskLifecycle
  edges : List DependencyEdgeV1
  prepared : Record JsString TaskExecutionPreparedDataV1
  attempts : Record JsString AttemptGenerationStateV1
  aborted : Record JsString TaskExecutionAbortRecordV1
  receipts : Record JsString AttemptReceiptEnvelopeV1
  resolutions : Record JsString TaskResolutionV1
  plans : Record JsString TaskPlanV1
  plansByPlanner : Record JsString JsString
  latestPlansByTask : Record JsString JsString
  planRejectionsByPlanner : Record JsString JsString
  adopted : Record JsString (List JsString)
  planRejections : Record JsString JsString
  workflows : Record JsString WorkflowRecord

def emptyTaskExecutionProjectionV1 : TaskExecutionProjectionV1 :=
  ⟨∅, ∅, [], ∅, ∅, ∅, ∅, ∅, ∅, ∅, ∅, ∅, ∅, ∅, ∅⟩

def attemptKey (attemptId : JsString) (generation : Nat) : JsString :=
  attemptId ++ js ":" ++ decimal generation

def AttemptReference.key (attempt : AttemptReference) : JsString :=
  attemptKey attempt.attemptId attempt.generation

section Graphs

def sourcesOf (edges : List DependencyEdgeV1) (task : JsString) : List JsString :=
  (edges.filter (fun edge => edge.dependentTaskId = task)).map DependencyEdgeV1.sourceTaskId

structure DependencyClosureV1 where
  contracts : List TaskContractV2
  edges : List DependencyEdgeV1

def enterTask (state : TaskExecutionProjectionV1) (task : JsString) : Except DomainError Unit :=
  ensure ((state.contracts.get task).isSome = true) .taskNotFound

/-- The tasks a target depends on, in the order they are first visited. A path
visits each task once, so it is no longer than there are contracts. -/
def closureTasks (state : TaskExecutionProjectionV1) (targetTaskId : JsString) :
    Except DomainError (List JsString) :=
  visit (enterTask state) (sourcesOf state.edges) .stackExhausted
    (state.contracts.keys.length + 1) targetTaskId []

def taskDependencyClosureV1 (state : TaskExecutionProjectionV1) (targetTaskId : JsString) :
    Except DomainError DependencyClosureV1 := do
  let seen ← closureTasks state targetTaskId
  let contracts ← (seen.insertionSort (· ≤ ·)).mapM
    (fun id => required (state.contracts.get id) DomainError.executionInvalid)
  return ⟨contracts, state.edges.filter
    (fun edge => edge.dependentTaskId ∈ seen ∧ edge.sourceTaskId ∈ seen)⟩

variable [Engine]

def taskWorkflowGraphDigestV1 (contracts : List TaskContractV2) (edges : List DependencyEdgeV1) :
    Except DomainError JsString := do
  assertAcyclic (contracts.map TaskContractV2.taskId) edges
  let orderedContracts := contracts.insertionSort
    (fun left right => Engine.localeCompare left.taskId right.taskId ≤ 0)
  let orderedEdges := edges.insertionSort
    (fun left right => Engine.localeCompare left.edgeId right.edgeId ≤ 0)
  domainDigest (js "horseness.task-workflow-graph.v1")
    (object [("contracts", .arr (orderedContracts.map TaskContractV2.toJson)),
      ("edges", .arr (orderedEdges.map DependencyEdgeV1.toJson))])

def closureGraphDigest (state : TaskExecutionProjectionV1) (targetTaskId : JsString) :
    Except DomainError JsString := do
  let closure ← taskDependencyClosureV1 state targetTaskId
  taskWorkflowGraphDigestV1 closure.contracts closure.edges

end Graphs

section Guards

variable (s : TaskExecutionProjectionV1)

/-- A truthy `contracts[id]`. Inherited names pass and have no contract fields. -/
def requireTask (id : JsString) : Except DomainError (Option TaskContractV2) := do
  ensure (present s.contracts id = true) .taskNotFound
  return s.contracts.get id

def closureContains (workflow : WorkflowRecord) (id : JsString) : Except DomainError Bool := do
  let closure ← taskDependencyClosureV1 s workflow.authorization.targetTaskId
  return closure.contracts.any (fun contract => contract.taskId = id)

def freezes (allowAutoPlan : Bool) (id : JsString) (workflow : WorkflowRecord) :
    Except DomainError Bool :=
  if workflow.state = .running ∧
      (workflow.authorization.graphDigest ≠ none ∨ allowAutoPlan = false) then
    closureContains s workflow id
  else .ok false

def taskPrepared (id : JsString) : Bool :=
  s.prepared.values.any (fun prepared => prepared.taskId = id)

def mutable (id : JsString) (allowAutoPlan : Bool) : Except DomainError Unit := do
  let _ ← requireTask s id
  ensure (s.lifecycles.get id = some .draft ∧ taskPrepared s id = false) .taskNotDraft
  let frozen ← s.workflows.values.anyM (freezes s allowAutoPlan id)
  ensure (frozen = false) .taskNotDraft

variable [Engine]

/-- The digest of a looked-up contract; an inherited value is no contract. -/
def contractDigestOf : Option TaskContractV2 → Except DomainError JsString
  | none => .error .executionInvalid
  | some contract => taskContractDigestV2 contract

def contractUnchanged (contract : Option TaskContractV2) (expected : JsString)
    (code : DomainError) : Except DomainError Unit := do
  let digest ← contractDigestOf contract
  ensure (digest = expected) code

def sameProfileDigest (left right : TaskExecutionProfileV1) (code : DomainError) :
    Except DomainError Unit := do
  let first ← taskExecutionProfileDigest left
  let second ← taskExecutionProfileDigest right
  ensure (first = second) code

def notBefore (time expiresAt : JsString) : Bool :=
  match Engine.dateParse time, Engine.dateParse expiresAt with
  | some now, some limit => limit ≤ now
  | _, _ => false

def parentAuthorizes (parent : WorkflowRecord) (a : TaskWorkflowAuthorizationV1) :
    Except DomainError Unit := do
  ensure (parent.state = .running ∧ parent.authorization.operationKind = .execute ∧
    parent.authorization.autoPlan = true ∧
    parent.authorization.issuerPrincipalId = a.issuerPrincipalId ∧
    parent.authorization.issuerGrantDigest = a.issuerGrantDigest ∧
    a.planningSource = some ⟨parent.authorization.targetTaskId,
      parent.authorization.targetContractDigest⟩) .authorizationDenied
  let plannerProfile ← required parent.authorization.plannerProfile .authorizationDenied
  sameProfileDigest plannerProfile a.executionProfile .authorizationDenied

def assertTaskWorkflowLaunchV1 (workflowId taskId authorityTime issuerPrincipalId
    issuerGrantDigest : JsString) : Except DomainError Unit := do
  let workflow ← required (s.workflows.get workflowId) .workflowStopped
  ensure (workflow.state = .running) .workflowStopped
  let a := workflow.authorization
  ensure ((Engine.dateParse authorityTime).isSome = true ∧
    notBefore authorityTime a.expiresAt = false) .workflowAuthorizationExpired
  ensure (a.issuerPrincipalId = issuerPrincipalId ∧ a.issuerGrantDigest = issuerGrantDigest)
    .authorizationDenied
  ensure (s.lifecycles.get a.targetTaskId ≠ some (.resolved .cancelled) ∧
    ∀ source ∈ a.planningSource, s.lifecycles.get source.taskId ≠ some (.resolved .cancelled))
    .taskCancelled
  contractUnchanged (s.contracts.get a.targetTaskId) a.targetContractDigest .planSourceChanged
  a.planningSource.toList.forM (fun source =>
    contractUnchanged (s.contracts.get source.taskId) source.contractDigest .planSourceChanged)
  ensure (a.operationKind ≠ .execute → taskId = a.targetTaskId) .authorizationDenied
  let closure ← taskDependencyClosureV1 s a.targetTaskId
  ensure (truthy a.graphDigest = true) .workflowGraphChanged
  let graphDigest ← taskWorkflowGraphDigestV1 closure.contracts closure.edges
  ensure (a.graphDigest = some graphDigest ∧ ∃ contract ∈ closure.contracts,
    contract.taskId = taskId) .workflowGraphChanged
  a.parentWorkflowId.toList.forM (fun parentWorkflowId => do
    let parent ← required (s.workflows.get parentWorkflowId) .authorizationDenied
    parentAuthorizes parent a
    ensure (notBefore authorityTime parent.authorization.expiresAt = false)
      .workflowAuthorizationExpired
    ensure (s.lifecycles.get parent.authorization.targetTaskId ≠ some (.resolved .cancelled))
      .taskCancelled)

end Guards

section Tasks

variable (s : TaskExecutionProjectionV1)

def addContract (s : TaskExecutionProjectionV1) (contract : TaskContractV2) :
    Except DomainError TaskExecutionProjectionV1 := do
  ensure (present s.contracts contract.taskId = false) .executionInvalid
  return { s with
    contracts := s.contracts.set contract.taskId contract
    lifecycles := s.lifecycles.set contract.taskId .draft }

def reduceTaskCreatedV2 (contract : TaskContractV2) :
    Except DomainError TaskExecutionProjectionV1 := addContract s contract

def reduceTaskActivatedV1 (taskId : JsString) : Except DomainError TaskExecutionProjectionV1 := do
  let _ ← requireTask s taskId
  let lifecycle ← required (s.lifecycles.get taskId) .illegalTaskTransition
  let next ← reduceTaskLifecycle lifecycle .activate
  return { s with lifecycles := s.lifecycles.set taskId next }

def reduceDependencyAddedV1 (edge : DependencyEdgeV1) :
    Except DomainError TaskExecutionProjectionV1 := do
  mutable s edge.dependentTaskId false
  let _ ← requireTask s edge.sourceTaskId
  ensure (edge.edgeId ∉ s.edges.map DependencyEdgeV1.edgeId) .executionInvalid
  assertAcyclic s.contracts.keys (s.edges ++ [edge])
  return { s with edges := s.edges ++ [edge] }

end Tasks

section Attempts

variable [Engine] (s : TaskExecutionProjectionV1)

def dependencyFrozen (join : DependencyJoinSnapshotCoreV1) (edge : DependencyEdgeV1) :
    Except DomainError Unit := do
  let resolution ← required (s.resolutions.get edge.sourceTaskId) .taskNotReady
  let satisfied ← dependencySatisfied edge resolution.resolution
  ensure (satisfied = true) .taskNotReady
  let frozen ← required
    (join.dependencies.find? (fun dependency => dependency.edgeId = edge.edgeId)) .taskNotReady
  ensure (frozen.sourceTaskId = edge.sourceTaskId ∧ frozen.edgeType = edge.edgeType ∧
    frozen.winningGeneration = resolution.winningGeneration) .taskNotReady

/-- An attempt of the task that has no terminal event yet. A zero counts as none. -/
def unfinishedAttempt (taskId : JsString) (attempt : AttemptGenerationStateV1) : Bool :=
  (s.prepared.get (attemptKey attempt.attemptId attempt.generation)).map
      TaskExecutionPreparedDataV1.taskId = some taskId &&
    attempt.terminalEventSequence.getD 0 == 0

def launchAllowed (p : TaskExecutionPreparedDataV1) (workflowId : JsString) :
    Except DomainError Unit := do
  let workflow ← required (s.workflows.get workflowId) .workflowStopped
  ensure (workflow.state = .running) .workflowStopped
  assertTaskWorkflowLaunchV1 s workflowId p.taskId p.evaluationClock.authorityTime
    workflow.authorization.issuerPrincipalId workflow.authorization.issuerGrantDigest
  let profileDigest ← taskExecutionProfileDigest workflow.authorization.executionProfile
  ensure (profileDigest = p.profileDigest) .executionProfileMismatch

def plannedAttempt (p : TaskExecutionPreparedDataV1) (bindingDigest idempotencyKeyDigest : JsString) :
    AttemptGenerationStateV1 :=
  { attemptId := p.attemptId
    generation := p.generation
    state := .planned
    bindingDigest := bindingDigest
    idempotencyKeyDigest := idempotencyKeyDigest
    providerHandle := none
    terminalEventSequence := none
    findingCodes := [] }

def reduceTaskExecutionPreparedV1 (p : TaskExecutionPreparedDataV1) :
    Except DomainError TaskExecutionProjectionV1 := do
  let contract ← requireTask s p.taskId
  let key := attemptKey p.attemptId p.generation
  ensure (s.lifecycles.get p.taskId = some .active ∧ (s.prepared.get key).isNone = true ∧
    contract.map TaskContractV2.kind = some p.profile.purpose ∧
    s.attempts.values.any (unfinishedAttempt s p.taskId) = false) .executionInvalid
  p.workflowId.toList.forM (launchAllowed s p)
  let taskEdges := s.edges.filter (fun edge => edge.dependentTaskId = p.taskId)
  ensure (p.join.dependencies.length = taskEdges.length) .taskNotReady
  taskEdges.forM (dependencyFrozen s p.join)
  contractUnchanged contract p.join.taskContractDigest .executionInvalid
  let bindingDigest ← attemptContextBindingDigest p.binding
  let idempotencyKeyDigest ← domainDigest (js "horseness.provider-idempotency-key.v1")
    (.str p.binding.providerIdempotencyKey)
  return { s with
    prepared := s.prepared.set key p
    attempts := s.attempts.set key (plannedAttempt p bindingDigest idempotencyKeyDigest) }

def findAttempt (attempt : AttemptReference) (code : DomainError) :
    Except DomainError (TaskExecutionPreparedDataV1 × AttemptGenerationStateV1) := do
  let prepared ← required (s.prepared.get (AttemptReference.key attempt)) code
  let state ← required (s.attempts.get (AttemptReference.key attempt)) code
  ensure (prepared.taskId = attempt.taskId ∧ prepared.profileDigest = attempt.profileDigest) code
  return (prepared, state)

def settles : DispatchInputV1 → Bool
  | .terminalReceipt .. => true
  | .manualResolution .. => true
  | _ => false

def reduceTaskExecutionTransitionV1 (attempt : AttemptReference) (input : DispatchInputV1) :
    Except DomainError TaskExecutionProjectionV1 := do
  let found ← findAttempt s attempt .executionInvalid
  ensure (input ≠ .reconcileNotFoundIdempotent) .unknownOutcome
  ensure (settles input = false) .executionInvalid
  let next ← reduceDispatch found.2 input
  return { s with attempts := s.attempts.set (AttemptReference.key attempt) next }

def reduceTaskExecutionAbortedV1 (attempt : AttemptReference) (reasonCode : JsString)
    (sequence : Nat) : Except DomainError TaskExecutionProjectionV1 := do
  let found ← findAttempt s attempt .executionProfileMismatch
  ensure (found.2.state = .planned ∧ found.2.terminalEventSequence = none) .abortPostHandoff
  return { s with
    aborted := s.aborted.set (AttemptReference.key attempt) ⟨reasonCode, sequence⟩
    attempts := s.attempts.set (AttemptReference.key attempt)
      { found.2 with state := .terminal .cancelled, terminalEventSequence := some sequence } }

def receiptMatches (workspaceId runId : JsString) (p : TaskExecutionPreparedDataV1)
    (a : AttemptGenerationStateV1) (r : AttemptReceiptEnvelopeV1) : Prop :=
  r.taskId = p.taskId ∧ r.attemptId = p.attemptId ∧ r.generation = p.generation ∧
    r.attemptContextBindingDigest = a.bindingDigest ∧
    r.contextManifestCoreDigest = p.binding.contextManifestCoreDigest ∧
    r.forkPinDigest = p.forkPin.forkPinDigest ∧
    r.producerPrincipalId = p.binding.allowedProducerPrincipalId ∧
    r.producerGrantDigest = p.binding.allowedProducerGrantDigest ∧
    r.adapterId = js "horseness-" ++ p.profile.adapterId.text ++ js "-v1" ∧
    r.providerId = p.profile.adapterId.text ++ js "-native-provider-v1" ∧
    r.workspaceId = workspaceId ∧ r.runId = runId ∧
    r.providerIdempotencyKeyDigest = a.idempotencyKeyDigest

instance (workspaceId runId : JsString) (p : TaskExecutionPreparedDataV1)
    (a : AttemptGenerationStateV1) (r : AttemptReceiptEnvelopeV1) :
    Decidable (receiptMatches workspaceId runId p a r) :=
  inferInstanceAs (Decidable (_ ∧ _))

/-- What a success must have observed: the host, provider and model asked for. -/
def successObserved (p : TaskExecutionPreparedDataV1) (r : AttemptReceiptEnvelopeV1)
    (provenance : TaskExecutionReceiptProvenanceV1) : Prop :=
  r.outputDigest ≠ none ∧ provenance.profileDigest = p.profileDigest ∧
    provenance.observedModelId = some p.profile.modelId ∧
    provenance.observedProviderId = some p.profile.providerId ∧
    provenance.observedHostId = some p.profile.hostId ∧
    provenance.observedHostVersion = some p.profile.hostVersion ∧
    r.hostId = p.profile.hostId ∧ r.hostVersion = p.profile.hostVersion

instance (p : TaskExecutionPreparedDataV1) (r : AttemptReceiptEnvelopeV1)
    (provenance : TaskExecutionReceiptProvenanceV1) : Decidable (successObserved p r provenance) :=
  inferInstanceAs (Decidable (_ ∧ _))

def reduceTaskExecutionReceiptV1 (workspaceId runId : JsString) (attempt : AttemptReference)
    (r : AttemptReceiptEnvelopeV1) (sequence : Nat) :
    Except DomainError TaskExecutionProjectionV1 := do
  let key := AttemptReference.key attempt
  ensure ((s.aborted.get key).isNone = true ∧
    (s.attempts.get key).map AttemptGenerationStateV1.state ≠ some .planned) .receiptPreHandoff
  let found ← findAttempt s attempt .executionProfileMismatch
  ensure (receiptMatches workspaceId runId found.1 found.2 r) .executionProfileMismatch
  let provenance ← parseTaskExecutionReceiptProvenanceV1 r.provenance
  ensure (provenance.profileDigest = found.1.profileDigest) .executionProfileMismatch
  ensure (r.outcome = .succeeded → successObserved found.1 r provenance) .executionProfileMismatch
  match s.receipts.get key with
  | some recorded => do
      ensure (recorded.receiptDigest = r.receiptDigest) .receiptConflict
      return s
  | none => do
      let next ← reduceDispatch found.2
        (.terminalReceipt r.outcome sequence (some r.providerOperationId))
      return { s with
        receipts := s.receipts.set key r
        attempts := s.attempts.set key next }

def taskAttempts (taskId : JsString) : List AttemptGenerationStateV1 :=
  (s.attempts.entries.filter (fun entry =>
    (s.prepared.get entry.1).map TaskExecutionPreparedDataV1.taskId = some taskId)).map Prod.snd

def resolveInput (r : TaskResolutionV1) : ResolveInput :=
  { taskId := r.taskId
    generations := taskAttempts s r.taskId
    retryPolicyDigest := r.retryPolicyDigest
    retryPermitted := false
    cancellationRequested := r.resolution = .cancelled
    observationCursor := r.observationCursor }

def reduceTaskResolvedV2 (r : TaskResolutionV1) :
    Except DomainError TaskExecutionProjectionV1 := do
  let _ ← requireTask s r.taskId
  let resolved ← resolveTask (resolveInput s r)
  let expected ← required resolved .taskResolutionMismatch
  sameCanonicalJson expected.toJson r.toJson .taskResolutionMismatch
  let lifecycle ← required (s.lifecycles.get r.taskId) .illegalTaskTransition
  let next ← reduceTaskLifecycle lifecycle (.resolve r.resolution)
  return { s with
    lifecycles := s.lifecycles.set r.taskId next
    resolutions := assign s.resolutions r.taskId r }

end Attempts

section Plans

variable [Engine] (s : TaskExecutionProjectionV1)

def planAdopted (taskId : JsString) : Bool :=
  s.plans.values.any (fun plan => plan.sourceTaskId = taskId &&
    (s.adopted.get plan.planDigest).isSome)

/-- `plans[digest] ??= plan`, after any stored plan of that digest was the same. -/
def storePlan (plan : TaskPlanV1) : Except DomainError TaskExecutionProjectionV1 :=
  match s.plans.get plan.planDigest with
  | some stored => do
      sameCanonicalJson stored.toJson plan.toJson .planOutcomeConflict
      return s
  | none => return { s with plans := s.plans.set plan.planDigest plan }

def reduceTaskPlanProposedV1 (plannerTaskId : JsString) (p : TaskPlanV1) :
    Except DomainError TaskExecutionProjectionV1 := do
  let task ← requireTask s p.sourceTaskId
  let planner ← requireTask s plannerTaskId
  ensure (planner.map TaskContractV2.kind = some .planner ∧ task.isSome = true ∧
    planner.bind TaskContractV2.sourceTaskId = task.map TaskContractV2.taskId) .planSourceChanged
  contractUnchanged task p.sourceContractDigest .planSourceChanged
  ensure (s.lifecycles.get plannerTaskId = some (.resolved .succeeded)) .planSourceChanged
  let recorded := s.plansByPlanner.get plannerTaskId
  ensure (truthy (s.planRejectionsByPlanner.get plannerTaskId) = false ∧
    (truthy recorded = true → recorded = some p.planDigest)) .planOutcomeConflict
  if truthy recorded then return s
  else do
    let stored ← storePlan s p
    return { stored with
      plansByPlanner := assign stored.plansByPlanner plannerTaskId p.planDigest
      latestPlansByTask := assign stored.latestPlansByTask p.sourceTaskId p.planDigest
      planRejections := stored.planRejections.erase p.sourceTaskId }

def assertTaskPlanRevisionV1 (taskId basePlanDigest : JsString) :
    Except DomainError TaskPlanV1 := do
  let source ← requireTask s taskId
  let base ← required (s.plans.get basePlanDigest) .planNotFound
  ensure (base.sourceTaskId = taskId) .planNotFound
  ensure (planAdopted s taskId = false) .planAlreadyAdopted
  ensure (s.lifecycles.get taskId = some .draft ∧ taskPrepared s taskId = false) .taskNotDraft
  let busy ← s.workflows.values.anyM (fun workflow =>
    if workflow.state = .running then
      if workflow.authorization.planningSource.map PlanningSource.taskId = some taskId then .ok true
      else closureContains s workflow taskId
    else .ok false)
  ensure (busy = false) .workflowAlreadyRunning
  ensure (source.map TaskContractV2.kind = some .work) .planSourceChanged
  contractUnchanged source base.sourceContractDigest .planSourceChanged
  ensure (s.latestPlansByTask.get taskId = some basePlanDigest) .planStale
  return base

def reduceTaskPlanRevisedV1 (basePlanDigest : JsString) (plan : TaskPlanV1) :
    Except DomainError TaskExecutionProjectionV1 := do
  let base ← assertTaskPlanRevisionV1 s plan.sourceTaskId basePlanDigest
  ensure (plan.sourceContractDigest = base.sourceContractDigest) .planSourceChanged
  let stored ← storePlan s plan
  return { stored with
    latestPlansByTask := assign stored.latestPlansByTask plan.sourceTaskId plan.planDigest
    planRejections := stored.planRejections.erase plan.sourceTaskId }

def reduceTaskPlanRejectedV1 (taskId plannerTaskId reasonCode : JsString) :
    Except DomainError TaskExecutionProjectionV1 := do
  let _ ← requireTask s taskId
  let planner ← requireTask s plannerTaskId
  ensure (planner.map TaskContractV2.kind = some .planner ∧
    planner.bind TaskContractV2.sourceTaskId = some taskId) .planSourceChanged
  let recorded := s.planRejectionsByPlanner.get plannerTaskId
  ensure (truthy (s.plansByPlanner.get plannerTaskId) = false ∧
    (truthy recorded = true → recorded = some reasonCode)) .planOutcomeConflict
  if truthy recorded then return s
  else return { s with
    planRejectionsByPlanner := assign s.planRejectionsByPlanner plannerTaskId reasonCode
    planRejections := assign s.planRejections taskId reasonCode }

def reduceTaskPlanAdoptedV1 (taskId planDigest : JsString) :
    Except DomainError TaskExecutionProjectionV1 := do
  let p ← required (s.plans.get planDigest) .planNotFound
  ensure (p.sourceTaskId = taskId) .planNotFound
  if (s.adopted.get p.planDigest).isSome then return s
  else do
    ensure (planAdopted s taskId = false) .planSourceChanged
    mutable s taskId true
    let task ← requireTask s taskId
    contractUnchanged task p.sourceContractDigest .planSourceChanged
    let adoption ← derivePlanAdoptionV1 p
    let grown ← adoption.contracts.foldlM addContract s
    assertAcyclic grown.contracts.keys (grown.edges ++ adoption.edges)
    return { grown with
      edges := grown.edges ++ adoption.edges
      adopted := grown.adopted.set p.planDigest (adoption.contracts.map TaskContractV2.taskId) }

end Plans

section Workflows

variable [Engine] (s : TaskExecutionProjectionV1)

/-- What a planning source must still be when its workflow starts. -/
def planningSourceCurrent (a : TaskWorkflowAuthorizationV1) (target : Option TaskContractV2)
    (source : PlanningSource) : Except DomainError Unit := do
  let task ← requireTask s source.taskId
  contractUnchanged task source.contractDigest .planSourceChanged
  ensure (a.operationKind = .breakdown → target.map TaskContractV2.kind = some .planner ∧
    target.bind TaskContractV2.sourceTaskId = some source.taskId) .planSourceChanged
  ensure (a.autoPlan = true → a.targetTaskId = source.taskId ∧
    a.targetContractDigest = source.contractDigest) .planSourceChanged

def terminalLifecycle : Option TaskLifecycle → Bool
  | some (.resolved _) => true
  | _ => false

def outlives (expiresAt limit : JsString) : Bool :=
  match Engine.dateParse expiresAt, Engine.dateParse limit with
  | some own, some other => other < own
  | _, _ => false

def reduceTaskWorkflowStartedV1 (a : TaskWorkflowAuthorizationV1) :
    Except DomainError TaskExecutionProjectionV1 := do
  let target ← requireTask s a.targetTaskId
  ensure (target.map TaskContractV2.kind = some a.executionProfile.purpose)
    .executionProfileMismatch
  ensure (∀ workflow ∈ s.workflows.values,
    ¬ (workflow.state = .running ∧ workflow.authorization.targetTaskId = a.targetTaskId))
    .workflowAlreadyRunning
  a.planningSource.toList.forM (planningSourceCurrent s a target)
  a.parentWorkflowId.toList.forM (fun parentWorkflowId => do
    let parent ← required (s.workflows.get parentWorkflowId) .authorizationDenied
    parentAuthorizes parent a
    ensure (outlives a.expiresAt parent.authorization.expiresAt = false) .authorizationDenied)
  ensure (present s.workflows a.workflowId = false) .executionInvalid
  contractUnchanged target a.targetContractDigest .executionInvalid
  ensure (terminalLifecycle (s.lifecycles.get a.targetTaskId) = false) .executionInvalid
  a.graphDigest.toList.forM (fun graphDigest => do
    let current ← closureGraphDigest s a.targetTaskId
    ensure (current = graphDigest) .workflowGraphChanged)
  return { s with workflows := s.workflows.set a.workflowId ⟨a, .running, none⟩ }

def reduceTaskWorkflowPlanBoundV1 (workflowId planDigest graphDigest : JsString) :
    Except DomainError TaskExecutionProjectionV1 := do
  let w ← required (s.workflows.get workflowId) .executionInvalid
  ensure (w.state = .running ∧ w.authorization.autoPlan = true ∧
    w.authorization.graphDigest = none ∧ (s.adopted.get planDigest).isSome = true ∧
    (s.plans.get planDigest).map TaskPlanV1.sourceTaskId = some w.authorization.targetTaskId)
    .executionInvalid
  let current ← closureGraphDigest s w.authorization.targetTaskId
  ensure (current = graphDigest) .workflowGraphChanged
  let bound := { w.authorization with graphDigest := some graphDigest, planDigest := some planDigest }
  return { s with workflows := s.workflows.set workflowId { w with authorization := bound } }

def reduceTaskWorkflowStoppedV1 (workflowId : JsString) (state : WorkflowEnd)
    (reasonCode : JsString) : Except DomainError TaskExecutionProjectionV1 := do
  let w ← required (s.workflows.get workflowId) .workflowStopped
  ensure (w.state = .running) .workflowStopped
  ensure (state = .succeeded →
    s.lifecycles.get w.authorization.targetTaskId = some (.resolved .succeeded))
    .taskResolutionMismatch
  let stopped : WorkflowRecord := ⟨w.authorization, .ended state, some reasonCode⟩
  return { s with workflows := s.workflows.set workflowId stopped }

end Workflows

variable [Engine]

def reduceTaskExecutionV1 (state : TaskExecutionProjectionV1) (event : TaskExecutionEventV1)
    (sequence : Nat) : Except DomainError TaskExecutionProjectionV1 := do
  parseTaskExecutionEventV1 event
  match event.payload with
  | .taskCreatedV2 contract => reduceTaskCreatedV2 state contract
  | .taskActivatedV1 taskId => reduceTaskActivatedV1 state taskId
  | .dependencyAddedV1 edge => reduceDependencyAddedV1 state edge
  | .taskExecutionPreparedV1 prepared => reduceTaskExecutionPreparedV1 state prepared
  | .taskExecutionTransitionV1 attempt input => reduceTaskExecutionTransitionV1 state attempt input
  | .taskExecutionReceiptV1 attempt receipt =>
      reduceTaskExecutionReceiptV1 state event.workspaceId event.runId attempt receipt sequence
  | .taskExecutionAbortedV1 attempt reasonCode _ =>
      reduceTaskExecutionAbortedV1 state attempt reasonCode sequence
  | .taskResolvedV2 resolution _ => reduceTaskResolvedV2 state resolution
  | .taskPlanProposedV1 plannerTaskId plan => reduceTaskPlanProposedV1 state plannerTaskId plan
  | .taskPlanRevisedV1 basePlanDigest plan => reduceTaskPlanRevisedV1 state basePlanDigest plan
  | .taskPlanRejectedV1 taskId plannerTaskId reasonCode =>
      reduceTaskPlanRejectedV1 state taskId plannerTaskId reasonCode
  | .taskPlanAdoptedV1 taskId planDigest => reduceTaskPlanAdoptedV1 state taskId planDigest
  | .taskWorkflowStartedV1 authorization => reduceTaskWorkflowStartedV1 state authorization
  | .taskWorkflowPlanBoundV1 workflowId planDigest graphDigest =>
      reduceTaskWorkflowPlanBoundV1 state workflowId planDigest graphDigest
  | .taskWorkflowStoppedV1 workflowId ended reasonCode =>
      reduceTaskWorkflowStoppedV1 state workflowId ended reasonCode

def executionStep (state : TaskExecutionProjectionV1) (input : TaskExecutionEventV1 × Nat) :
    Except DomainError TaskExecutionProjectionV1 :=
  reduceTaskExecutionV1 state input.1 input.2

/-- Reached from the empty projection by accepted events, at any positions. -/
def Reachable (state : TaskExecutionProjectionV1) : Prop :=
  Reaches executionStep (fun _ _ => True) emptyTaskExecutionProjectionV1 state

end Horseness.Execution
