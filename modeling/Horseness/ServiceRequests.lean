import Horseness.ServiceWorkflows

/-!
The sections of the requests that clients make: creating runs and tasks, starting
workflows, adopting and revising plans, and cancelling. A request that waits in the middle has a
section for each side of the wait.
-/

namespace Horseness.ServiceRequests

open FallibleRuns ScriptText JsonValues ScriptEngine Canonical Cursors Tasks TaskPlans
  ExecutionEvents Execution EventPayloads EventChains Replay Turns ExecutionStore ServiceViews
  ServiceCommands ServiceWorkflows

variable [Engine] (w : Surroundings)

section Creation

def createRunGenesis (cursor : AbsentRunGenesisCursorV1) (initialDocument : JsValue)
    (principalId commandId : JsString) : Except DomainError HashedEventEnvelopeV1 :=
  sealEventEnvelope {
    streamKind := .run
    workspaceId := cursor.workspaceId
    streamId := cursor.runId
    sequence := 1
    eventId := commandId ++ js ":1"
    eventType := js "RunCreatedV1"
    principalId := principalId
    causationId := commandId
    correlationId := commandId
    idempotencyKey := commandId
    priorEnvelopeHash := none
    payloadHash := []
    payload := .run (.runCreatedV1 cursor.workspaceId cursor.runId initialDocument) }

def beginStream (event : HashedEventEnvelopeV1) : Except DomainError RunStream :=
  match replayed : deterministicReplay [event] with
  | .ok replay => .ok ⟨[event], replay, replayed⟩
  | .error code => .error code

def Store.mentions (store : Store) (runId : JsString) : Prop :=
  (store.runs.get runId).isSome = true ∨ (∃ record ∈ store.commands, record.runId = runId) ∨
    ∃ consumption ∈ store.consumed, consumption.runId = runId

instance (store : Store) (runId : JsString) : Decidable (Store.mentions store runId) :=
  inferInstanceAs (Decidable (_ ∨ _ ∨ _))

/-- `run.create.v1`: a run of which the store has nothing yet. -/
def runCreate (cursor : AbsentRunGenesisCursorV1) (initialDocument : JsValue)
    (principalId commandId : JsString) : Section Unit := do
  let event ← ask (createRunGenesis cursor initialDocument principalId commandId)
  let store ← stored
  let request := RecordedRequest.genesis cursor event.envelopeHash
  match store.command cursor.runId commandId with
  | some recorded => check (ensure (recorded.request = request) (.conflict true))
  | none => do
      check (ensure (cursor.workspaceSequence = store.workspace.sequence ∧
        cursor.workspaceEnvelopeHash = store.workspace.envelopeHash ∧
        cursor.workspaceContextEpoch = store.workspace.sequence - 1) (.conflict false))
      check (ensure (¬ Store.mentions store cursor.runId) (.conflict false))
      check (ensure ((store.eventIds ++ [event.envelope.eventId]).Nodup) .constraint)
      let stream ← ask (beginStream event)
      commit { store with
        runs := store.runs.set cursor.runId stream
        commands := store.commands ++ [⟨cursor.runId, commandId, request, .append none stream.head⟩] }

def createdTask (item : HashedEventEnvelopeV1) : Option JsString :=
  match item.envelope.payload with
  | .run (.taskExecution ⟨_, _, .taskCreatedV2 contract⟩) => some contract.taskId
  | _ => none

structure TaskCreation where
  operationId : JsString
  observationCursor : CompositeCursorV1
  principalId : JsString
  contract : TaskContractV2

/-- `task.create.v1`: under the client's operation id, as one event on the head that the
client saw. A task that exists must have been created by this operation. -/
def taskCreate (input : TaskCreation) : Section Unit := do
  let cursor := input.observationCursor
  check (ensure (cursor.runContextEpoch = cursor.runSequence - 1) (.protocol .staleObservation))
  ask (parseTaskContractV2 input.contract)
  check (ensure (input.contract.kind = .work ∧ input.contract.sourceTaskId = none)
    (.protocol .invalidParams))
  let view ← viewed cursor.runId
  check (ensure ((view.state.contracts.get input.contract.taskId).isSome = true →
    ∃ item ∈ view.stream.events, item.envelope.causationId = input.operationId ∧
      createdTask item = some input.contract.taskId) (.protocol .invalidParams))
  let eventId ← ask (domainDigest (js "horseness.task-created-event-id.v1")
    (object [("workspaceId", .str cursor.workspaceId), ("runId", .str cursor.runId),
      ("commandId", .str input.operationId)]))
  let event ← ask (sealEventEnvelope {
    streamKind := .run
    workspaceId := cursor.workspaceId
    streamId := cursor.runId
    sequence := cursor.runSequence + 1
    eventId := eventId
    eventType := js "TaskCreatedV2"
    principalId := input.principalId
    causationId := input.operationId
    correlationId := input.operationId
    idempotencyKey := input.operationId
    priorEnvelopeHash := some cursor.runEnvelopeHash
    payloadHash := []
    payload := .run (.taskExecution ⟨cursor.workspaceId, cursor.runId,
      .taskCreatedV2 input.contract⟩) })
  let store ← stored
  let next ← check (appendAtomic store w.current cursor.runId {
    commandId := input.operationId
    workspaceObservationCursor := cursor
    authorityStateExpectations := none
    clientRequestDigest := none
    expectedSequence := cursor.runSequence
    expectedEnvelopeHash := cursor.runEnvelopeHash
    envelopeHashes := [event.envelopeHash]
    requiredArtifactDigests := [] } [event])
  match next with
  | none => return ()
  | some after => commit after

end Creation

section Starting

structure StartTaskWorkflowV1 where
  operationKind : OperationKind
  operationId : JsString
  requestDigest : JsString
  observationCursor : CompositeCursorV1
  taskId : JsString
  actor : ExecutionActorV1
  adapterId : NativeTaskAdapterIdV1
  effort : Option TaskEffortV1
  plannerEffort : Option TaskEffortV1
  autoPlan : Bool
  plannerAdapterId : Option NativeTaskAdapterIdV1
  deriving DecidableEq

def workflowIdOf (workspaceId runId operationId : JsString) : Except DomainError JsString := do
  let digest ← domainDigest (js "horseness.task-workflow-id.v1")
    (object [("workspaceId", .str workspaceId), ("runId", .str runId),
      ("operationId", .str operationId)])
  return js "workflow:" ++ digest

def startedEvent (view : ExecutionView) (workflowId : JsString) : Option HashedEventEnvelopeV1 :=
  view.stream.events.find? fun item => match item.envelope.payload with
    | .run (.taskExecution ⟨_, _, .taskWorkflowStartedV1 authorization⟩) =>
        authorization.workflowId = workflowId
    | _ => false

def acknowledgement (view : ExecutionView) (authorization : TaskWorkflowAuthorizationV1) :
    Except DomainError Unit := do
  let _ ← required (startedEvent view authorization.workflowId) .executionInvalid
  if authorization.operationKind = .dispatch then
    let _ ← required (view.state.contracts.get authorization.targetTaskId) .taskNotFound

def runningWorkflow (taskId : JsString) (item : WorkflowRecord) : Bool :=
  item.state = .running && (item.authorization.targetTaskId = taskId ||
    item.authorization.planningSource.map PlanningSource.taskId = some taskId)

def expiryOf (input : StartTaskWorkflowV1) (grantExpiresAt : JsString)
    (profile : TaskExecutionProfileV1) (plannerProfile : Option TaskExecutionProfileV1) :
    Option Int := do
  let granted ← Engine.dateParse grantExpiresAt
  let now ← Engine.dateParse w.clock
  let rounds := if input.operationKind = .execute then 33 else 1
  let planning := (plannerProfile.map TaskExecutionProfileV1.timeoutMs).getD 0
  return min granted (now + profile.timeoutMs * rounds + planning + 120000)

/-- After the profiles are resolved: the workflow starts on the head that the client saw. -/
def completeStart (stopping : Bool) (input : StartTaskWorkflowV1) (source : TaskContractV2)
    (profile : TaskExecutionProfileV1) (plannerProfile : Option TaskExecutionProfileV1) :
    Section Unit := do
  ask (ensure (stopping = false) .workflowStopped)
  let runId := input.observationCursor.runId
  let view ← viewed runId
  let workspaceId := view.cursor.workspaceId
  check (assertCursor view input.observationCursor)
  let observed ← ask (authorize w workspaceId input.actor runId input.taskId
    (workflowMethod input.operationKind) none)
  let workflowId ← ask (workflowIdOf workspaceId runId input.operationId)
  let closure ← ask (taskDependencyClosureV1 view.state input.taskId)
  let planner := plannerTask workflowId source
    (js "Return the complete validated task graph as JSON without executing it.")
  let planning := input.operationKind = .breakdown
  let target := if planning then planner else source
  if input.operationKind = .dispatch then
    let found ← ask (dependencies view input.taskId)
    ask (ensure (found.satisfied = true ∧ found.unknown = false ∧ found.cancelled = false)
      .taskNotReady)
  let opening : List TaskExecutionPayloadV1 := match input.operationKind with
    | .breakdown => [.taskCreatedV2 planner, .taskActivatedV1 planner.taskId]
    | .dispatch => if view.state.lifecycles.get input.taskId = some .draft then
        [.taskActivatedV1 input.taskId] else []
    | .execute => []
  let graph := if planning then ⟨[planner], []⟩ else closure
  let _ ← ask (w.checkPolicy view input.taskId input.requestDigest)
  let sourceDigest ← ask (taskContractDigestV2 source)
  let targetDigest ← ask (taskContractDigestV2 target)
  let expiresAt ← check (isoTime (expiryOf w input observed.grant.expiresAt profile plannerProfile))
  let graphDigest ← ask (if input.autoPlan = true then pure none
    else some <$> taskWorkflowGraphDigestV1 graph.contracts graph.edges)
  let authorization : TaskWorkflowAuthorizationV1 := {
    workflowId := workflowId
    operationKind := input.operationKind
    requestDigest := input.requestDigest
    planningSource := if planning ∨ input.autoPlan = true then some ⟨source.taskId, sourceDigest⟩
      else none
    parentWorkflowId := none
    workspaceId := workspaceId
    runId := runId
    targetTaskId := target.taskId
    targetContractDigest := targetDigest
    issuerPrincipalId := input.actor.principalId
    issuerGrantDigest := input.actor.grantDigest
    expiresAt := expiresAt
    executionProfile := profile
    plannerProfile := plannerProfile
    autoPlan := input.autoPlan
    graphDigest := graphDigest
    planDigest := none }
  let _ ← append w view
    ((opening ++ [TaskExecutionPayloadV1.taskWorkflowStartedV1 authorization]).map (execution view))
    ⟨input.operationId, input.actor.principalId, some observed.expectation, [],
      some input.requestDigest⟩
  let view ← viewed runId
  ask (acknowledgement view authorization)

end Starting

section Plans

/-- What every mutation of a client brings. -/
structure Mutation where
  runId : JsString
  taskId : JsString
  operationId : JsString
  requestDigest : JsString
  observationCursor : CompositeCursorV1
  actor : ExecutionActorV1
  deriving DecidableEq

def recoveredMutationCursor (input : Mutation) : Section (Option CompositeCursorV1) := do
  let store ← stored
  match committedAppendResult store input.runId input.operationId with
  | none => return none
  | some (.append digest (some head)) => do
      ask (ensure (digest = some input.requestDigest) .operationIdReused)
      return some (cursorAt input.observationCursor head)
  | some _ => ask (.error .operationIdReused)

/-- A mutation that changes nothing is recorded under its operation id. -/
def commitNoop (view : ExecutionView) (input : Mutation)
    (expectation : AuthorityStateExpectationV1) : Section CompositeCursorV1 := do
  let store ← stored
  let next ← check (recordCommandResult store w.current view.cursor.runId input.operationId
    input.requestDigest (some (view.cursor, expectation))
    (.append (some input.requestDigest)
      (some ⟨view.cursor.runSequence, view.cursor.runEnvelopeHash⟩)))
  match next with
  | none => return view.cursor
  | some after => do
      commit after
      return view.cursor

def mutationCommand (input : Mutation) (expectation : AuthorityStateExpectationV1) :
    AppendCommand :=
  ⟨input.operationId, input.actor.principalId, some expectation, [], some input.requestDigest⟩

/-- What a client is told of an adopted plan. -/
structure AdoptionOutcome where
  outcomeId : JsString
  taskId : JsString
  taskIds : List JsString
  planDigest : JsString
  observationCursor : CompositeCursorV1
  deriving DecidableEq

def adopt (input : Mutation) (planDigest : JsString) : Section AdoptionOutcome := do
  let view ← viewed input.runId
  let observed ← ask (authorize w view.cursor.workspaceId input.actor input.runId input.taskId
    .taskAdoptPlan none)
  let recovered ← recoveredMutationCursor input
  let plan ← ask (required (view.state.plans.get planDigest) .planNotFound)
  ask (ensure (plan.sourceTaskId = input.taskId) .planNotFound)
  match recovered with
  | some cursor => do
      let taskIds ← ask (required (view.state.adopted.get planDigest) .executionInvalid)
      return ⟨input.operationId, input.taskId, taskIds, planDigest, cursor⟩
  | none => do
      check (assertCursor view input.observationCursor)
      match view.state.adopted.get planDigest with
      | some taskIds => do
          let cursor ← commitNoop w view input observed.expectation
          return ⟨input.operationId, input.taskId, taskIds, planDigest, cursor⟩
      | none => do
          ask (ensure (∀ item ∈ view.state.workflows.values, ¬ (item.state = .running ∧
            item.authorization.targetTaskId = input.taskId)) .workflowAlreadyRunning)
          let _ ← ask (w.checkPolicy view input.taskId plan.planDigest)
          let cursor ← append w view [execution view (.taskPlanAdoptedV1 input.taskId planDigest)]
            (mutationCommand input observed.expectation)
          let view ← viewed input.runId
          let taskIds ← ask (required (view.state.adopted.get planDigest) .executionInvalid)
          return ⟨input.operationId, input.taskId, taskIds, planDigest, cursor⟩

def boundedOutput (tasks : List TaskPlanItemV1) : Except DomainError Unit := do
  let text ← canonicalJson (object [("tasks", .arr (tasks.map TaskPlanItemV1.toJson))])
  ensure (byteLength text ≤ 65536) .planInvalid

/-- What a client is told of a revised plan. -/
structure RevisionOutcome where
  outcomeId : JsString
  taskId : JsString
  basePlanDigest : JsString
  planDigest : JsString
  observationCursor : CompositeCursorV1
  deriving DecidableEq

def revisePlan (input : Mutation) (basePlanDigest : JsString) (tasks : List TaskPlanItemV1) :
    Section RevisionOutcome := do
  let view ← viewed input.runId
  let observed ← ask (authorize w view.cursor.workspaceId input.actor input.runId input.taskId
    .taskRevisePlan none)
  let base ← ask (required (view.state.plans.get basePlanDigest) .planNotFound)
  ask (ensure (base.sourceTaskId = input.taskId) .planNotFound)
  ask (parseTaskPlanOutputV1 tasks)
  ask (boundedOutput tasks)
  let plan ← ask (sealTaskPlanV1 input.taskId base.sourceContractDigest tasks)
  let recovered ← recoveredMutationCursor input
  let result (cursor : CompositeCursorV1) : RevisionOutcome :=
    ⟨input.operationId, input.taskId, basePlanDigest, plan.planDigest, cursor⟩
  match recovered with
  | some cursor => return result cursor
  | none => do
      check (assertCursor view input.observationCursor)
      let _ ← ask (assertTaskPlanRevisionV1 view.state input.taskId basePlanDigest)
      let _ ← ask (w.checkPolicy view input.taskId plan.planDigest)
      if plan.planDigest = basePlanDigest then do
        let cursor ← commitNoop w view input observed.expectation
        return result cursor
      else do
        let cursor ← append w view [execution view (.taskPlanRevisedV1 basePlanDigest plan)]
          (mutationCommand input observed.expectation)
        return result cursor

end Plans

section Cancelling

def cancelAttempt (clock : EvaluationClockV1) (item : AttemptView) : Option TaskExecutionPayloadV1 :=
  match item.state.state with
  | .terminal _ | .cancelRequested | .cancelHandedOff => none
  | .planned => some (.taskExecutionAbortedV1 (referenceTo item.prepared) (js "OPERATOR_CANCELLED")
      clock)
  | .launchIntentCommitted | .providerHandleRecorded | .acknowledged | .reconciliationRequired
  | .unknownOutcome => some (.taskExecutionTransitionV1 (referenceTo item.prepared) .requestCancel)

def projectEvents (view : ExecutionView) (payloads : List TaskExecutionPayloadV1) :
    Except DomainError TaskExecutionProjectionV1 := do
  let after ← payloads.foldlM (fun (projected : TaskExecutionProjectionV1 × Nat) payload => do
    let next ← reduceTaskExecutionV1 projected.1
      ⟨view.cursor.workspaceId, view.cursor.runId, payload⟩ projected.2
    return (next, projected.2 + 1)) (view.state, view.cursor.runSequence + 1)
  return after.1

def projectedAttempts (projected : TaskExecutionProjectionV1) (taskId : JsString) :
    Except DomainError (List AttemptGenerationStateV1) :=
  (projected.prepared.entries.filter fun entry => entry.2.taskId = taskId).mapM fun entry =>
    required (projected.attempts.get entry.1) DomainError.executionInvalid

/-- What cancelling a task commits: the cursor that it answers, and the workflows whose sessions
are to be closed before it does. -/
def cancelTask (input : Mutation) : Section (CompositeCursorV1 × Option (List JsString)) := do
  let view ← viewed input.runId
  let observed ← ask (authorize w view.cursor.workspaceId input.actor input.runId input.taskId
    .taskCancel none)
  let recovered ← recoveredMutationCursor input
  match recovered with
  -- An operation that was made before closes no session.
  | some cursor => return (cursor, none)
  | none => do
      check (assertCursor view input.observationCursor)
      let _ ← ask (required (view.state.contracts.get input.taskId) .taskNotFound)
      let lifecycle ← ask (required (view.state.lifecycles.get input.taskId) .taskNotFound)
      if terminalLifecycle (some lifecycle) = true then do
        let cursor ← commitNoop w view input observed.expectation
        return (cursor, none)
      else do
        let workflows := (view.state.workflows.values.filter (runningWorkflow input.taskId)).map
          fun item => item.authorization.workflowId
        let clock : EvaluationClockV1 := ⟨w.clock, .composite view.cursor⟩
        let attempts ← ask (ServiceViews.taskAttempts view input.taskId)
        let payloads := workflows.map (fun workflowId =>
            TaskExecutionPayloadV1.taskWorkflowStoppedV1 workflowId .cancelled
              (js "OPERATOR_CANCELLED")) ++
          attempts.filterMap (cancelAttempt clock)
        let projected ← ask (projectEvents view payloads)
        let generations ← ask (projectedAttempts projected input.taskId)
        let retryPolicyDigest ← ask noRetryDigest
        let resolution ← ask (resolveTask {
          taskId := input.taskId
          generations := generations
          retryPolicyDigest := retryPolicyDigest
          retryPermitted := false
          cancellationRequested := true
          observationCursor := view.cursor })
        let all := payloads ++ (resolution.toList.map fun r => .taskResolvedV2 r clock)
        let cursor ← if all.isEmpty then commitNoop w view input observed.expectation
          else append w view (all.map (execution view)) (mutationCommand input observed.expectation)
        return (cursor, some workflows)

end Cancelling

end Horseness.ServiceRequests
