import Horseness.ServiceRuns
import Horseness.JoinEvaluations
import Horseness.LineFraming
import Horseness.JsonSizes

/-!
What the daemon answers when a run or one of its tasks is read: the replayed projection of the run
as it is, and the description of the task with its attempts, its plan and its output.
-/

namespace Horseness.RunResponses

open FallibleRuns Records ScriptText JsonValues ScriptEngine Canonical Cursors ForkContext Tasks
  AttemptReceipts TaskPlans ExecutionEvents Execution EventPayloads EventChains Replay
  ExecutionStore ServiceViews JoinEvaluations

section Texts

def TaskLifecycle.text : TaskLifecycle → JsString
  | .draft => js "draft"
  | .active => js "active"
  | .resolved resolution => resolution.text

def DispatchState.text : DispatchState → JsString
  | .planned => js "planned"
  | .launchIntentCommitted => js "launch_intent_committed"
  | .providerHandleRecorded => js "provider_handle_recorded"
  | .acknowledged => js "acknowledged"
  | .cancelRequested => js "cancel_requested"
  | .cancelHandedOff => js "cancel_handed_off"
  | .reconciliationRequired => js "reconciliation_required"
  | .unknownOutcome => js "unknown_outcome"
  | .terminal outcome => outcome.text

def FindingCode.text : FindingCode → JsString
  | .lateTerminalReceipt => js "LATE_TERMINAL_RECEIPT"
  | .conflictingLateTerminalReceipt => js "CONFLICTING_LATE_TERMINAL_RECEIPT"
  | .conflictingProviderHandle => js "CONFLICTING_PROVIDER_HANDLE"
  | .lateDispatchFact => js "LATE_DISPATCH_FACT"

def WorkflowState.text : WorkflowState → JsString
  | .running => js "running"
  | .ended state => WorkflowEnd.text state

def AdmissionTransitionStateV1.text : AdmissionTransitionStateV1 → JsString
  | .submitted => js "submitted"
  | .decided state => state.text

end Texts

section Projections

def recordJson {Value : Type} (write : Value → JsValue) (record : Record JsString Value) : JsValue :=
  .obj .object (record.entries.map fun entry => (entry.1, write entry.2))

def attemptJson (attempt : AttemptGenerationStateV1) : JsValue :=
  object [("attemptId", .str attempt.attemptId), ("generation", natural attempt.generation),
    ("state", .str (DispatchState.text attempt.state)), ("bindingDigest", .str attempt.bindingDigest),
    ("idempotencyKeyDigest", .str attempt.idempotencyKeyDigest),
    ("providerHandle", nullable .str attempt.providerHandle),
    ("terminalEventSequence", nullable natural attempt.terminalEventSequence),
    ("findingCodes", texts (attempt.findingCodes.map FindingCode.text))]

def abortJson (record : TaskExecutionAbortRecordV1) : JsValue :=
  object [("reasonCode", .str record.reasonCode), ("eventSequence", natural record.eventSequence)]

def workflowJson (workflow : WorkflowRecord) : JsValue :=
  object [("authorization", authorizationJson workflow.authorization),
    ("state", .str (WorkflowState.text workflow.state)),
    ("reasonCode", nullable .str workflow.reasonCode)]

def executionJson (state : TaskExecutionProjectionV1) : JsValue :=
  object [("contracts", recordJson TaskContractV2.toJson state.contracts),
    ("lifecycles", recordJson (fun lifecycle => .str (TaskLifecycle.text lifecycle)) state.lifecycles),
    ("edges", .arr (state.edges.map DependencyEdgeV1.toJson)),
    ("prepared", recordJson preparedJson state.prepared),
    ("attempts", recordJson attemptJson state.attempts),
    ("aborted", recordJson abortJson state.aborted),
    ("receipts", recordJson receiptJson state.receipts),
    ("resolutions", recordJson TaskResolutionV1.toJson state.resolutions),
    ("plans", recordJson TaskPlanV1.toJson state.plans),
    ("plansByPlanner", recordJson .str state.plansByPlanner),
    ("latestPlansByTask", recordJson .str state.latestPlansByTask),
    ("planRejectionsByPlanner", recordJson .str state.planRejectionsByPlanner),
    ("adopted", recordJson texts state.adopted),
    ("planRejections", recordJson .str state.planRejections),
    ("workflows", recordJson workflowJson state.workflows)]

def defined (name : String) : Option JsString → List (String × JsValue)
  | none => []
  | some text => [(name, .str text)]

def proposalJson (proposal : ProposalRecord) : JsValue :=
  object ([("status", .str (AdmissionTransitionStateV1.text proposal.status)),
    ("proposalDigest", .str proposal.proposalDigest)] ++
      defined "provenanceDigest" proposal.provenanceDigest ++
      defined "artifactDigest" proposal.artifactDigest)

def receiptRecordJson (receipt : ReceiptRecord) : JsValue :=
  object [("receiptDigest", .str receipt.receiptDigest), ("outcome", .str receipt.outcome.text)]

def taskViewJson (task : TaskView) : JsValue :=
  object [("title", .str task.title), ("completionPolicy", completionPolicy)]

def operationalJson (state : RunOperationalState) : JsValue :=
  object [("workspaceId", .str state.workspaceId), ("runId", .str state.runId),
    ("eventCount", natural state.eventCount), ("proposals", recordJson proposalJson state.proposals),
    ("receipts", recordJson receiptRecordJson state.receipts),
    ("tasks", recordJson taskViewJson state.tasks),
    ("taskStates", recordJson (fun resolution => .str resolution.text) state.taskStates),
    ("execution", executionJson state.execution), ("contextEpoch", natural state.contextEpoch),
    ("lastEventSequence", natural state.lastEventSequence)]

def canonicalDocumentJson (document : CanonicalDocument) : JsValue :=
  object [("workspaceId", .str document.workspaceId), ("runId", .str document.runId),
    ("revision", natural document.revision), ("document", document.document),
    ("stateHash", .str document.stateHash), ("hashAlgorithmVersion", .str (js "sha256-v1")),
    ("canonicalizerVersion", .str (js "jcs-v1")),
    ("acceptedProposalId", nullable .str document.acceptedProposalId),
    ("lastCanonicalEventSequence", natural document.lastCanonicalEventSequence)]

def replayJson (replay : ReplayResult) : JsValue :=
  object [("canonical", canonicalDocumentJson replay.canonical),
    ("operational", operationalJson replay.operational)]

end Projections

section Descriptions

variable [Engine] (w : Surroundings) (store : Store)

structure PlanRevision where
  basePlanDigest : JsString
  principalId : JsString
  eventSequence : Nat
  deriving DecidableEq

/-- What is told of a task. -/
structure TaskDescription where
  taskId : JsString
  title : JsString
  lifecycle : TaskLifecycle
  schedulability : Schedulability
  kind : TaskKind
  dependencies : List JsString
  attempts : List AttemptView
  output : Option JsString
  plan : Option (TaskPlanV1 × List JsString)
  planRevision : Option PlanRevision
  planRejection : Option JsString
  workflow : Option WorkflowRecord

/-- The task may be dispatched, as far as the authority and the workspace go. -/
def dispatchAllowed (view : ExecutionView) (taskId : JsString) (contract : TaskContractV2)
    (attempts : List AttemptView) (actor : ExecutionActorV1) : Bool :=
  endsIn (fun _ => true) (do
    let _ ← authorize w store.workspaceId actor view.cursor.runId taskId .taskDispatch none
    let digest ← taskContractDigestV2 contract
    let _ ← w.checkPolicy view taskId digest
    assertWorkspaceAvailable store (attempts.getLast?.map AttemptView.key))

def shownReceipt (view : ExecutionView) (taskId : JsString) (attempts : List AttemptView) :
    Option AttemptReceiptEnvelopeV1 :=
  let winner := (view.state.resolutions.get taskId).bind TaskResolutionV1.winningGeneration
  let won := winner.bind fun generation => attempts.findSome? fun item =>
    item.receipt.filter fun receipt => receipt.generation = generation
  won.or (attempts.getLast?.bind AttemptView.receipt)

def outputText (receipt : Option AttemptReceiptEnvelopeV1) : Except Failure (Option JsString) :=
  match receipt.bind fun item => item.outputDigest with
  | some digest => if digest = [] then pure none else do
      let text ← w.output digest
      return some text
  | none => pure none

def previewBase (taskId : JsString) (item : HashedEventEnvelopeV1) : Option (Option JsString) :=
  match item.envelope.payload with
  | .run (.taskExecution ⟨_, _, .taskPlanProposedV1 _ plan⟩) =>
      if plan.sourceTaskId = taskId then some none else none
  | .run (.taskExecution ⟨_, _, .taskPlanRevisedV1 basePlanDigest plan⟩) =>
      if plan.sourceTaskId = taskId then some (some basePlanDigest) else none
  | _ => none

def planRevision (view : ExecutionView) (taskId : JsString) : Option PlanRevision :=
  (view.stream.events.reverse.find? fun item => (previewBase taskId item).isSome).bind fun item =>
    (previewBase taskId item).join.map fun basePlanDigest =>
      ⟨basePlanDigest, item.envelope.principalId, item.envelope.sequence⟩

/-- The last workflow for the task, or else the last that it is the planning source of. -/
def shownWorkflow (view : ExecutionView) (taskId : JsString) : Option WorkflowRecord :=
  let workflows := view.state.workflows.values.reverse
  (workflows.find? fun item => item.authorization.targetTaskId = taskId).or
    (workflows.find? fun item =>
      item.authorization.planningSource.map PlanningSource.taskId = some taskId)

def taskDescription (view : ExecutionView) (taskId : JsString) (actor : ExecutionActorV1)
    (details : Bool) : Except Failure TaskDescription := do
  let contract ← required (view.state.contracts.get taskId) (.domain .taskNotFound)
  let lifecycle ← required (view.state.lifecycles.get taskId) (.domain .taskNotFound)
  let attempts ← (taskAttempts view taskId).mapError .domain
  let found ← (dependencies view taskId).mapError .domain
  let allowed := dispatchAllowed w store view taskId contract attempts actor
  let output ← if details then outputText w (shownReceipt view taskId attempts) else pure none
  let latest := (view.state.latestPlansByTask.get taskId).filter (· ≠ [])
  let plan := if details then latest.bind view.state.plans.get else none
  return {
    taskId := taskId
    title := contract.title
    lifecycle := lifecycle
    schedulability := deriveSchedulability {
      lifecycle := lifecycle
      contractValid := true
      dependenciesSatisfied := found.satisfied
      hasUnknownDependency := found.unknown
      cancellationPropagated := found.cancelled
      authorizationAllowed := allowed
      quotaAllowed := allowed
      liveAttempt := attempts.any fun item =>
        !isTerminal item.state.state && item.state.state != .unknownOutcome
      unknownOutcome := attempts.any fun item => item.state.state == .unknownOutcome }
    kind := contract.kind
    dependencies := ((view.state.edges.filter fun edge => edge.dependentTaskId = taskId).map
      DependencyEdgeV1.sourceTaskId).insertionSort (· ≤ ·)
    attempts := attempts
    output := output
    plan := plan.map fun item => (item, (view.state.adopted.get item.planDigest).getD [])
    planRevision := if plan.isSome then planRevision view taskId else none
    planRejection := view.state.planRejections.get taskId
    workflow := shownWorkflow view taskId }

end Descriptions

section Responses

/-- The id that a request gave, and its response repeats. -/
inductive JsonRpcId where
  | text (id : JsString)
  | number (id : JsNumber)
  | null

def JsonRpcId.toJson : JsonRpcId → JsValue
  | .text id => .str id
  | .number id => .num id
  | .null => .null

def successResponse (id : JsonRpcId) (method : String) (value resultCursor : JsValue) : JsValue :=
  object [("jsonrpc", .str (js "2.0")), ("id", id.toJson), ("result",
    object [("schemaVersion", .str (js "1")), ("method", .str (js method)),
      ("resultCursor", resultCursor), ("data",
        object [("schemaVersion", .str (js "1")), ("resultType", .str (js method)),
          ("value", value)])])]

def attemptDescription (item : AttemptView) : JsValue :=
  object [("attemptId", .str item.prepared.attemptId),
    ("generation", natural item.prepared.generation),
    ("adapterId", .str item.prepared.profile.adapterId.text),
    ("model", .str item.prepared.profile.modelId),
    ("effort", nullable (fun effort => .str (TaskEffortV1.text effort)) item.prepared.profile.effort),
    ("state", .str (DispatchState.text item.state.state)),
    ("providerOperationId", nullable .str
      ((item.receipt.map fun receipt => receipt.providerOperationId).or item.state.providerHandle)),
    ("receiptDigest", nullable .str (item.receipt.map fun receipt => receipt.receiptDigest)),
    ("outputDigest", nullable .str (item.receipt.bind fun receipt => receipt.outputDigest)),
    ("failureCode", nullable (fun code => .str (FindingCode.text code))
      item.state.findingCodes.getLast?)]

def planDescription (plan : TaskPlanV1 × List JsString) : JsValue :=
  object [("schemaVersion", .str (js "1")), ("sourceTaskId", .str plan.1.sourceTaskId),
    ("sourceContractDigest", .str plan.1.sourceContractDigest),
    ("tasks", .arr (plan.1.tasks.map TaskPlanItemV1.toJson)),
    ("planDigest", .str plan.1.planDigest), ("adoptedTaskIds", texts plan.2)]

def PlanRevision.toJson (revision : PlanRevision) : JsValue :=
  object [("basePlanDigest", .str revision.basePlanDigest),
    ("principalId", .str revision.principalId), ("eventSequence", natural revision.eventSequence)]

def workflowDescription (workflow : WorkflowRecord) : JsValue :=
  object [("workflowId", .str workflow.authorization.workflowId),
    ("state", .str (WorkflowState.text workflow.state)),
    ("reasonCode", nullable .str workflow.reasonCode)]

def TaskDescription.toJson (task : TaskDescription) : JsValue :=
  object [("taskId", .str task.taskId), ("title", .str task.title),
    ("lifecycle", .str (TaskLifecycle.text task.lifecycle)),
    ("schedulability", .str task.schedulability.text), ("kind", .str task.kind.text),
    ("dependencies", texts task.dependencies),
    ("attempts", .arr (task.attempts.map attemptDescription)), ("output", nullable .str task.output),
    ("plan", nullable planDescription task.plan),
    ("planRevision", nullable PlanRevision.toJson task.planRevision),
    ("planRejection", nullable .str task.planRejection),
    ("workflow", nullable workflowDescription task.workflow)]

/-- Who asks, under which ids. -/
structure Query where
  id : JsonRpcId
  operationId : JsString
  actor : ExecutionActorV1

variable [Engine]

def runGet (store : Store) (query : Query) (runId : JsString) : Except DomainError JsValue := do
  let view ← viewOf store runId
  return successResponse query.id "run.get.v1"
    (object [("schemaVersion", .str (js "1")), ("resultType", .str (js "RunQueryResultV1")),
      ("observationCursor", view.cursor.toJson), ("state", replayJson view.stream.replay)])
    view.cursor.toJson

def taskGet (w : Surroundings) (store : Store) (query : Query) (runId taskId : JsString) :
    Except Failure JsValue := do
  let view ← (viewOf store runId).mapError .domain
  let task ← taskDescription w store view taskId query.actor true
  return successResponse query.id "task.get.v1"
    (object [("outcomeId", .str query.operationId), ("status", .str (js "completed")),
      ("task", task.toJson), ("observationCursor", view.cursor.toJson)]) .null

def runCreateRequest (id : JsonRpcId) (cursor : AbsentRunGenesisCursorV1) (initialDocument : JsValue)
    (principalId commandId : JsString) : JsValue :=
  object [("jsonrpc", .str (js "2.0")), ("id", id.toJson), ("method", .str (js "run.create.v1")),
    ("params", object [("protocolVersion", .str (js "1")), ("observationCursor", cursor.toJson),
      ("idempotencyKey", .str commandId),
      ("body", object [("schemaVersion", .str (js "1")), ("workspaceId", .str cursor.workspaceId),
        ("runId", .str cursor.runId),
        ("input", object [("schemaVersion", .str (js "1")), ("requestType", .str (js "run.create.v1")),
          ("value", object [("schemaVersion", .str (js "1")), ("commandType", .str (js "CreateRunV1")),
            ("commandId", .str commandId), ("observationCursor", cursor.toJson),
            ("principalId", .str principalId), ("initialDocument", initialDocument)])])])])]

end Responses

end Horseness.RunResponses
