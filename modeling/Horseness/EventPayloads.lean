import Horseness.ExecutionEvents

/-!
The payloads of workspace and run events, the JSON that their hashes are taken of, and
what parsing one checks. Literal fields are fixed by the types and appear in the JSON.
-/

namespace Horseness.EventPayloads

open ScriptText JsonValues ScriptEngine Canonical Cursors ForkContext Tasks AttemptReceipts
  TaskPlans ExecutionEvents

inductive AdmissionDecisionStateV1 where
  | accepted
  | rejected
  | conflicted
  | quarantined
  | approvalRequired
  deriving DecidableEq

def AdmissionDecisionStateV1.text : AdmissionDecisionStateV1 → JsString
  | .accepted => js "accepted"
  | .rejected => js "rejected"
  | .conflicted => js "conflicted"
  | .quarantined => js "quarantined"
  | .approvalRequired => js "approval_required"

inductive AdmissionTransitionV1 where
  | evaluate
  | approve
  | reject
  | release
  | rebase
  deriving DecidableEq

def AdmissionTransitionV1.text : AdmissionTransitionV1 → JsString
  | .evaluate => js "evaluate"
  | .approve => js "approve"
  | .reject => js "reject"
  | .release => js "release"
  | .rebase => js "rebase"

inductive Consumption where
  | yes
  | no
  deriving DecidableEq

def Consumption.text : Consumption → JsString
  | .yes => js "yes"
  | .no => js "no"

inductive WorkspaceEventPayloadV1 where
  | workspaceCreatedV1 (workspaceId authorityPrincipalId initialGrantDigest
      authorityConsumptionMarker activePolicyDigest : JsString)
  | policyReferenceChangedV1 (workspaceId activePolicyDigest : JsString)
  | workspaceAdmissionRecordedV1 (workspaceId proposalDigest decisionEventId : JsString)
      (state : AdmissionDecisionStateV1) (quotaId quotaDigest : JsString) (consumed : Consumption)

inductive RunEventPayloadV1 where
  | runCreatedV1 (workspaceId runId : JsString) (initialDocument : JsValue)
  | taskCreatedV1 (workspaceId runId taskId title : JsString)
  | proposalSubmittedV1 (workspaceId runId proposalId proposalDigest : JsString)
  | admissionDecisionRecordedV1 (workspaceId runId proposalId proposalDigest : JsString)
      (transition : AdmissionTransitionV1) (state : AdmissionDecisionStateV1)
      (provenanceDigest artifactDigest : JsString) (observationCursor : CompositeCursorV1)
  | attemptReceiptRecordedV1 (workspaceId runId receiptId receiptDigest : JsString)
      (outcome : AttemptTerminalState)
  | deltaAcceptedV1 (workspaceId runId proposalId proposalDigest priorStateHash
      resultingStateHash : JsString) (resultingDocument : JsValue)
  | taskResolvedV1 (workspaceId runId taskId : JsString) (resolution : TaskResolution)
      (evaluationClock : EvaluationClockV1)
  | forkCreatedV1 (workspaceId runId forkPinDigest : JsString)
  | contextManifestPublishedV1 (workspaceId runId contextManifestCoreDigest : JsString)
  | taskExecution (event : TaskExecutionEventV1)

inductive DomainEventPayloadV1 where
  | workspace (payload : WorkspaceEventPayloadV1)
  | run (payload : RunEventPayloadV1)

section Names

def TaskExecutionPayloadV1.eventType : TaskExecutionPayloadV1 → JsString
  | .taskCreatedV2 _ => js "TaskCreatedV2"
  | .taskActivatedV1 _ => js "TaskActivatedV1"
  | .dependencyAddedV1 _ => js "DependencyAddedV1"
  | .taskExecutionPreparedV1 _ => js "TaskExecutionPreparedV1"
  | .taskExecutionTransitionV1 _ _ => js "TaskExecutionTransitionV1"
  | .taskExecutionReceiptV1 _ _ => js "TaskExecutionReceiptV1"
  | .taskExecutionAbortedV1 _ _ _ => js "TaskExecutionAbortedV1"
  | .taskResolvedV2 _ _ => js "TaskResolvedV2"
  | .taskPlanProposedV1 _ _ => js "TaskPlanProposedV1"
  | .taskPlanRevisedV1 _ _ => js "TaskPlanRevisedV1"
  | .taskPlanRejectedV1 _ _ _ => js "TaskPlanRejectedV1"
  | .taskPlanAdoptedV1 _ _ => js "TaskPlanAdoptedV1"
  | .taskWorkflowStartedV1 _ => js "TaskWorkflowStartedV1"
  | .taskWorkflowPlanBoundV1 _ _ _ => js "TaskWorkflowPlanBoundV1"
  | .taskWorkflowStoppedV1 _ _ _ => js "TaskWorkflowStoppedV1"

def WorkspaceEventPayloadV1.eventType : WorkspaceEventPayloadV1 → JsString
  | .workspaceCreatedV1 .. => js "WorkspaceCreatedV1"
  | .policyReferenceChangedV1 .. => js "PolicyReferenceChangedV1"
  | .workspaceAdmissionRecordedV1 .. => js "WorkspaceAdmissionRecordedV1"

def RunEventPayloadV1.eventType : RunEventPayloadV1 → JsString
  | .runCreatedV1 .. => js "RunCreatedV1"
  | .taskCreatedV1 .. => js "TaskCreatedV1"
  | .proposalSubmittedV1 .. => js "ProposalSubmittedV1"
  | .admissionDecisionRecordedV1 .. => js "AdmissionDecisionRecordedV1"
  | .attemptReceiptRecordedV1 .. => js "AttemptReceiptRecordedV1"
  | .deltaAcceptedV1 .. => js "DeltaAcceptedV1"
  | .taskResolvedV1 .. => js "TaskResolvedV1"
  | .forkCreatedV1 .. => js "ForkCreatedV1"
  | .contextManifestPublishedV1 .. => js "ContextManifestPublishedV1"
  | .taskExecution event => TaskExecutionPayloadV1.eventType event.payload

def DomainEventPayloadV1.eventType : DomainEventPayloadV1 → JsString
  | .workspace payload => payload.eventType
  | .run payload => payload.eventType

end Names

section Json

def leaseJson (lease : TaskExecutionLeaseV1) : JsValue :=
  object [("ownerId", .str lease.ownerId), ("bootId", .str lease.bootId),
    ("processId", .str lease.processId), ("issuedAt", .str lease.issuedAt),
    ("expiresAt", .str lease.expiresAt), ("durationMs", natural lease.durationMs),
    ("fenceToken", natural lease.fenceToken),
    ("observationCursor", lease.observationCursor.toJson)]

def forkPinJson (pin : SealedForkPinV1) : JsValue :=
  object [("core", pin.core.toJson), ("forkPinDigest", .str pin.forkPinDigest),
    ("forkPinId", .str pin.forkPinId)]

def preparedJson (prepared : TaskExecutionPreparedDataV1) : JsValue :=
  object [("workflowId", nullable .str prepared.workflowId), ("taskId", .str prepared.taskId),
    ("attemptId", .str prepared.attemptId), ("generation", natural prepared.generation),
    ("profile", prepared.profile.toJson), ("profileDigest", .str prepared.profileDigest),
    ("forkPin", forkPinJson prepared.forkPin), ("join", prepared.join.toJson),
    ("manifest", prepared.manifest.toJson), ("binding", prepared.binding.toJson),
    ("renderedContext", .str prepared.renderedContext),
    ("evaluationClock", prepared.evaluationClock.toJson), ("lease", leaseJson prepared.lease)]

def receiptJson (receipt : AttemptReceiptEnvelopeV1) : JsValue :=
  match receipt.toAttemptReceiptCoreV1.toJson with
  | .obj proto fields => .obj proto (fields ++
      [(js "receiptId", .str receipt.receiptId), (js "receiptDigest", .str receipt.receiptDigest)])
  | other => other

def dispatchInputJson : DispatchInputV1 → JsValue
  | .commitLaunchIntent => object [("type", .str (js "commit-launch-intent"))]
  | .recordHandle handle => object [("type", .str (js "record-handle")), ("handle", .str handle)]
  | .acknowledge => object [("type", .str (js "acknowledge"))]
  | .requestCancel => object [("type", .str (js "request-cancel"))]
  | .cancelHandedOff => object [("type", .str (js "cancel-handed-off"))]
  | .requireReconciliation => object [("type", .str (js "require-reconciliation"))]
  | .reconcileFound handle =>
      object [("type", .str (js "reconcile-found")), ("handle", .str handle)]
  | .reconcileNotFoundIdempotent =>
      object [("type", .str (js "reconcile-not-found-idempotent"))]
  | .reconcileAmbiguous => object [("type", .str (js "reconcile-ambiguous"))]
  | .terminalReceipt outcome eventSequence handle =>
      object ([("type", .str (js "terminal-receipt")), ("outcome", .str outcome.text),
        ("eventSequence", natural eventSequence)] ++
        (match handle with
          | none => []
          | some handle => [("handle", .str handle)]))
  | .manualResolution outcome eventSequence =>
      object [("type", .str (js "manual-resolution")), ("outcome", .str outcome.text),
        ("eventSequence", natural eventSequence)]

def OperationKind.text : OperationKind → JsString
  | .dispatch => js "dispatch"
  | .breakdown => js "breakdown"
  | .execute => js "execute"

def WorkflowEnd.text : WorkflowEnd → JsString
  | .succeeded => js "succeeded"
  | .stopped => js "stopped"
  | .cancelled => js "cancelled"
  | .revoked => js "revoked"

def planningSourceJson (source : PlanningSource) : JsValue :=
  object [("taskId", .str source.taskId), ("contractDigest", .str source.contractDigest)]

def authorizationJson (a : TaskWorkflowAuthorizationV1) : JsValue :=
  object [("schemaVersion", .str (js "1")), ("workflowId", .str a.workflowId),
    ("operationKind", .str (OperationKind.text a.operationKind)),
    ("requestDigest", .str a.requestDigest),
    ("planningSource", nullable planningSourceJson a.planningSource),
    ("parentWorkflowId", nullable .str a.parentWorkflowId), ("workspaceId", .str a.workspaceId),
    ("runId", .str a.runId), ("targetTaskId", .str a.targetTaskId),
    ("targetContractDigest", .str a.targetContractDigest),
    ("issuerPrincipalId", .str a.issuerPrincipalId),
    ("issuerGrantDigest", .str a.issuerGrantDigest), ("expiresAt", .str a.expiresAt),
    ("executionProfile", a.executionProfile.toJson),
    ("plannerProfile", nullable TaskExecutionProfileV1.toJson a.plannerProfile),
    ("autoPlan", .bool a.autoPlan), ("graphDigest", nullable .str a.graphDigest),
    ("planDigest", nullable .str a.planDigest)]

def attemptFields (attempt : AttemptReference) : List (String × JsValue) :=
  [("taskId", .str attempt.taskId), ("attemptId", .str attempt.attemptId),
    ("generation", natural attempt.generation), ("profileDigest", .str attempt.profileDigest)]

def executionFields : TaskExecutionPayloadV1 → List (String × JsValue)
  | .taskCreatedV2 contract => [("contract", contract.toJson)]
  | .taskActivatedV1 taskId => [("taskId", .str taskId)]
  | .dependencyAddedV1 edge => [("edge", edge.toJson)]
  | .taskExecutionPreparedV1 prepared => [("prepared", preparedJson prepared)]
  | .taskExecutionTransitionV1 attempt input =>
      attemptFields attempt ++ [("input", dispatchInputJson input)]
  | .taskExecutionReceiptV1 attempt receipt =>
      attemptFields attempt ++ [("receipt", receiptJson receipt)]
  | .taskExecutionAbortedV1 attempt reasonCode evaluationClock =>
      attemptFields attempt ++
        [("reasonCode", .str reasonCode), ("evaluationClock", evaluationClock.toJson)]
  | .taskResolvedV2 resolution evaluationClock =>
      [("resolution", resolution.toJson), ("evaluationClock", evaluationClock.toJson)]
  | .taskPlanProposedV1 plannerTaskId plan =>
      [("plannerTaskId", .str plannerTaskId), ("plan", plan.toJson)]
  | .taskPlanRevisedV1 basePlanDigest plan =>
      [("basePlanDigest", .str basePlanDigest), ("plan", plan.toJson)]
  | .taskPlanRejectedV1 taskId plannerTaskId reasonCode =>
      [("taskId", .str taskId), ("plannerTaskId", .str plannerTaskId),
        ("reasonCode", .str reasonCode)]
  | .taskPlanAdoptedV1 taskId planDigest =>
      [("taskId", .str taskId), ("planDigest", .str planDigest)]
  | .taskWorkflowStartedV1 authorization => [("authorization", authorizationJson authorization)]
  | .taskWorkflowPlanBoundV1 workflowId planDigest graphDigest =>
      [("workflowId", .str workflowId), ("planDigest", .str planDigest),
        ("graphDigest", .str graphDigest)]
  | .taskWorkflowStoppedV1 workflowId state reasonCode =>
      [("workflowId", .str workflowId), ("state", .str (WorkflowEnd.text state)),
        ("reasonCode", .str reasonCode)]

def workspaceFields : WorkspaceEventPayloadV1 → List (String × JsValue)
  | .workspaceCreatedV1 workspaceId authorityPrincipalId initialGrantDigest
      authorityConsumptionMarker activePolicyDigest =>
      [("workspaceId", .str workspaceId), ("authorityPrincipalId", .str authorityPrincipalId),
        ("initialGrantDigest", .str initialGrantDigest),
        ("authorityConsumptionMarker", .str authorityConsumptionMarker),
        ("activePolicyDigest", .str activePolicyDigest)]
  | .policyReferenceChangedV1 workspaceId activePolicyDigest =>
      [("workspaceId", .str workspaceId), ("activePolicyDigest", .str activePolicyDigest)]
  | .workspaceAdmissionRecordedV1 workspaceId proposalDigest decisionEventId state quotaId
      quotaDigest consumed =>
      [("workspaceId", .str workspaceId), ("proposalDigest", .str proposalDigest),
        ("decisionEventId", .str decisionEventId), ("state", .str state.text),
        ("quotaId", .str quotaId), ("quotaDigest", .str quotaDigest),
        ("consumed", .str consumed.text)]

def runFields : RunEventPayloadV1 → List (String × JsValue)
  | .runCreatedV1 workspaceId runId initialDocument =>
      [("workspaceId", .str workspaceId), ("runId", .str runId),
        ("initialDocument", initialDocument), ("canonicalizerVersion", .str (js "jcs-v1")),
        ("hashVersion", .str (js "sha256-v1"))]
  | .taskCreatedV1 workspaceId runId taskId title =>
      [("workspaceId", .str workspaceId), ("runId", .str runId), ("taskId", .str taskId),
        ("title", .str title), ("completionPolicy", completionPolicy)]
  | .proposalSubmittedV1 workspaceId runId proposalId proposalDigest =>
      [("workspaceId", .str workspaceId), ("runId", .str runId), ("proposalId", .str proposalId),
        ("proposalDigest", .str proposalDigest)]
  | .admissionDecisionRecordedV1 workspaceId runId proposalId proposalDigest transition state
      provenanceDigest artifactDigest observationCursor =>
      [("workspaceId", .str workspaceId), ("runId", .str runId), ("proposalId", .str proposalId),
        ("proposalDigest", .str proposalDigest), ("transition", .str transition.text),
        ("state", .str state.text), ("provenanceDigest", .str provenanceDigest),
        ("artifactDigest", .str artifactDigest), ("observationCursor", observationCursor.toJson)]
  | .attemptReceiptRecordedV1 workspaceId runId receiptId receiptDigest outcome =>
      [("workspaceId", .str workspaceId), ("runId", .str runId), ("receiptId", .str receiptId),
        ("receiptDigest", .str receiptDigest), ("outcome", .str outcome.text)]
  | .deltaAcceptedV1 workspaceId runId proposalId proposalDigest priorStateHash
      resultingStateHash resultingDocument =>
      [("workspaceId", .str workspaceId), ("runId", .str runId), ("proposalId", .str proposalId),
        ("proposalDigest", .str proposalDigest), ("priorStateHash", .str priorStateHash),
        ("resultingStateHash", .str resultingStateHash), ("resultingDocument", resultingDocument)]
  | .taskResolvedV1 workspaceId runId taskId resolution evaluationClock =>
      [("workspaceId", .str workspaceId), ("runId", .str runId), ("taskId", .str taskId),
        ("resolution", .str resolution.text), ("evaluationClock", evaluationClock.toJson)]
  | .forkCreatedV1 workspaceId runId forkPinDigest =>
      [("workspaceId", .str workspaceId), ("runId", .str runId),
        ("forkPinDigest", .str forkPinDigest)]
  | .contextManifestPublishedV1 workspaceId runId contextManifestCoreDigest =>
      [("workspaceId", .str workspaceId), ("runId", .str runId),
        ("contextManifestCoreDigest", .str contextManifestCoreDigest)]
  | .taskExecution event =>
      [("workspaceId", .str event.workspaceId), ("runId", .str event.runId)] ++
        executionFields event.payload

def DomainEventPayloadV1.toJson (payload : DomainEventPayloadV1) : JsValue :=
  object (("eventType", .str payload.eventType) ::
    match payload with
    | .workspace event => workspaceFields event
    | .run event => runFields event)

end Json

section Parsing

variable [Engine]

def payloadText (value : JsString) : Except DomainError Unit := nonEmpty value .eventPayloadInvalid

/-- `json(value, code)`: any refusal becomes this one. -/
def payloadJson (value : JsValue) : Except DomainError Unit :=
  (assertJson value).mapError (fun _ => .eventPayloadInvalid)

def parseWorkspaceEventPayloadV1 : WorkspaceEventPayloadV1 → Except DomainError Unit
  | .workspaceCreatedV1 workspaceId authorityPrincipalId initialGrantDigest
      authorityConsumptionMarker activePolicyDigest =>
      [workspaceId, authorityPrincipalId, initialGrantDigest, authorityConsumptionMarker,
        activePolicyDigest].forM payloadText
  | .policyReferenceChangedV1 workspaceId activePolicyDigest =>
      [workspaceId, activePolicyDigest].forM payloadText
  | .workspaceAdmissionRecordedV1 workspaceId proposalDigest decisionEventId _ quotaId
      quotaDigest _ =>
      [workspaceId, proposalDigest, decisionEventId, quotaId, quotaDigest].forM payloadText

def parseRunEventPayloadV1 : RunEventPayloadV1 → Except DomainError Unit
  | .runCreatedV1 workspaceId runId initialDocument => do
      [workspaceId, runId].forM payloadText
      payloadJson initialDocument
  | .taskCreatedV1 workspaceId runId taskId title =>
      [workspaceId, runId, taskId, title].forM payloadText
  | .proposalSubmittedV1 workspaceId runId proposalId proposalDigest =>
      [workspaceId, runId, proposalId, proposalDigest].forM payloadText
  | .admissionDecisionRecordedV1 workspaceId runId proposalId proposalDigest _ _
      provenanceDigest artifactDigest observationCursor => do
      [workspaceId, runId, proposalId, proposalDigest, provenanceDigest, artifactDigest].forM
        payloadText
      parseObservationCursorV1 (.composite observationCursor)
  | .attemptReceiptRecordedV1 workspaceId runId receiptId receiptDigest _ =>
      [workspaceId, runId, receiptId, receiptDigest].forM payloadText
  | .deltaAcceptedV1 workspaceId runId proposalId proposalDigest priorStateHash
      resultingStateHash resultingDocument => do
      [workspaceId, runId, proposalId, proposalDigest, priorStateHash, resultingStateHash].forM
        payloadText
      payloadJson resultingDocument
  | .taskResolvedV1 workspaceId runId taskId _ evaluationClock => do
      [workspaceId, runId, taskId].forM payloadText
      payloadText evaluationClock.authorityTime
      parseObservationCursorV1 evaluationClock.observationCursor
  | .forkCreatedV1 workspaceId runId forkPinDigest =>
      [workspaceId, runId, forkPinDigest].forM payloadText
  | .contextManifestPublishedV1 workspaceId runId contextManifestCoreDigest =>
      [workspaceId, runId, contextManifestCoreDigest].forM payloadText
  | .taskExecution event => parseTaskExecutionEventV1 event

def parseDomainEventPayloadV1 : DomainEventPayloadV1 → Except DomainError Unit
  | .workspace payload => parseWorkspaceEventPayloadV1 payload
  | .run payload => parseRunEventPayloadV1 payload

end Parsing

end Horseness.EventPayloads
