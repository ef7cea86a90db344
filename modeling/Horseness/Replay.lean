import Horseness.Execution
import Horseness.EventChains

/-!
The states that event chains are replayed into: the canonical document, the operational
state of a run, and the state of a workspace. Each reducer refuses an event or gives the
next state; a replay verifies the chain first and folds its events.
-/

namespace Horseness.Replay

open FallibleRuns Records ScriptText JsonValues PlainObjects ScriptEngine Canonical Cursors Tasks
  TaskPlans ExecutionEvents Execution EventPayloads EventChains

section CanonicalDocuments

/-- The algorithm versions are fixed by the type. -/
structure CanonicalDocument where
  workspaceId : JsString
  runId : JsString
  revision : Nat
  document : JsValue
  stateHash : JsString
  acceptedProposalId : Option JsString
  lastCanonicalEventSequence : Nat

inductive CanonicalEvent where
  | runCreatedV1 (sequence : Nat) (workspaceId : Option JsString) (runId : JsString)
      (initialDocument : JsValue)
  | deltaAcceptedV1 (sequence : Nat) (workspaceId runId : Option JsString) (proposalId : JsString)
      (resultingDocument : JsValue) (priorStateHash resultingStateHash : JsString)

variable [Engine]

def documentDigest (document : JsValue) : Except DomainError JsString :=
  domainDigest (js "horseness.canonical-document.v1") document

def reduceCanonicalDocument (state : Option CanonicalDocument) :
    CanonicalEvent → Except DomainError CanonicalDocument
  | .runCreatedV1 sequence workspaceId runId initialDocument => do
      ensure (state.isNone = true ∧ sequence = 1) .invalidGenesis
      let document ← deepClone initialDocument
      let stateHash ← documentDigest document
      return ⟨workspaceId.getD [], runId, 0, document, stateHash, none, 1⟩
  | .deltaAcceptedV1 sequence workspaceId runId proposalId resultingDocument priorStateHash
      resultingStateHash => do
      let current ← required state .eventSequenceInvalid
      ensure (current.lastCanonicalEventSequence < sequence) .eventSequenceInvalid
      ensure ((∀ id ∈ workspaceId, id = current.workspaceId) ∧ ∀ id ∈ runId, id = current.runId)
        .aggregateIdentityMismatch
      ensure (priorStateHash = current.stateHash) .staleBase
      let digest ← documentDigest resultingDocument
      ensure (resultingStateHash = digest) .staleBase
      let document ← deepClone resultingDocument
      return { current with
        revision := current.revision + 1
        document := document
        stateHash := resultingStateHash
        acceptedProposalId := some proposalId
        lastCanonicalEventSequence := sequence }

end CanonicalDocuments

section Admissions

inductive AdmissionTransitionStateV1 where
  | submitted
  | decided (state : AdmissionDecisionStateV1)
  deriving DecidableEq

def admissionTransitions : AdmissionTransitionStateV1 → List AdmissionDecisionStateV1
  | .submitted => [.accepted, .rejected, .conflicted, .quarantined, .approvalRequired]
  | .decided .quarantined => [.quarantined, .approvalRequired, .accepted, .rejected]
  | .decided .approvalRequired => [.accepted, .rejected]
  | .decided .accepted | .decided .rejected | .decided .conflicted => []

def validateAdmissionTransition (before : AdmissionTransitionStateV1)
    (after : AdmissionDecisionStateV1) : Except DomainError Unit :=
  ensure (after ∈ admissionTransitions before) .illegalAdmissionTransition

end Admissions

section Workspaces

structure WorkspaceAdmissionDecisionV1 where
  decisionEventId : JsString
  state : AdmissionDecisionStateV1
  consumed : Consumption
  deriving DecidableEq

structure WorkspaceAdmissionProjectionV1 where
  proposalDigest : JsString
  decisionEventId : JsString
  state : AdmissionDecisionStateV1
  quotaId : JsString
  quotaDigest : JsString
  consumed : Consumption
  history : List WorkspaceAdmissionDecisionV1
  deriving DecidableEq

structure WorkspaceQuotaProjectionV1 where
  quotaDigest : JsString
  consumedDecisionEventIds : List JsString
  observedDecisionEventIds : List JsString
  deriving DecidableEq

structure WorkspaceState where
  workspaceId : JsString
  authorityPrincipalId : JsString
  initialGrantDigest : JsString
  authorityConsumptionMarker : JsString
  activePolicyDigest : JsString
  admissions : Record JsString WorkspaceAdmissionProjectionV1
  quotas : Record JsString WorkspaceQuotaProjectionV1
  contextEpoch : Nat
  lastEventSequence : Nat

/-- A decision on a proposal, as the workspace records it. -/
structure AdmissionRecord where
  proposalDigest : JsString
  decisionEventId : JsString
  state : AdmissionDecisionStateV1
  quotaId : JsString
  quotaDigest : JsString
  consumed : Consumption

inductive WorkspaceOperationalPayload where
  | workspaceCreatedV1 (authorityPrincipalId initialGrantDigest authorityConsumptionMarker
      activePolicyDigest : JsString)
  | policyReferenceChangedV1 (activePolicyDigest : JsString)
  | workspaceAdmissionRecordedV1 (admission : AdmissionRecord)

structure WorkspaceOperationalEvent where
  sequence : Nat
  workspaceId : JsString
  payload : WorkspaceOperationalPayload

def continueWorkspace (state : Option WorkspaceState) (event : WorkspaceOperationalEvent) :
    Except DomainError WorkspaceState := do
  let current ← required state .invalidGenesis
  ensure (event.workspaceId = current.workspaceId) .aggregateIdentityMismatch
  ensure (event.sequence = current.lastEventSequence + 1) .eventSequenceInvalid
  return current

/-- The state a decision is made from. An inherited name has no quota of its own. -/
def priorDecision (admissions : Record JsString WorkspaceAdmissionProjectionV1)
    (admission : AdmissionRecord) : Except DomainError AdmissionTransitionStateV1 :=
  match memberOf admissions admission.proposalDigest with
  | none => .ok .submitted
  | some prior => do
      let found ← required prior .admissionIdentityConflict
      ensure (found.quotaId = admission.quotaId ∧ found.quotaDigest = admission.quotaDigest)
        .admissionIdentityConflict
      return .decided found.state

def quotaUnchanged (quotas : Record JsString WorkspaceQuotaProjectionV1)
    (admission : AdmissionRecord) : Except DomainError Unit :=
  match memberOf quotas admission.quotaId with
  | none => .ok ()
  | some quota => do
      let found ← required quota .quotaIdentityConflict
      ensure (found.quotaDigest = admission.quotaDigest) .quotaIdentityConflict

def AdmissionRecord.decision (admission : AdmissionRecord) : WorkspaceAdmissionDecisionV1 :=
  ⟨admission.decisionEventId, admission.state, admission.consumed⟩

def recordDecision (admissions : Record JsString WorkspaceAdmissionProjectionV1)
    (admission : AdmissionRecord) : WorkspaceAdmissionProjectionV1 :=
  { proposalDigest := admission.proposalDigest
    decisionEventId := admission.decisionEventId
    state := admission.state
    quotaId := admission.quotaId
    quotaDigest := admission.quotaDigest
    consumed := admission.consumed
    history := ((admissions.get admission.proposalDigest).map
      WorkspaceAdmissionProjectionV1.history).getD [] ++ [admission.decision] }

/-- The quota with this decision observed, and consumed if it is. -/
def recordObservation (quotas : Record JsString WorkspaceQuotaProjectionV1)
    (admission : AdmissionRecord) : WorkspaceQuotaProjectionV1 :=
  let quota := quotas.get admission.quotaId
  let consumed := (quota.map WorkspaceQuotaProjectionV1.consumedDecisionEventIds).getD []
  { quotaDigest := admission.quotaDigest
    consumedDecisionEventIds :=
      if admission.consumed = .yes then consumed ++ [admission.decisionEventId] else consumed
    observedDecisionEventIds := (quota.map
      WorkspaceQuotaProjectionV1.observedDecisionEventIds).getD [] ++ [admission.decisionEventId] }

def reduceWorkspaceState (state : Option WorkspaceState) (event : WorkspaceOperationalEvent) :
    Except DomainError WorkspaceState :=
  match event.payload with
  | .workspaceCreatedV1 authorityPrincipalId initialGrantDigest authorityConsumptionMarker
      activePolicyDigest => do
      ensure (state.isNone = true ∧ event.sequence = 1) .invalidGenesis
      return ⟨event.workspaceId, authorityPrincipalId, initialGrantDigest,
        authorityConsumptionMarker, activePolicyDigest, ∅, ∅, 0, 1⟩
  | .policyReferenceChangedV1 activePolicyDigest => do
      let current ← continueWorkspace state event
      return { current with
        activePolicyDigest := activePolicyDigest
        contextEpoch := current.contextEpoch + 1
        lastEventSequence := event.sequence }
  | .workspaceAdmissionRecordedV1 admission => do
      let current ← continueWorkspace state event
      ensure ((admission.state = .accepted) ↔ admission.consumed = .yes) .admissionQuotaInconsistent
      ensure (∀ item ∈ current.admissions.values, ∀ decision ∈ item.history,
        decision.decisionEventId ≠ admission.decisionEventId) .duplicateAdmissionTransition
      let before ← priorDecision current.admissions admission
      validateAdmissionTransition before admission.state
      quotaUnchanged current.quotas admission
      return { current with
        admissions := current.admissions.set admission.proposalDigest
          (recordDecision current.admissions admission)
        quotas := current.quotas.set admission.quotaId
          (recordObservation current.quotas admission)
        contextEpoch := current.contextEpoch + 1
        lastEventSequence := event.sequence }

end Workspaces

section Runs

structure ProposalRecord where
  status : AdmissionTransitionStateV1
  proposalDigest : JsString
  provenanceDigest : Option JsString
  artifactDigest : Option JsString
  deriving DecidableEq

structure ReceiptRecord where
  receiptDigest : JsString
  outcome : AttemptTerminalState
  deriving DecidableEq

/-- What the run shows of a task; its completion policy is fixed by the type. -/
structure TaskView where
  title : JsString
  deriving DecidableEq

structure RunOperationalState where
  workspaceId : JsString
  runId : JsString
  eventCount : Nat
  proposals : Record JsString ProposalRecord
  receipts : Record JsString ReceiptRecord
  tasks : Record JsString TaskView
  taskStates : Record JsString TaskResolution
  execution : TaskExecutionProjectionV1
  contextEpoch : Nat
  lastEventSequence : Nat

inductive RunOperationalPayload where
  | execution (payload : TaskExecutionPayloadV1)
  | runCreatedV1
  | taskCreatedV1 (taskId title : JsString)
  | proposalSubmittedV1 (proposalId proposalDigest : JsString)
  | admissionDecisionRecordedV1 (proposalId proposalDigest : JsString)
      (state : AdmissionDecisionStateV1) (provenanceDigest artifactDigest : JsString)
  | deltaAcceptedV1 (proposalId proposalDigest : JsString)
  | attemptReceiptRecordedV1 (receiptId receiptDigest : JsString) (outcome : AttemptTerminalState)
  | taskResolvedV1 (taskId : JsString) (resolution : TaskResolution)
  | forkCreatedV1
  | contextManifestPublishedV1

structure RunOperationalEvent where
  sequence : Nat
  workspaceId : JsString
  runId : JsString
  payload : RunOperationalPayload

def spread {Value : Type} (record : Record JsString Value) (entries : List (JsString × Value)) :
    Record JsString Value :=
  entries.foldl (fun record entry => record.set entry.1 entry.2) record

def taskViews (execution : TaskExecutionProjectionV1) : Record JsString TaskView :=
  Record.ofEntries (execution.contracts.values.map (fun task => (task.taskId, ⟨task.title⟩)))

def terminalLifecycles (execution : TaskExecutionProjectionV1) : List (JsString × TaskResolution) :=
  execution.lifecycles.entries.filterMap fun entry =>
    match entry.2 with
    | .resolved resolution => some (entry.1, resolution)
    | .draft | .active => none

/-- What of a proposal's record an event may rely on: it is there, with this digest. -/
def knownProposal (proposals : Record JsString ProposalRecord) (proposalId proposalDigest : JsString) :
    Except DomainError ProposalRecord := do
  let member ← required (memberOf proposals proposalId) .proposalNotSubmitted
  let existing ← required member .proposalIdentityConflict
  ensure (existing.proposalDigest = proposalDigest) .proposalIdentityConflict
  return existing

/-- Nothing is recorded under the name: `same` tells a repetition from a conflict. -/
def unrecorded {Value : Type} (record : Record JsString Value) (key : JsString)
    (same : Value → Bool) (conflict duplicate : DomainError) : Except DomainError Unit :=
  match memberOf record key with
  | none => .ok ()
  | some none => .error conflict
  | some (some existing) => .error (if same existing then duplicate else conflict)

def legacyContract (taskId title : JsString) : TaskContractV2 :=
  { taskId := taskId
    title := title
    instructions := title
    acceptanceCriteria := []
    kind := .work
    sourceTaskId := none }

variable [Engine]

def reduceOperationalPayload (state next : RunOperationalState) (event : RunOperationalEvent) :
    Except DomainError RunOperationalState :=
  match event.payload with
  | .execution payload => do
      let execution ← reduceTaskExecutionV1 state.execution ⟨event.workspaceId, event.runId, payload⟩
        event.sequence
      return { next with
        execution := execution
        tasks := taskViews execution
        taskStates := spread next.taskStates (terminalLifecycles execution) }
  | .runCreatedV1 => .error .invalidGenesis
  | .taskCreatedV1 taskId title => do
      ensure ((next.tasks.get taskId).isNone = true) .taskIdentityConflict
      return { next with
        execution := { state.execution with
          contracts := state.execution.contracts.set taskId (legacyContract taskId title)
          lifecycles := state.execution.lifecycles.set taskId .draft }
        tasks := next.tasks.set taskId ⟨title⟩ }
  | .proposalSubmittedV1 proposalId proposalDigest => do
      unrecorded next.proposals proposalId (fun existing => existing.proposalDigest = proposalDigest)
        .proposalIdentityConflict .duplicateProposalTransition
      return { next with
        proposals := next.proposals.set proposalId ⟨.submitted, proposalDigest, none, none⟩ }
  | .deltaAcceptedV1 proposalId proposalDigest => do
      let existing ← knownProposal next.proposals proposalId proposalDigest
      ensure (existing.status ∈ [AdmissionTransitionStateV1.submitted, .decided .approvalRequired,
        .decided .quarantined]) .proposalNotSubmitted
      return { next with
        proposals := next.proposals.set proposalId { existing with status := .decided .accepted } }
  | .admissionDecisionRecordedV1 proposalId proposalDigest decision provenanceDigest
      artifactDigest => do
      let existing ← knownProposal next.proposals proposalId proposalDigest
      let completesAcceptedDelta := existing.status = .decided .accepted ∧ decision = .accepted
      ensure (¬ (existing.provenanceDigest.isSome = true ∧ ¬ completesAcceptedDelta ∧
        existing.status ∈ [AdmissionTransitionStateV1.decided .accepted, .decided .rejected,
          .decided .conflicted])) .duplicateProposalTransition
      if ¬ completesAcceptedDelta then validateAdmissionTransition existing.status decision
      return { next with
        proposals := next.proposals.set proposalId
          ⟨.decided decision, proposalDigest, some provenanceDigest, some artifactDigest⟩ }
  | .attemptReceiptRecordedV1 receiptId receiptDigest outcome => do
      unrecorded next.receipts receiptId (fun existing => existing = ⟨receiptDigest, outcome⟩)
        .receiptIdentityConflict .duplicateReceiptTransition
      return { next with receipts := next.receipts.set receiptId ⟨receiptDigest, outcome⟩ }
  | .taskResolvedV1 taskId resolution => do
      unrecorded next.taskStates taskId (fun existing => existing = resolution)
        .taskIdentityConflict .duplicateTaskTransition
      let lifecycles := if present next.execution.contracts taskId then
          assign next.execution.lifecycles taskId (.resolved resolution)
        else next.execution.lifecycles
      return { next with
        execution := { next.execution with lifecycles := lifecycles }
        taskStates := next.taskStates.set taskId resolution }
  | .forkCreatedV1 | .contextManifestPublishedV1 => .ok next

def createRun (event : RunOperationalEvent) : RunOperationalState :=
  { workspaceId := event.workspaceId
    runId := event.runId
    eventCount := 1
    proposals := ∅
    receipts := ∅
    tasks := ∅
    taskStates := ∅
    execution := emptyTaskExecutionProjectionV1
    contextEpoch := 0
    lastEventSequence := 1 }

def isRunCreated : RunOperationalPayload → Bool
  | .runCreatedV1 => true
  | _ => false

def reduceOperationalState (state : Option RunOperationalState) (event : RunOperationalEvent) :
    Except DomainError RunOperationalState :=
  if isRunCreated event.payload then do
    ensure (state.isNone = true ∧ event.sequence = 1) .invalidGenesis
    return createRun event
  else do
    let current ← required state .invalidGenesis
    ensure (event.workspaceId = current.workspaceId ∧ event.runId = current.runId)
      .aggregateIdentityMismatch
    ensure (event.sequence = current.lastEventSequence + 1) .eventSequenceInvalid
    let next := { current with
      eventCount := current.eventCount + 1
      contextEpoch := current.contextEpoch + 1
      lastEventSequence := event.sequence }
    reduceOperationalPayload current next event

end Runs

section Replays

variable [Engine]

def replayText (value : JsString) : Except DomainError Unit := nonEmpty value .malformedEvent

def RunEventPayloadV1.workspaceId : RunEventPayloadV1 → JsString
  | .runCreatedV1 workspaceId _ _ | .taskCreatedV1 workspaceId _ _ _
  | .proposalSubmittedV1 workspaceId _ _ _
  | .admissionDecisionRecordedV1 workspaceId _ _ _ _ _ _ _ _
  | .attemptReceiptRecordedV1 workspaceId _ _ _ _ | .deltaAcceptedV1 workspaceId _ _ _ _ _ _
  | .taskResolvedV1 workspaceId _ _ _ _ | .forkCreatedV1 workspaceId _ _
  | .contextManifestPublishedV1 workspaceId _ _ => workspaceId
  | .taskExecution event => event.workspaceId

def DomainEventPayloadV1.workspaceId : DomainEventPayloadV1 → JsString
  | .workspace (.workspaceCreatedV1 workspaceId _ _ _ _)
  | .workspace (.policyReferenceChangedV1 workspaceId _)
  | .workspace (.workspaceAdmissionRecordedV1 workspaceId _ _ _ _ _ _) => workspaceId
  | .run payload => RunEventPayloadV1.workspaceId payload

def workspacePayload : DomainEventPayloadV1 → Except DomainError WorkspaceOperationalPayload
  | .workspace (.workspaceCreatedV1 _ authorityPrincipalId initialGrantDigest
      authorityConsumptionMarker activePolicyDigest) => do
      [authorityPrincipalId, initialGrantDigest, authorityConsumptionMarker,
        activePolicyDigest].forM replayText
      return .workspaceCreatedV1 authorityPrincipalId initialGrantDigest
        authorityConsumptionMarker activePolicyDigest
  | .workspace (.policyReferenceChangedV1 _ activePolicyDigest) => do
      replayText activePolicyDigest
      return .policyReferenceChangedV1 activePolicyDigest
  | .workspace (.workspaceAdmissionRecordedV1 _ proposalDigest decisionEventId state quotaId
      quotaDigest consumed) => do
      [proposalDigest, decisionEventId, quotaId, quotaDigest].forM replayText
      return .workspaceAdmissionRecordedV1
        ⟨proposalDigest, decisionEventId, state, quotaId, quotaDigest, consumed⟩
  | .run _ => .error .unsupportedEventType

def replayWorkspaceEvent (state : Option WorkspaceState) (item : HashedEventEnvelopeV1) :
    Except DomainError (Option WorkspaceState) := do
  let envelope := item.envelope
  ensure (envelope.streamKind = .workspace ∧ envelope.streamId = envelope.workspaceId)
    .eventIdentityInvalid
  let workspaceId := DomainEventPayloadV1.workspaceId envelope.payload
  replayText workspaceId
  ensure (workspaceId = envelope.workspaceId) .malformedEvent
  let payload ← workspacePayload envelope.payload
  let next ← reduceWorkspaceState state ⟨envelope.sequence, envelope.workspaceId, payload⟩
  return some next

def deterministicWorkspaceReplay (events : List HashedEventEnvelopeV1) :
    Except DomainError WorkspaceState := do
  verifyEventChain events
  let first ← required events.head? .invalidGenesis
  ensure (first.envelope.streamKind = .workspace) .invalidGenesis
  let state ← events.foldlM replayWorkspaceEvent none
  required state .invalidGenesis

structure RunReplay where
  canonical : Option CanonicalDocument
  operational : Option RunOperationalState

/-- The operational event that a payload stands for, with the texts and names it checks. -/
def operationalPayload (envelope : EventEnvelopeV1) :
    DomainEventPayloadV1 → Except DomainError RunOperationalPayload
  | .workspace _ => .error .unsupportedEventType
  | .run (.taskExecution event) => do
      parseTaskExecutionEventV1 event
      ensure (TaskExecutionPayloadV1.eventType event.payload = envelope.eventType ∧
        event.workspaceId = envelope.workspaceId ∧ event.runId = envelope.streamId) .malformedEvent
      return .execution event.payload
  | .run (.runCreatedV1 workspaceId runId initialDocument) => do
      replayText workspaceId
      ensure (workspaceId = envelope.workspaceId) .malformedEvent
      replayText runId
      ensure (runId = envelope.streamId) .malformedEvent
      let _ ← domainDigest (js "horseness.replay-json-validation.v1") initialDocument
      return .runCreatedV1
  | .run (.taskCreatedV1 workspaceId runId taskId title) => do
      parseRunEventPayloadV1 (.taskCreatedV1 workspaceId runId taskId title)
      ensure (workspaceId = envelope.workspaceId ∧ runId = envelope.streamId) .malformedEvent
      return .taskCreatedV1 taskId title
  | .run (.proposalSubmittedV1 _ _ proposalId proposalDigest) => do
      [proposalId, proposalDigest].forM replayText
      return .proposalSubmittedV1 proposalId proposalDigest
  | .run (.admissionDecisionRecordedV1 _ _ proposalId proposalDigest _ state provenanceDigest
      artifactDigest _) => do
      [proposalId, proposalDigest, provenanceDigest, artifactDigest].forM replayText
      return .admissionDecisionRecordedV1 proposalId proposalDigest state provenanceDigest
        artifactDigest
  | .run (.deltaAcceptedV1 _ _ proposalId proposalDigest priorStateHash resultingStateHash
      resultingDocument) => do
      [proposalId, proposalDigest, priorStateHash, resultingStateHash].forM replayText
      let _ ← domainDigest (js "horseness.replay-json-validation.v1") resultingDocument
      return .deltaAcceptedV1 proposalId proposalDigest
  | .run (.attemptReceiptRecordedV1 _ _ receiptId receiptDigest outcome) => do
      [receiptId, receiptDigest].forM replayText
      return .attemptReceiptRecordedV1 receiptId receiptDigest outcome
  | .run (.taskResolvedV1 _ _ taskId resolution _) => do
      replayText taskId
      return .taskResolvedV1 taskId resolution
  | .run (.forkCreatedV1 _ _ _) => .ok .forkCreatedV1
  | .run (.contextManifestPublishedV1 _ _ _) => .ok .contextManifestPublishedV1

/-- The canonical event that a payload stands for, if it is about the document. -/
def canonicalEvent (envelope : EventEnvelopeV1) : DomainEventPayloadV1 → Option CanonicalEvent
  | .run (.runCreatedV1 _ _ initialDocument) =>
      some (.runCreatedV1 envelope.sequence (some envelope.workspaceId) envelope.streamId
        initialDocument)
  | .run (.deltaAcceptedV1 _ _ proposalId _ priorStateHash resultingStateHash resultingDocument) =>
      some (.deltaAcceptedV1 envelope.sequence (some envelope.workspaceId) (some envelope.streamId)
        proposalId resultingDocument priorStateHash resultingStateHash)
  | _ => none

def replayCanonical (state : Option CanonicalDocument) :
    Option CanonicalEvent → Except DomainError (Option CanonicalDocument)
  | none => .ok state
  | some event => do
      let next ← reduceCanonicalDocument state event
      return some next

/-- One round of the loop: the payload is read, then the document and then the run move on. -/
def replayEvent (state : RunReplay) (item : HashedEventEnvelopeV1) : Except DomainError RunReplay := do
  let envelope := item.envelope
  let payload ← operationalPayload envelope envelope.payload
  let canonical ← replayCanonical state.canonical (canonicalEvent envelope envelope.payload)
  let operational ← reduceOperationalState state.operational
    ⟨envelope.sequence, envelope.workspaceId, envelope.streamId, payload⟩
  return ⟨canonical, some operational⟩

structure ReplayResult where
  canonical : CanonicalDocument
  operational : RunOperationalState

def deterministicReplay (events : List HashedEventEnvelopeV1) : Except DomainError ReplayResult := do
  verifyEventChain events
  let first ← required events.head? .invalidGenesis
  ensure (first.envelope.streamKind = .run) .invalidGenesis
  let final ← events.foldlM replayEvent ⟨none, none⟩
  let canonical ← required final.canonical .invalidGenesis
  let operational ← required final.operational .invalidGenesis
  return ⟨canonical, operational⟩

end Replays

end Horseness.Replay
