import Horseness.AuthoritySnapshots
import Horseness.PolicyEvaluation
import Horseness.Proposals

/-!
The admission of proposals. A request is checked against the stored snapshots and evaluated;
the decision is appended to the run and to the workspace in one transaction, with the delta
where it is accepted. The authority's rows are the same at every read of one call.
-/

namespace Horseness.AdmissionService

open FallibleRuns ScriptText JsonValues ScriptEngine Canonical Cursors ForkContext AttemptReceipts
  EventPayloads EventChains Replay Delta AuthorityLog DispatchAuthority PolicyDocuments
  PolicyEvaluation Proposals AuthoritySnapshots
open ExecutionStore (DomainError.text)

section Requests

structure AdmissionRequestV1 where
  commandId : JsString
  proposal : ProposalEnvelopeV1
  scopeDigest : JsString
  forkPinDigest : JsString
  receiptDigests : List JsString
  evidenceIds : List JsString
  policyDigest : JsString
  quotaId : JsString
  approval : Option ApprovalBindingV1
  /-- The identifier in the request's authorization. -/
  capabilityId : JsString
  action : JsString
  version : JsString

structure AdmissionResultV1 where
  state : AdmissionDecisionStateV1
  proposalId : JsString
  proposalDigest : JsString
  revision : Nat
  stateHash : JsString
  provenanceDigest : JsString
  deduplicated : Bool
  deriving DecidableEq

structure RevisionView where
  revision : Nat
  document : JsValue
  stateHash : JsString

structure AdmissionProvenanceV1 where
  proposalId : JsString
  proposalDigest : JsString
  decision : AdmissionDecisionStateV1
  evaluation : AdmissionEvaluationV1
  observationCursor : CompositeCursorV1
  priorRevision : Nat
  priorStateHash : JsString
  resultingRevision : Nat
  resultingStateHash : JsString
  receiptDigests : List JsString
  forkPinDigest : JsString
  scopeDigest : JsString
  predecessorProposalDigest : Option JsString

def AdmissionProvenanceV1.toJson (provenance : AdmissionProvenanceV1) : JsValue :=
  object [("schemaVersion", .str (js "1")), ("proposalId", .str provenance.proposalId),
    ("proposalDigest", .str provenance.proposalDigest),
    ("decision", .str provenance.decision.text), ("evaluation", provenance.evaluation.toJson),
    ("observationCursor", provenance.observationCursor.toJson),
    ("priorRevision", natural provenance.priorRevision),
    ("priorStateHash", .str provenance.priorStateHash),
    ("resultingRevision", natural provenance.resultingRevision),
    ("resultingStateHash", .str provenance.resultingStateHash),
    ("receiptDigests", texts provenance.receiptDigests),
    ("forkPinDigest", .str provenance.forkPinDigest), ("scopeDigest", .str provenance.scopeDigest),
    ("predecessorProposalDigest", nullable .str provenance.predecessorProposalDigest)]

def scopeJson (scope : DeltaAuthorityScopeV1) : JsValue :=
  object [("schemaVersion", .str (js "1")), ("workspaceId", .str scope.workspaceId),
    ("runId", .str scope.runId), ("taskId", .str scope.taskId), ("roots", texts scope.roots)]

def DeltaReasonCode.error : DeltaReasonCode → DomainError
  | .staleBase => .staleBase
  | .testFailed => .testFailed
  | .addParentChanged => .addParentChanged
  | .addTargetExists => .addTargetExists
  | .pathMissing => .pathMissing
  | .valueDigestMismatch => .valueDigestMismatch
  | .arrayIndexRange => .arrayIndexRange
  | .invalidEnvelope => .invalidEnvelope
  | .proposalIdMismatch => .proposalIdMismatch
  | .unsupportedSchemaVersion => .unsupportedSchemaVersion
  | .unsupportedCanonicalizer => .unsupportedCanonicalizer
  | .unsupportedHash => .unsupportedHash
  | .invalidPointer => .invalidPointer
  | .rootAddForbidden => .rootAddForbidden
  | .rootRemoveForbidden => .rootRemoveForbidden
  | .duplicateWriteTarget => .duplicateWriteTarget
  | .overlappingWriteTarget => .overlappingWriteTarget
  | .scopeEscape => .scopeEscape
  | .invalidJsonValue => .invalidJsonValue
  | .evidenceMismatch => .evidenceMismatch
  | .receiptMismatch => .receiptMismatch
  | .finalDocumentUnchanged => .finalDocumentUnchanged

end Requests

section Decisions

/-- A decision on a proposal, as the run records it. -/
structure RecordedDecision where
  proposalDigest : JsString
  state : AdmissionDecisionStateV1
  provenanceDigest : JsString
  deriving DecidableEq

def decisionOn (proposalId : JsString) : DomainEventPayloadV1 → Option RecordedDecision
  | .run (.admissionDecisionRecordedV1 _ _ id proposalDigest _ state provenanceDigest _ _) =>
      if id = proposalId then some ⟨proposalDigest, state, provenanceDigest⟩ else none
  | _ => none

def decisionsOn (proposalId : JsString) (events : List HashedEventEnvelopeV1) :
    List RecordedDecision :=
  events.filterMap fun item => decisionOn proposalId item.envelope.payload

def terminalDecisions : List AdmissionDecisionStateV1 := [.accepted, .rejected, .conflicted]

def priorStateOf (decisions : List RecordedDecision) : AdmissionTransitionStateV1 :=
  match decisions.getLast? with
  | none => .submitted
  | some last => .decided last.state

def refuse {Result : Type} (code : DomainError) : Except StoreError Result := .error (.domain code)

def inDomain {Result : Type} (attempt : Except DomainError Result) : Except StoreError Result :=
  attempt.mapError .domain

def existingTerminal (request : AdmissionRequestV1) (revision : RevisionView)
    (decisions : List RecordedDecision) : Except StoreError (Option AdmissionResultV1) := do
  ensure (∀ decision ∈ decisions, decision.proposalDigest = request.proposal.proposalDigest)
    (.domain .proposalIdentityConflict)
  return (decisions.reverse.find? fun decision => decision.state ∈ terminalDecisions).map
    fun decision => ⟨decision.state, request.proposal.proposalId, request.proposal.proposalDigest,
      revision.revision, revision.stateHash, decision.provenanceDigest, true⟩

end Decisions

section Loading

variable [Engine]

def loadRevision (events : List HashedEventEnvelopeV1) : Except StoreError RevisionView := do
  let replay ← inDomain (deterministicReplay events)
  return ⟨replay.canonical.revision, replay.canonical.document, replay.canonical.stateHash⟩

def currentCursor (workspaceId runId : JsString) (workspaceEvents runEvents :
    List HashedEventEnvelopeV1) : Except StoreError CompositeCursorV1 := do
  let workspace ← required workspaceEvents.getLast? (.domain .invalidGenesis)
  let run ← required runEvents.getLast? (.domain .invalidGenesis)
  return ⟨workspaceId, workspace.envelope.sequence, workspace.envelopeHash,
    workspace.envelope.sequence - 1, runId, run.envelope.sequence, run.envelopeHash,
    run.envelope.sequence - 1⟩

def snapshotRow (state : Authority) (key : StreamKey) (sequence : Nat) (name : String) :
    Option SnapshotRow :=
  state.snapshots.find? fun row => row.key = key ∧ row.sequence = sequence ∧
    row.projectionName = js name ∧ row.projectionVersion = js "1"

def stands (events : List HashedEventEnvelopeV1) (sequence : Nat) (envelopeHash : JsString) : Bool :=
  (events.find? fun item => item.envelope.sequence = sequence).any fun item =>
    item.envelopeHash = envelopeHash

def snapshotAt (state : Authority) (key : StreamKey) (events : List HashedEventEnvelopeV1)
    (sequence : Nat) (name : String) : Except StoreError JsValue := do
  let row ← required (snapshotRow state key sequence name) (.domain .authorityStateMissing)
  ensure (stands events sequence row.envelopeHash = true) (.domain .authorityStateSubstituted)
  return row.state

def currentAuthorityAt (state : Authority) (workspaceEvents runEvents : List HashedEventEnvelopeV1)
    (observed : CompositeCursorV1) : Except StoreError JsValue := do
  let row ← required (snapshotRow state (.run observed.workspaceId observed.runId)
    observed.runSequence "admission-current") (.domain .authorityStateMissing)
  ensure (row.envelopeHash = observed.runEnvelopeHash) (.domain .authorityStateSubstituted)
  ensure (stands workspaceEvents observed.workspaceSequence observed.workspaceEnvelopeHash = true ∧
    stands runEvents observed.runSequence observed.runEnvelopeHash = true ∧
    observed.workspaceContextEpoch = observed.workspaceSequence - 1 ∧
    observed.runContextEpoch = observed.runSequence - 1) (.domain .authorityStateSubstituted)
  return row.state

def recordedReceipts (events : List HashedEventEnvelopeV1) (sequence : Nat) : List JsString :=
  events.filterMap fun item =>
    match item.envelope.payload with
    | .run (.attemptReceiptRecordedV1 _ _ _ receiptDigest _) =>
        if item.envelope.sequence ≤ sequence then some receiptDigest else none
    | _ => none

def sameMediaType (record : ArtifactRecord) (evidence : JsValue) : Bool :=
  match record.mediaType, property "mediaType" evidence with
  | none, some .null => true
  | some mediaType, some (.str given) => mediaType = given
  | _, _ => false

/-- The artifact of an evidence item is readable, and it is what the item says. -/
def verifyEvidence (around : Surroundings) (state : Authority) (evidence : JsValue) :
    Except StoreError Unit := do
  let digest ← required (textAt "digest" evidence) (.domain .evidenceMismatch)
  let record ← required (state.artifacts.get digest)
    (.artifact (js "unknown artifact reference: " ++ digest))
  around.readReferenced digest
  ensure (naturalAt "size" evidence = some record.byteLength) (.domain .evidenceMismatch)
  ensure (sameMediaType record evidence = true) (.domain .evidenceMismatch)

def same (left right : JsValue) (code : DomainError) : Except StoreError Unit := do
  let equal ← inDomain (sameJson left right)
  ensure (equal = true) (.domain code)

structure LoadedAuthorities where
  historical : AdmissionSealingAuthorityV1
  current : AdmissionCurrentAuthorityV1

def loadAuthorities (around : Surroundings) (state : Authority) (request : AdmissionRequestV1)
    (workspaceEvents runEvents : List HashedEventEnvelopeV1) (observed : CompositeCursorV1) :
    Except StoreError LoadedAuthorities := do
  let core := request.proposal.core
  let sealing := core.proposalSealingObservationCursor
  let historicalValue ← snapshotAt state (.run core.workspaceId core.runId) runEvents
    sealing.runSequence "admission-sealing"
  let currentValue ← currentAuthorityAt state workspaceEvents runEvents observed
  let historical ← required (readSealingAuthority historicalValue)
    (.domain .authorityStateSubstituted)
  let current ← required (readCurrentAuthority currentValue) (.domain .authorityStateSubstituted)
  same historical.observationCursor.toJson sealing.toJson .authorityStateSubstituted
  same current.evaluationObservationCursor.toJson observed.toJson .authorityStateSubstituted
  inDomain (verifyForkPin historical.fork)
  ensure (historical.fork.forkPinDigest = core.forkPinDigest) (.domain .forkPinMismatch)
  historical.receipts.forM fun receipt => do
    inDomain (verifyAttemptReceipt receipt)
    ensure (receipt.receiptDigest ∈ recordedReceipts runEvents sealing.runSequence)
      (.domain .receiptMismatch)
  historical.evidence.forM (verifyEvidence around state)
  return ⟨historical, current⟩

end Loading

section Validation

variable [Engine]

/-- The delta of a request with what it is evaluated on. -/
structure ValidatedRequest where
  delta : DeltaResult
  paths : List JsString
  snapshots : SnapshotExpectationV1
  evaluationClock : EvaluationClockV1

def rejection : DeltaResult → Option DeltaReasonCode
  | .rejected reason => some reason
  | _ => none

def receiptOf (core : ProposalEnvelopeCoreV1) (receipt : AttemptReceiptEnvelopeV1) : Prop :=
  receipt.workspaceId = core.workspaceId ∧ receipt.runId = core.runId ∧
    receipt.attemptId = core.attemptId ∧ receipt.forkPinDigest = core.forkPinDigest ∧
    receipt.producerGrantDigest = core.authorGrantDigest

instance (core : ProposalEnvelopeCoreV1) (receipt : AttemptReceiptEnvelopeV1) :
    Decidable (receiptOf core receipt) :=
  inferInstanceAs (Decidable (_ ∧ _))

def evidenceClaimed (core : ProposalEnvelopeCoreV1) (evidence : JsValue) : Prop :=
  ∃ item ∈ core.evidenceClaims, textAt "evidenceId" evidence = some item.claim ∧
    textAt "digest" evidence = some item.digest

instance (core : ProposalEnvelopeCoreV1) (evidence : JsValue) :
    Decidable (evidenceClaimed core evidence) :=
  inferInstanceAs (Decidable (∃ item ∈ core.evidenceClaims, _))

def sorted (items : List JsString) : JsValue := texts (items.insertionSort (· ≤ ·))

/-- The scope, the fork pin, the policy, the receipts and the evidence of the proposal. -/
def validateSealing (core : ProposalEnvelopeCoreV1) (historical : AdmissionSealingAuthorityV1)
    (structural : DeltaResult) : Except StoreError Unit := do
  ensure (∀ reason ∈ rejection structural, reason = .scopeEscape)
    (.domain (DeltaReasonCode.error ((rejection structural).getD .scopeEscape)))
  let scope ← inDomain (canonicalScope historical.scope)
  ensure (scope.workspaceId = core.workspaceId ∧ scope.runId = core.runId) (.domain .scopeEscape)
  let scopeDigest ← inDomain (domainDigest (js "horseness.delta-authority-scope.v1")
    (scopeJson scope))
  ensure (scopeDigest = core.deltaAuthorityScopeDigest) (.domain .scopeEscape)
  ensure (rejection structural = none) (.domain .scopeEscape)
  let fork := historical.fork.core
  ensure (fork.canonicalRevision = core.baseRevision ∧
    fork.canonicalStateHash = core.baseStateHash ∧
    fork.pinnedPolicyDigest = core.pinnedPolicyDigest ∧
    fork.deltaAuthorityScopeDigest = core.deltaAuthorityScopeDigest) (.domain .forkPinMismatch)
  let pinnedDigest ← inDomain (policySlotDigest historical.pinnedPolicy)
  ensure (pinnedDigest = core.pinnedPolicyDigest) (.domain .policySubstituted)
  historical.receipts.forM fun receipt => inDomain (verifyAttemptReceipt receipt)
  let receiptDigests := historical.receipts.map AttemptReceiptEnvelopeV1.receiptDigest
  ensure (receiptDigests.Nodup ∧ core.receiptDigests.length = receiptDigests.length ∧
    ∀ digest ∈ core.receiptDigests, digest ∈ receiptDigests) (.domain .receiptMismatch)
  ensure (∀ receipt ∈ historical.receipts, receiptOf core receipt) (.domain .receiptMismatch)
  ensure ((∀ evidence ∈ historical.evidence, evidenceClaimed core evidence) ∧
    core.evidenceClaims.length = historical.evidence.length) (.domain .evidenceMismatch)

/-- A release names the current policy, every other action the one of the proposal. -/
def requestedPolicyDigest (request : AdmissionRequestV1) (current : AdmissionCurrentAuthorityV1) :
    Except StoreError JsString :=
  if request.action = js "release" then inDomain (policySlotDigest current.currentPolicy)
  else .ok request.proposal.core.currentPolicyDigest

def validateIdentifiers (request : AdmissionRequestV1) (historical : AdmissionSealingAuthorityV1)
    (current : AdmissionCurrentAuthorityV1) : Except StoreError Unit := do
  let core := request.proposal.core
  let policyDigest ← requestedPolicyDigest request current
  ensure (request.scopeDigest = core.deltaAuthorityScopeDigest ∧
    request.forkPinDigest = core.forkPinDigest) (.domain .authorityIdentifierMismatch)
  same (sorted request.receiptDigests) (sorted core.receiptDigests) .authorityIdentifierMismatch
  ensure (request.policyDigest = policyDigest ∧ request.quotaId = current.quota.id)
    (.domain .authorityIdentifierMismatch)
  same (sorted request.evidenceIds) (sorted (historical.evidence.filterMap (textAt "evidenceId")))
    .authorityIdentifierMismatch

def expectation (core : ProposalEnvelopeCoreV1) (current : AdmissionCurrentAuthorityV1) :
    SnapshotExpectationV1 :=
  { issueObservationCursor := core.proposalSealingObservationCursor
    evaluationObservationCursor := current.evaluationObservationCursor
    expectedGrantDigest := core.authorGrantDigest
    observedGrantDigest := current.authorization.grantDigest
    expectedQuotaDigest := current.quota.digest
    observedQuotaDigest := current.quota.digest
    quotaAvailable := current.quota.available
    authenticatedApproverPrincipalId := current.authenticatedApproverPrincipalId }

def touchedPaths (core : ProposalEnvelopeCoreV1) : List JsString :=
  (core.operations.map operationPath).eraseDups.insertionSort (· ≤ ·)

def staleBase (core : ProposalEnvelopeCoreV1) (revision : RevisionView) : Prop :=
  core.baseRevision ≠ revision.revision ∨ core.baseStateHash ≠ revision.stateHash

instance (core : ProposalEnvelopeCoreV1) (revision : RevisionView) :
    Decidable (staleBase core revision) :=
  inferInstanceAs (Decidable (_ ∨ _))

def validateRequest (request : AdmissionRequestV1) (revision : RevisionView)
    (historical : AdmissionSealingAuthorityV1) (current : AdmissionCurrentAuthorityV1) :
    Except StoreError ValidatedRequest := do
  inDomain (verifyProposal request.proposal)
  let core := request.proposal.core
  let structural ← inDomain (applyDelta revision.document core.operations
    { historical.scope with workspaceId := core.workspaceId, runId := core.runId })
  validateSealing core historical structural
  validateIdentifiers request historical current
  return {
    delta := if staleBase core revision then .conflicted .staleBase else structural
    paths := touchedPaths core
    snapshots := expectation core current
    evaluationClock := ⟨current.authorityTime, .composite current.evaluationObservationCursor⟩ }

/-- The reason that a delta which is not accepted is evaluated with. -/
def conflictOf : DeltaResult → Option DeltaReasonCode
  | .accepted .. => none
  | .conflicted reason | .rejected reason => some reason

def evaluationInput (request : AdmissionRequestV1) (loaded : LoadedAuthorities)
    (validated : ValidatedRequest) : AdmissionEvaluationInputV1 :=
  { proposalDigest := request.proposal.proposalDigest
    proposalAuthorPrincipalId := request.proposal.core.authorPrincipalId
    baseRevision := request.proposal.core.baseRevision
    baseStateHash := request.proposal.core.baseStateHash
    action := request.action
    paths := validated.paths
    version := request.version
    pinnedPolicy := loaded.historical.pinnedPolicy
    currentPolicy := loaded.current.currentPolicy
    evidence := loaded.historical.evidence
    snapshots := validated.snapshots
    evaluationClock := validated.evaluationClock
    approval := request.approval
    preconditionConflict := (conflictOf validated.delta).map fun reason =>
      DomainError.text (DeltaReasonCode.error reason) }

end Validation

section Assessment

variable [Engine]

/-- Everything that is read and decided before anything is appended. -/
structure AdmissionCase where
  revision : RevisionView
  decisions : List RecordedDecision
  observed : CompositeCursorV1
  loaded : LoadedAuthorities
  validated : ValidatedRequest
  evaluation : AdmissionEvaluationV1
  state : AdmissionDecisionStateV1

/-- A request that is not bound to fail for its base names the current policy and is
authorized. -/
def authorizeCase (request : AdmissionRequestV1) (loaded : LoadedAuthorities)
    (observed : CompositeCursorV1) : DeltaResult → Except StoreError Unit
  | .conflicted _ => .ok ()
  | .accepted .. | .rejected _ => do
      let core := request.proposal.core
      if request.action ≠ js "release" then do
        let currentDigest ← inDomain (policySlotDigest loaded.current.currentPolicy)
        ensure (currentDigest = core.currentPolicyDigest) (.domain .policySubstituted)
      inDomain (authorizeAdmission request.capabilityId loaded.current.authorization
        ⟨core.workspaceId, core.runId, core.authorPrincipalId, observed.runSequence⟩)

/-- An explicit rejection stands where approval was required; else the evaluation does. -/
def decidedState (request : AdmissionRequestV1) (decisions : List RecordedDecision)
    (evaluation : AdmissionEvaluationV1) : AdmissionDecisionStateV1 :=
  if request.action = js "reject" ∧ priorStateOf decisions = .decided .approvalRequired then
    .rejected
  else evaluation.result

/-- Up to the transition check: the answer that stands already, or the case to append. -/
def assess (around : Surroundings) (request : AdmissionRequestV1) (state : Authority) :
    Except StoreError (AdmissionResultV1 ⊕ AdmissionCase) := do
  inDomain (verifyProposal request.proposal)
  let core := request.proposal.core
  let runEvents ← authenticatedRows state (.run core.workspaceId core.runId)
  let revision ← loadRevision runEvents
  let decisions := decisionsOn request.proposal.proposalId runEvents
  match ← existingTerminal request revision decisions with
  | some answer => return .inl answer
  | none => do
      let workspaceEvents ← authenticatedRows state (.workspace core.workspaceId)
      let observed ← currentCursor core.workspaceId core.runId workspaceEvents runEvents
      let loaded ← loadAuthorities around state request workspaceEvents runEvents observed
      let validated ← validateRequest request revision loaded.historical loaded.current
      authorizeCase request loaded observed validated.delta
      let evaluation ← inDomain (evaluateAdmission (evaluationInput request loaded validated))
      let decided := decidedState request decisions evaluation
      inDomain (validateAdmissionTransition (priorStateOf decisions) decided)
      return .inr ⟨revision, decisions, observed, loaded, validated, evaluation, decided⟩

end Assessment

section Appends

variable [Engine]

def acceptedDelta : DeltaResult → Option (JsValue × JsString)
  | .accepted document stateHash _ => some (document, stateHash)
  | _ => none

def AdmissionCase.change (admission : AdmissionCase) : Option (JsValue × JsString) :=
  if admission.state = .accepted then acceptedDelta admission.validated.delta else none

def transitionOf (action : JsString) : AdmissionTransitionV1 :=
  if action = js "approve" then .approve
  else if action = js "reject" then .reject
  else if action = js "release" then .release
  else if action = js "rebase" then .rebase
  else .evaluate

def AdmissionCase.resultingRevision (admission : AdmissionCase) : Nat :=
  if admission.state = .accepted then admission.revision.revision + 1
  else admission.revision.revision

def AdmissionCase.resultingStateHash (admission : AdmissionCase) : JsString :=
  (admission.change.map Prod.snd).getD admission.revision.stateHash

def provenanceOf (request : AdmissionRequestV1) (admission : AdmissionCase) :
    AdmissionProvenanceV1 :=
  { proposalId := request.proposal.proposalId
    proposalDigest := request.proposal.proposalDigest
    decision := admission.state
    evaluation := admission.evaluation
    observationCursor := admission.observed
    priorRevision := admission.revision.revision
    priorStateHash := admission.revision.stateHash
    resultingRevision := admission.resultingRevision
    resultingStateHash := admission.resultingStateHash
    receiptDigests := request.proposal.core.receiptDigests.insertionSort (· ≤ ·)
    forkPinDigest := request.proposal.core.forkPinDigest
    scopeDigest := request.proposal.core.deltaAuthorityScopeDigest
    predecessorProposalDigest := request.proposal.core.predecessorProposalDigest }

def eventIdentity (commandId : JsString) (streamKind : StreamKind) (sequence : Nat) :
    Except DomainError JsString :=
  domainDigest (js "horseness.orchestrator-event-id.v1")
    (object [("commandId", .str commandId), ("streamKind", .str streamKind.text),
      ("sequence", natural sequence)])

def admissionEvent (request : AdmissionRequestV1) (key : StreamKey) (sequence : Nat)
    (prior : JsString) (payload : DomainEventPayloadV1) : Except StoreError HashedEventEnvelopeV1 :=
  inDomain do
    let identity ← eventIdentity request.commandId key.streamKind sequence
    sealEventEnvelope
      { streamKind := key.streamKind
        workspaceId := key.workspaceId
        streamId := key.streamId
        sequence := sequence
        eventId := identity
        eventType := payload.eventType
        principalId := request.proposal.core.authorPrincipalId
        causationId := request.commandId
        correlationId := request.commandId
        idempotencyKey := identity
        priorEnvelopeHash := some prior
        payloadHash := []
        payload := payload }

/-- The event of a payload that there may be, behind a position of the run. -/
def nextEvent (request : AdmissionRequestV1) (key : StreamKey) (position : Nat × JsString) :
    Option DomainEventPayloadV1 → Except StoreError (List HashedEventEnvelopeV1 × Nat × JsString)
  | none => .ok ([], position)
  | some payload => do
      let event ← admissionEvent request key (position.1 + 1) position.2 payload
      return ([event], position.1 + 1, event.envelopeHash)

def submittedPayload (request : AdmissionRequestV1) (admission : AdmissionCase) :
    Option DomainEventPayloadV1 :=
  if admission.decisions = [] then
    some (.run (.proposalSubmittedV1 request.proposal.core.workspaceId request.proposal.core.runId
      request.proposal.proposalId request.proposal.proposalDigest))
  else none

def acceptedPayload (request : AdmissionRequestV1) (admission : AdmissionCase) :
    Option DomainEventPayloadV1 :=
  admission.change.map fun change =>
    .run (.deltaAcceptedV1 request.proposal.core.workspaceId request.proposal.core.runId
      request.proposal.proposalId request.proposal.proposalDigest admission.revision.stateHash
      change.2 change.1)

/-- The digests under which the provenance of a decision is published. -/
structure ProvenanceDigests where
  provenanceJson : JsString
  provenanceDigest : JsString
  artifactDigest : JsString

def provenanceDigests (request : AdmissionRequestV1) (admission : AdmissionCase) :
    Except StoreError ProvenanceDigests := do
  let provenance := (provenanceOf request admission).toJson
  let provenanceJson ← inDomain (canonicalJson provenance)
  let provenanceDigest ← inDomain (domainDigest (js "horseness.admission-provenance.v1") provenance)
  return ⟨provenanceJson, provenanceDigest, Engine.sha256Hex provenanceJson⟩

def decisionPayload (request : AdmissionRequestV1) (admission : AdmissionCase)
    (digests : ProvenanceDigests) : DomainEventPayloadV1 :=
  .run (.admissionDecisionRecordedV1 request.proposal.core.workspaceId request.proposal.core.runId
    request.proposal.proposalId request.proposal.proposalDigest (transitionOf request.action)
    admission.state digests.provenanceDigest digests.artifactDigest admission.observed)

def workspacePayloadOf (request : AdmissionRequestV1) (admission : AdmissionCase)
    (decisionEventId : JsString) : DomainEventPayloadV1 :=
  .workspace (.workspaceAdmissionRecordedV1 request.proposal.core.workspaceId
    request.proposal.proposalDigest decisionEventId admission.state request.quotaId
    admission.validated.snapshots.observedQuotaDigest
    (if admission.state = .accepted then .yes else .no))

structure AdmissionEvents where
  digests : ProvenanceDigests
  submitted : List HashedEventEnvelopeV1
  accepted : List HashedEventEnvelopeV1
  decision : HashedEventEnvelopeV1
  workspaceEvent : HashedEventEnvelopeV1

def admissionEvents (request : AdmissionRequestV1) (admission : AdmissionCase) :
    Except StoreError AdmissionEvents := do
  let core := request.proposal.core
  let observed := admission.observed
  let run := StreamKey.run core.workspaceId core.runId
  let digests ← provenanceDigests request admission
  let (submitted, first) ← nextEvent request run (observed.runSequence, observed.runEnvelopeHash)
    (submittedPayload request admission)
  let (accepted, second) ← nextEvent request run first (acceptedPayload request admission)
  let decision ← admissionEvent request run (second.1 + 1) second.2
    (decisionPayload request admission digests)
  let workspaceEvent ← admissionEvent request (.workspace core.workspaceId)
    (observed.workspaceSequence + 1) observed.workspaceEnvelopeHash
    (workspacePayloadOf request admission decision.envelope.eventId)
  return ⟨digests, submitted, accepted, decision, workspaceEvent⟩

def AdmissionEvents.runEvents (events : AdmissionEvents) : List HashedEventEnvelopeV1 :=
  events.submitted ++ events.accepted ++ [events.decision]

def provenanceRecord (digests : ProvenanceDigests) : ArtifactRecord :=
  { digest := digests.artifactDigest
    byteLength := byteLength digests.provenanceJson
    relativePath := js "objects/" ++ digests.artifactDigest.take 2 ++ js "/" ++
      digests.artifactDigest.drop 2
    mediaType := some (js "application/vnd.horseness.admission-provenance+json") }

def resultingCursor (core : ProposalEnvelopeCoreV1) (events : AdmissionEvents) : CompositeCursorV1 :=
  ⟨core.workspaceId, events.workspaceEvent.envelope.sequence, events.workspaceEvent.envelopeHash,
    events.workspaceEvent.envelope.sequence - 1, core.runId, events.decision.envelope.sequence,
    events.decision.envelopeHash, events.decision.envelope.sequence - 1⟩

def admissionAppend (request : AdmissionRequestV1) (admission : AdmissionCase)
    (events : AdmissionEvents) : PublishAndAppendRequest :=
  let core := request.proposal.core
  let decision := events.decision
  { commandId := request.commandId
    workspace := some ⟨.workspace, core.workspaceId, core.workspaceId,
      admission.observed.workspaceSequence, some admission.observed.workspaceEnvelopeHash,
      [events.workspaceEvent]⟩
    run := some ⟨.run, core.workspaceId, core.runId, admission.observed.runSequence,
      some admission.observed.runEnvelopeHash, events.runEvents⟩
    runGenesis := none
    workspaceObservationCursor := none
    authorityStateExpectations := none
    clientRequestDigest := none
    artifacts := [⟨provenanceRecord events.digests,
      [⟨js "event", decision.envelope.eventId, false⟩], []⟩]
    requiredArtifactDigests := [events.digests.artifactDigest]
    projections := [⟨core.workspaceId, js "admission-current", js "1", .run, core.runId,
      decision.envelope.sequence, some decision.envelopeHash⟩]
    snapshots := [⟨core.workspaceId, .run, core.runId, decision.envelope.sequence,
      decision.envelopeHash, js "admission-current", js "1",
      ({ admission.loaded.current with
        evaluationObservationCursor := resultingCursor core events } :
          AdmissionCurrentAuthorityV1).toJson⟩] }

def conflictAsStale : StoreError → StoreError
  | .conflict _ => .domain .staleBase
  | other => other

def admissionResult (request : AdmissionRequestV1) (admission : AdmissionCase)
    (events : AdmissionEvents) : AdmissionResultV1 :=
  ⟨admission.state, request.proposal.proposalId, request.proposal.proposalDigest,
    admission.resultingRevision, admission.resultingStateHash, events.digests.provenanceDigest, false⟩

def evaluateAndApply (around : Surroundings) (request : AdmissionRequestV1) (state : Authority) :
    Except StoreError (AdmissionResultV1 × Authority) := do
  match ← assess around request state with
  | .inl answer => return (answer, state)
  | .inr admission => do
      ensure (admission.state = .accepted → (acceptedDelta admission.validated.delta).isSome = true)
        (.domain .staleBase)
      let events ← admissionEvents request admission
      let (_, after) ← (publishAndAppendAtomic around (admissionAppend request admission events)
        state).mapError conflictAsStale
      return (admissionResult request admission events, after)

end Appends

end Horseness.AdmissionService
