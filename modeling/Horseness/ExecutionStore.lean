import Horseness.Replay
import Horseness.Turns

/-!
The authority store as the execution service uses it: the streams of the workspace's runs,
the table of commands with their results and the table of consumed authority. A stream
carries its replay, so that what is stored replays. Requests are compared by value where
the store compares their digests, with the events of a request named by their envelope
hashes.
-/

namespace Horseness.ExecutionStore

open FallibleRuns Records ScriptText ScriptEngine Canonical Cursors Tasks EventChains Replay

section Failures

/-- The reasons of `ProtocolError` that the handlers give. -/
inductive ProtocolReasonCode where
  | invalidParams
  | staleObservation
  | methodNotAuthorized
  | authScopeMismatch
  | grantInvalid
  | internalError
  deriving DecidableEq

def ProtocolReasonCode.text : ProtocolReasonCode → JsString
  | .invalidParams => js "INVALID_PARAMS"
  | .staleObservation => js "STALE_OBSERVATION"
  | .methodNotAuthorized => js "METHOD_NOT_AUTHORIZED"
  | .authScopeMismatch => js "AUTH_SCOPE_MISMATCH"
  | .grantInvalid => js "GRANT_INVALID"
  | .internalError => js "INTERNAL_ERROR"

inductive Failure where
  /-- A `DomainError` whose message is its code. -/
  | domain (code : DomainError)
  /-- `new DomainError("UNKNOWN_OUTCOME", reason)`. -/
  | unknownOutcome (reason : JsString)
  /-- A `StoreConflictError`; `reused` is that of a command id with another request. -/
  | conflict (reused : Bool)
  /-- A `StoreIntegrityError`. -/
  | integrity
  /-- A unique index of the tables refused a row. -/
  | constraint
  | protocol (reason : ProtocolReasonCode)
  /-- Whatever else is thrown, with what `failureCode` makes of it. -/
  | thrown (code : JsString)
  deriving DecidableEq

/-- The code of an error; syntax and range errors have none and no message that starts
with one. -/
def DomainError.text : DomainError → JsString
  | .syntaxError => js "EXECUTION_FAILED"
  | .invalidUnicode => js "INVALID_UNICODE"
  | .invalidJsonValue => js "INVALID_JSON_VALUE"
  | .executionInvalid => js "EXECUTION_INVALID"
  | .planInvalid => js "PLAN_INVALID"
  | .cursorInvalid => js "CURSOR_INVALID"
  | .resultCursorIncompatible => js "RESULT_CURSOR_INCOMPATIBLE"
  | .contextVersionInvalid => js "CONTEXT_VERSION_INVALID"
  | .contextCursorIncompatible => js "CONTEXT_CURSOR_INCOMPATIBLE"
  | .contextVersionMismatch => js "CONTEXT_VERSION_MISMATCH"
  | .invalidEnvelope => js "INVALID_ENVELOPE"
  | .invalidDependencySnapshot => js "INVALID_DEPENDENCY_SNAPSHOT"
  | .forkPinAuthenticationFailed => js "FORK_PIN_AUTHENTICATION_FAILED"
  | .invalidContextManifest => js "INVALID_CONTEXT_MANIFEST"
  | .invalidContextSource => js "INVALID_CONTEXT_SOURCE"
  | .invalidContextBinding => js "INVALID_CONTEXT_BINDING"
  | .contextBytesMismatch => js "CONTEXT_BYTES_MISMATCH"
  | .executionProfileMismatch => js "EXECUTION_PROFILE_MISMATCH"
  | .receiptMismatch => js "RECEIPT_MISMATCH"
  | .receiptPreHandoff => js "RECEIPT_PRE_HANDOFF"
  | .receiptConflict => js "RECEIPT_CONFLICT"
  | .illegalTaskTransition => js "ILLEGAL_TASK_TRANSITION"
  | .invalidAttemptGeneration => js "INVALID_ATTEMPT_GENERATION"
  | .invalidAttemptState => js "INVALID_ATTEMPT_STATE"
  | .invalidEventSequence => js "INVALID_EVENT_SEQUENCE"
  | .invalidProviderHandle => js "INVALID_PROVIDER_HANDLE"
  | .illegalDispatchTransition => js "ILLEGAL_DISPATCH_TRANSITION"
  | .unknownOutcome => js "UNKNOWN_OUTCOME"
  | .abortPostHandoff => js "ABORT_POST_HANDOFF"
  | .taskResolutionMismatch => js "TASK_RESOLUTION_MISMATCH"
  | .invalidDependency => js "INVALID_DEPENDENCY"
  | .dependencyCycle => js "DEPENDENCY_CYCLE"
  | .taskNotFound => js "TASK_NOT_FOUND"
  | .taskNotDraft => js "TASK_NOT_DRAFT"
  | .taskNotReady => js "TASK_NOT_READY"
  | .taskCancelled => js "TASK_CANCELLED"
  | .planNotFound => js "PLAN_NOT_FOUND"
  | .planSourceChanged => js "PLAN_SOURCE_CHANGED"
  | .planStale => js "PLAN_STALE"
  | .planAlreadyAdopted => js "PLAN_ALREADY_ADOPTED"
  | .planOutcomeConflict => js "PLAN_OUTCOME_CONFLICT"
  | .workflowAlreadyRunning => js "WORKFLOW_ALREADY_RUNNING"
  | .workflowGraphChanged => js "WORKFLOW_GRAPH_CHANGED"
  | .workflowStopped => js "WORKFLOW_STOPPED"
  | .workflowAuthorizationExpired => js "WORKFLOW_AUTHORIZATION_EXPIRED"
  | .authorizationDenied => js "AUTHORIZATION_DENIED"
  | .invalidPointer => js "INVALID_POINTER"
  | .eventChainEmpty => js "EVENT_CHAIN_EMPTY"
  | .eventVersionUnsupported => js "EVENT_VERSION_UNSUPPORTED"
  | .eventIdentityInvalid => js "EVENT_IDENTITY_INVALID"
  | .eventChainInvalid => js "EVENT_CHAIN_INVALID"
  | .eventEnvelopeInvalid => js "EVENT_ENVELOPE_INVALID"
  | .eventPayloadHashInvalid => js "EVENT_PAYLOAD_HASH_INVALID"
  | .eventEnvelopeHashInvalid => js "EVENT_ENVELOPE_HASH_INVALID"
  | .eventPayloadInvalid => js "EVENT_PAYLOAD_INVALID"
  | .unsupportedEventType => js "UNSUPPORTED_EVENT_TYPE"
  | .malformedEvent => js "MALFORMED_EVENT"
  | .invalidGenesis => js "INVALID_GENESIS"
  | .eventSequenceInvalid => js "EVENT_SEQUENCE_INVALID"
  | .aggregateIdentityMismatch => js "AGGREGATE_IDENTITY_MISMATCH"
  | .staleBase => js "STALE_BASE"
  | .taskIdentityConflict => js "TASK_IDENTITY_CONFLICT"
  | .proposalIdentityConflict => js "PROPOSAL_IDENTITY_CONFLICT"
  | .proposalNotSubmitted => js "PROPOSAL_NOT_SUBMITTED"
  | .duplicateProposalTransition => js "DUPLICATE_PROPOSAL_TRANSITION"
  | .illegalAdmissionTransition => js "ILLEGAL_ADMISSION_TRANSITION"
  | .receiptIdentityConflict => js "RECEIPT_IDENTITY_CONFLICT"
  | .duplicateReceiptTransition => js "DUPLICATE_RECEIPT_TRANSITION"
  | .duplicateTaskTransition => js "DUPLICATE_TASK_TRANSITION"
  | .admissionQuotaInconsistent => js "ADMISSION_QUOTA_INCONSISTENT"
  | .duplicateAdmissionTransition => js "DUPLICATE_ADMISSION_TRANSITION"
  | .admissionIdentityConflict => js "ADMISSION_IDENTITY_CONFLICT"
  | .quotaIdentityConflict => js "QUOTA_IDENTITY_CONFLICT"
  | .policyAuthorityUnavailable => js "POLICY_AUTHORITY_UNAVAILABLE"
  | .policyDenied => js "POLICY_DENIED"
  | .quotaAuthorityUnavailable => js "QUOTA_AUTHORITY_UNAVAILABLE"
  | .quotaDenied => js "QUOTA_DENIED"
  | .executionWorkspaceBusy => js "EXECUTION_WORKSPACE_BUSY"
  | .executionAlreadyStarted => js "EXECUTION_ALREADY_STARTED"
  | .operationIdReused => js "OPERATION_ID_REUSED"
  | .modelRequired => js "MODEL_REQUIRED"
  | .executionPreflightFailed => js "EXECUTION_PREFLIGHT_FAILED"
  | .planNotReady => js "PLAN_NOT_READY"
  | .artifactMismatch => js "ARTIFACT_MISMATCH"
  | .proposalIdMismatch => js "PROPOSAL_ID_MISMATCH"
  | .unsupportedSchemaVersion => js "UNSUPPORTED_SCHEMA_VERSION"
  | .unsupportedCanonicalizer => js "UNSUPPORTED_CANONICALIZER"
  | .unsupportedHash => js "UNSUPPORTED_HASH"
  | .testFailed => js "TEST_FAILED"
  | .addParentChanged => js "ADD_PARENT_CHANGED"
  | .addTargetExists => js "ADD_TARGET_EXISTS"
  | .pathMissing => js "PATH_MISSING"
  | .valueDigestMismatch => js "VALUE_DIGEST_MISMATCH"
  | .arrayIndexRange => js "ARRAY_INDEX_RANGE"
  | .rootAddForbidden => js "ROOT_ADD_FORBIDDEN"
  | .rootRemoveForbidden => js "ROOT_REMOVE_FORBIDDEN"
  | .duplicateWriteTarget => js "DUPLICATE_WRITE_TARGET"
  | .overlappingWriteTarget => js "OVERLAPPING_WRITE_TARGET"
  | .scopeEscape => js "SCOPE_ESCAPE"
  | .evidenceMismatch => js "EVIDENCE_MISMATCH"
  | .finalDocumentUnchanged => js "FINAL_DOCUMENT_UNCHANGED"
  | .policyInputInvalid => js "POLICY_INPUT_INVALID"
  | .policyClockInvalid => js "POLICY_CLOCK_INVALID"
  | .policyCursorInvalid => js "POLICY_CURSOR_INVALID"
  | .policyApprovalInvalid => js "POLICY_APPROVAL_INVALID"
  | .policySubjectInvalid => js "POLICY_SUBJECT_INVALID"
  | .policyEvidenceInvalid => js "POLICY_EVIDENCE_INVALID"
  | .policyRuleInvalid => js "POLICY_RULE_INVALID"
  | .policyDocumentInvalid => js "POLICY_DOCUMENT_INVALID"
  | .policyLineageInvalid => js "POLICY_LINEAGE_INVALID"
  | .policyRuleOrderInvalid => js "POLICY_RULE_ORDER_INVALID"
  | .policyDigestMismatch => js "POLICY_DIGEST_MISMATCH"
  | .policyVersionUnsupported => js "POLICY_VERSION_UNSUPPORTED"
  | .policyKindUnsupported => js "POLICY_KIND_UNSUPPORTED"
  | .authorityStateMissing => js "AUTHORITY_STATE_MISSING"
  | .authorityStateSubstituted => js "AUTHORITY_STATE_SUBSTITUTED"
  | .forkPinMismatch => js "FORK_PIN_MISMATCH"
  | .policySubstituted => js "POLICY_SUBSTITUTED"
  | .authorityIdentifierMismatch => js "AUTHORITY_IDENTIFIER_MISMATCH"
  | .roleForbidden => js "ROLE_FORBIDDEN"
  | .capabilityScopeMismatch => js "CAPABILITY_SCOPE_MISMATCH"
  | .crossWorkspaceDenied => js "CROSS_WORKSPACE_DENIED"
  | .grantStale => js "GRANT_STALE"
  | .grantSubstituted => js "GRANT_SUBSTITUTED"
  | .userPresenceRequired => js "USER_PRESENCE_REQUIRED"
  | .recoveryQuorumRequired => js "RECOVERY_QUORUM_REQUIRED"
  | .stackExhausted => js "EXECUTION_FAILED"

def failureCode : Failure → JsString
  | .domain code => DomainError.text code
  | .unknownOutcome _ => js "UNKNOWN_OUTCOME"
  | .conflict _ => js "EXECUTION_FAILED"
  | .integrity => js "EXECUTION_FAILED"
  | .constraint => js "ERR_SQLITE_ERROR"
  | .protocol reason => reason.text
  | .thrown code => code

end Failures

section Streams

variable [Engine]

/-- The events of a run and what they replay to. -/
structure RunStream where
  events : List HashedEventEnvelopeV1
  replay : ReplayResult
  replayed : deterministicReplay events = .ok replay

structure RunHead where
  sequence : Nat
  envelopeHash : JsString
  deriving DecidableEq

def headOf (item : HashedEventEnvelopeV1) : RunHead := ⟨item.envelope.sequence, item.envelopeHash⟩

def RunStream.head (stream : RunStream) : Option RunHead := stream.events.getLast?.map headOf

/-- `deterministicReplay([...events, ...added])`. -/
def RunStream.extend (stream : RunStream) (added : List HashedEventEnvelopeV1) :
    Except DomainError RunStream :=
  match replayed : deterministicReplay (stream.events ++ added) with
  | .ok replay => .ok ⟨stream.events ++ added, replay, replayed⟩
  | .error code => .error code

end Streams

structure WorkspaceHead where
  sequence : Nat
  envelopeHash : JsString
  eventIds : List JsString
  state : WorkspaceState

structure AuthorityStateExpectationV1 where
  stateKind : JsString
  revision : Nat
  stateDigest : JsString
  deriving DecidableEq

/-- A request to append to a run. -/
structure AppendRequest where
  commandId : JsString
  workspaceObservationCursor : CompositeCursorV1
  authorityStateExpectations : Option AuthorityStateExpectationV1
  clientRequestDigest : Option JsString
  expectedSequence : Nat
  expectedEnvelopeHash : JsString
  envelopeHashes : List JsString
  requiredArtifactDigests : List JsString
  deriving DecidableEq

inductive RecordedRequest where
  | append (request : AppendRequest)
  | genesis (cursor : AbsentRunGenesisCursorV1) (envelopeHash : JsString)
  | command (requestDigest : JsString)
  deriving DecidableEq

/-- What `dispatchExisting` records, besides the names that the request has. -/
inductive DispatchResult where
  | launched (adapterHandle providerIdempotencyKey : JsString)
  | reconciled (observedState : DispatchState) (receiptAvailable : Bool)
  deriving DecidableEq

inductive CommandResult where
  | append (clientRequestDigest : Option JsString) (runHead : Option RunHead)
  | dispatch (result : DispatchResult)
  deriving DecidableEq

structure CommandRecord where
  runId : JsString
  commandId : JsString
  request : RecordedRequest
  result : CommandResult
  deriving DecidableEq

structure AuthorityConsumption where
  runId : JsString
  principalId : JsString
  authorityKey : JsString
  commandId : JsString
  deriving DecidableEq

section Store

variable [Engine]

structure Store where
  workspaceId : JsString
  workspace : WorkspaceHead
  runs : Record JsString RunStream
  commands : List CommandRecord
  consumed : List AuthorityConsumption
  /-- The request digests of the operations that issued grants. -/
  issuances : Record JsString JsString

def Store.listRunIds (store : Store) : List JsString :=
  store.runs.keys.insertionSort fun left right => ¬ utf8 right < utf8 left

def Store.command (store : Store) (runId commandId : JsString) : Option CommandRecord :=
  store.commands.find? fun record => record.runId = runId ∧ record.commandId = commandId

def Store.eventIds (store : Store) : List JsString :=
  store.workspace.eventIds ++
    store.runs.values.flatMap fun stream => stream.events.map fun item => item.envelope.eventId

def RunStream.idempotencyKeys (stream : RunStream) : List JsString :=
  stream.events.map fun item => item.envelope.idempotencyKey

def rowsAccepted (store : Store) (stream : RunStream) (added : List HashedEventEnvelopeV1) : Prop :=
  (store.eventIds ++ added.map fun item => item.envelope.eventId).Nodup ∧
    (stream.idempotencyKeys ++ added.map fun item => item.envelope.idempotencyKey).Nodup

instance (store : Store) (stream : RunStream) (added : List HashedEventEnvelopeV1) :
    Decidable (rowsAccepted store stream added) := inferInstanceAs (Decidable (_ ∧ _))

/-- The workspace has not moved since the cursor, nor the authority state. -/
def verifyCurrentObservation (store : Store) (current : AuthorityStateExpectationV1 → Bool)
    (cursor : CompositeCursorV1) (expectations : Option AuthorityStateExpectationV1) :
    Except Failure Unit := do
  ensure (cursor.workspaceId = store.workspaceId) .integrity
  ensure (cursor.workspaceSequence = store.workspace.sequence ∧
    cursor.workspaceEnvelopeHash = store.workspace.envelopeHash ∧
    cursor.workspaceContextEpoch = store.workspace.sequence - 1) (.conflict false)
  ensure (∀ expectation ∈ expectations, current expectation = true) (.conflict false)

def writeAppend (store : Store) (runId : JsString) (request : AppendRequest)
    (events : List HashedEventEnvelopeV1) : Except Failure RunStream := do
  let stream ← required (store.runs.get runId) (.conflict false)
  ensure (stream.head = some ⟨request.expectedSequence, request.expectedEnvelopeHash⟩)
    (.conflict false)
  ensure (rowsAccepted store stream events) .constraint
  (stream.extend events).mapError .domain

/-- Nothing is written where the command is recorded with this very request. -/
def appendAtomic (store : Store) (current : AuthorityStateExpectationV1 → Bool) (runId : JsString)
    (request : AppendRequest) (events : List HashedEventEnvelopeV1) :
    Except Failure (Option Store) :=
  match store.command runId request.commandId with
  | some recorded => do
      ensure (recorded.request = .append request) (.conflict true)
      return none
  | none => do
      verifyCurrentObservation store current request.workspaceObservationCursor
        request.authorityStateExpectations
      let stream ← writeAppend store runId request events
      return some { store with
        runs := store.runs.set runId stream
        commands := store.commands ++ [⟨runId, request.commandId, .append request,
          .append request.clientRequestDigest stream.head⟩] }

def verifyCompositeObservation (store : Store) (runId : JsString) (cursor : CompositeCursorV1) :
    Except Failure Unit := do
  ensure (cursor.workspaceId = store.workspaceId ∧ cursor.runId = runId) .integrity
  let head := (store.runs.get runId).bind RunStream.head
  ensure (cursor.workspaceSequence = store.workspace.sequence ∧
    cursor.workspaceEnvelopeHash = store.workspace.envelopeHash ∧
    cursor.workspaceContextEpoch = store.workspace.sequence - 1 ∧
    head = some ⟨cursor.runSequence, cursor.runEnvelopeHash⟩ ∧
    cursor.runContextEpoch = cursor.runSequence - 1) (.conflict false)

def executionCommandResult (store : Store) (runId commandId requestDigest : JsString) :
    Except Failure (Option CommandResult) :=
  match store.command runId commandId with
  | some recorded => do
      ensure (recorded.request = .command requestDigest) (.conflict true)
      return some recorded.result
  | none => .ok none

def recordCommandResult (store : Store) (current : AuthorityStateExpectationV1 → Bool)
    (runId commandId requestDigest : JsString)
    (observed : Option (CompositeCursorV1 × AuthorityStateExpectationV1)) (result : CommandResult) :
    Except Failure (Option Store) := do
  let previous ← executionCommandResult store runId commandId requestDigest
  match previous with
  | some _ => return none
  | none => do
      observed.toList.forM fun (cursor, expectation) => do
        verifyCompositeObservation store runId cursor
        ensure (current expectation = true) (.conflict false)
      return some { store with
        commands := store.commands ++ [⟨runId, commandId, .command requestDigest, result⟩] }

def committedAppendResult (store : Store) (runId commandId : JsString) : Option CommandResult :=
  (store.command runId commandId).map CommandRecord.result

end Store

end Horseness.ExecutionStore
