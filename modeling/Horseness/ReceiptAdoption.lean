import Horseness.AdmissionService
import Horseness.Recovery

/-!
Receipt adoption: the stored state of an attempt is read back, the receipt is recorded on its
dispatch record and its outcome on the attempt, and both are stored again in one transaction.
-/

namespace Horseness.ReceiptAdoption

open FallibleRuns ScriptText JsonValues JsonText JsonRoundTrip ScriptEngine Canonical Cursors
  ForkContext Tasks AttemptReceipts EventChains IdealDigests SealedValues AuthorityLog AppendLog
  AuthoritySnapshots AdmissionService BoundAttempts LeaseFences ReceiptProjection DispatchRecords
  Turns

open DispatchAuthority (property textOf)

/-- What an adoption is refused with. -/
inductive AdoptionError where
  | dispatch (error : DispatchError)
  | store (error : StoreError)
  deriving DecidableEq

/-- A state as its JSON says it is. -/
structure SerializedRecoveryStateV1 where
  attempt : Serialized BoundAttemptCoreV1
  lease : Option (Serialized LeaseFenceCoreV1)
  record : Serialized DispatchRecordCoreV1

section Readers

def readObservationCursor (value : JsValue) : Option ObservationCursorV1 := do
  literalAt "schemaVersion" "1" value
  match textAt "kind" value with
  | none => none
  | some kind =>
      if kind = js "composite" then return .composite (← readCompositeCursor value)
      else if kind = js "workspace-only" then
        return .workspaceOnly ⟨← textAt "workspaceId" value, ← naturalAt "workspaceSequence" value,
          ← textAt "workspaceEnvelopeHash" value, ← naturalAt "workspaceContextEpoch" value⟩
      else if kind = js "run-only" then
        return .runOnly ⟨← textAt "workspaceId" value, ← textAt "runId" value,
          ← naturalAt "runSequence" value, ← textAt "runEnvelopeHash" value,
          ← naturalAt "runContextEpoch" value⟩
      else if kind = js "absent-run-genesis" then
        return .absentRunGenesis ⟨← textAt "workspaceId" value,
          ← naturalAt "workspaceSequence" value, ← textAt "workspaceEnvelopeHash" value,
          ← naturalAt "workspaceContextEpoch" value, ← textAt "runId" value⟩
      else if kind = js "absent-workspace-genesis" then
        return .absentWorkspaceGenesis ⟨← textAt "workspaceId" value⟩
      else none

def readVersion (value : JsValue) : Option ContextVersionV1 := do
  let cursor ← (property "observationCursor" value).bind readObservationCursor
  match cursor with
  | .composite cursor =>
      return .composite (← naturalAt "workspaceContextEpoch" value)
        (← naturalAt "runContextEpoch" value) cursor
  | .workspaceOnly cursor => return .workspaceOnly (← naturalAt "workspaceContextEpoch" value) cursor
  | .runOnly cursor => return .runOnly (← naturalAt "runContextEpoch" value) cursor
  | _ => none

def readBinding (value : JsValue) : Option AttemptBindingV1 := do
  return {
    attemptId := ← textAt "attemptId" value
    generation := ← naturalAt "generation" value
    forkPinDigest := ← textAt "forkPinDigest" value
    contextManifestCoreDigest := ← textAt "contextManifestCoreDigest" value
    sourceObservationCursor := ← cursorAt "sourceObservationCursor" value
    sourceContextVersion := ← (property "sourceContextVersion" value).bind readVersion
    authorizationObservationCursor :=
      ← (property "authorizationObservationCursor" value).bind readObservationCursor
    authorizationContextVersion := ← (property "authorizationContextVersion" value).bind readVersion
    providerIdempotencyKey := ← textAt "providerIdempotencyKey" value
    allowedProducerPrincipalId := ← textAt "allowedProducerPrincipalId" value
    allowedProducerGrantDigest := ← textAt "allowedProducerGrantDigest" value
    bindingDigest := ← textAt "bindingDigest" value }

def cancellationStates : List AttemptCancellationStateV1 := [.none, .requested, .acknowledged]

def attemptOutcomes : List AttemptOutcomeV1 := [.live, .unknown] ++ terminalStates.map .terminal

def readAttempt (value : JsValue) : Option (Serialized BoundAttemptCoreV1) := do
  let core : BoundAttemptCoreV1 := {
    workspaceId := ← textAt "workspaceId" value
    runId := ← textAt "runId" value
    taskId := ← textAt "taskId" value
    attemptId := ← textAt "attemptId" value
    generation := ← naturalAt "generation" value
    schedulerDecisionDigest := ← textAt "schedulerDecisionDigest" value
    authorizationKey := ← textAt "authorizationKey" value
    binding := ← (property "binding" value).bind readBinding
    bindingDigest := ← textAt "bindingDigest" value
    forkPinDigest := ← textAt "forkPinDigest" value
    contextManifestCoreDigest := ← textAt "contextManifestCoreDigest" value
    cancellation := ← (property "cancellation" value).bind
      (namedBy cancellationStates AttemptCancellationStateV1.text)
    outcome := ← (property "outcome" value).bind (namedBy attemptOutcomes AttemptOutcomeV1.text)
    priorGeneration := ← nullableAt naturalOf "priorGeneration" value }
  return ⟨core, ← textAt "attemptDigest" value⟩

def readLease (value : JsValue) : Option (Serialized LeaseFenceCoreV1) := do
  let core : LeaseFenceCoreV1 := {
    attemptId := ← textAt "attemptId" value
    generation := ← naturalAt "generation" value
    leaseId := ← textAt "leaseId" value
    ownerId := ← textAt "ownerId" value
    bootId := ← textAt "bootId" value
    processId := ← textAt "processId" value
    fenceToken := ← naturalAt "fenceToken" value
    acquiredAt := ← textAt "acquiredAt" value
    expiresAt := ← textAt "expiresAt" value
    durationMs := ← naturalAt "durationMs" value
    authorityCursor := ← cursorAt "authorityCursor" value
    bindingDigest := ← textAt "bindingDigest" value }
  return ⟨core, ← textAt "leaseDigest" value⟩

def dispatchPhases : List DispatchPhaseV1 :=
  [.planned, .intentCommitted, .dispatched, .handleRecorded, .cancelRequested, .cancelHandedOff,
    .reconciliationRequired, .unknownOutcome] ++ terminalStates.map .terminal

def dispatchEventTypes : List DispatchEventTypeV1 :=
  [.launchIntentCommittedV1, .providerDispatchBoundV1, .providerHandleRecordedV1,
    .cancellationRequestedV1, .cancellationHandedOffV1, .dispatchLookupNotFoundV1,
    .dispatchLookupUnsupportedV1, .dispatchReconciliationRequiredV1,
    .dispatchTerminalReceiptRecordedV1]

def readEvent (value : JsValue) : Option DispatchEventV1 := do
  return ⟨← naturalAt "ordinal" value,
    ← (property "eventType" value).bind (namedBy dispatchEventTypes DispatchEventTypeV1.text),
    ← textAt "attemptId" value, ← naturalAt "generation" value, ← textAt "bindingDigest" value,
    ← textAt "eventDigest" value⟩

def readRecord (value : JsValue) : Option (Serialized DispatchRecordCoreV1) := do
  let core : DispatchRecordCoreV1 := {
    attemptId := ← textAt "attemptId" value
    generation := ← naturalAt "generation" value
    bindingDigest := ← textAt "bindingDigest" value
    attemptDigest := ← textAt "attemptDigest" value
    phase := ← (property "phase" value).bind (namedBy dispatchPhases DispatchPhaseV1.text)
    providerId := ← nullableAt textItem "providerId" value
    idempotencyKey := ← nullableAt textItem "idempotencyKey" value
    intentDigest := ← nullableAt textItem "intentDigest" value
    operationId := ← nullableAt textItem "operationId" value
    providerHandle := ← nullableAt textItem "providerHandle" value
    cancellationRequested := ← flagAt "cancellationRequested" value
    events := ← listAt readEvent "events" value }
  return ⟨core, ← textAt "recordDigest" value⟩

def SerializedRecoveryStateV1.toJson (state : SerializedRecoveryStateV1) : JsValue :=
  object [("attempt", withField "attemptDigest" (.str state.attempt.digest) state.attempt.core.toJson),
    ("lease", nullable (fun lease : Serialized LeaseFenceCoreV1 =>
      withField "leaseDigest" (.str lease.digest) lease.core.toJson) state.lease),
    ("dispatch", withField "recordDigest" (.str state.record.digest) state.record.core.toJson)]

def readState (value : JsValue) : Option SerializedRecoveryStateV1 := do
  let lease ← property "lease" value
  return ⟨← (property "attempt" value).bind readAttempt,
    ← if DispatchAuthority.isNull lease then some none else (readLease lease).map some,
    ← (property "dispatch" value).bind readRecord⟩

def readRecoveryState [NumberFormat] (value : JsValue) : Option SerializedRecoveryStateV1 :=
  (readState value).filter fun state => serialize state.toJson = serialize value

end Readers

section Adoption

variable [Engine]

structure RecoveryStateV1 where
  attempt : BoundAttemptV1
  lease : LeaseFenceV1
  record : DispatchRecordV1

structure AdoptionInput where
  workspaceId : JsString
  runId : JsString
  attemptId : JsString
  generation : Nat
  commandId : JsString
  event : VerifiedReceiptEventV1
  receiptAuthority : VerifiedAttemptAuthorityV1

def AdoptionInput.key (input : AdoptionInput) : DispatchKey :=
  ⟨input.workspaceId, input.runId, input.attemptId, input.generation⟩

/-- The row of the attempt at the heads of its streams, read in a session of its workspace. -/
def dispatchAuthority (key : DispatchKey) (state : Authority) :
    Except StoreError (CompositeCursorV1 × DispatchRow) := do
  let workspaceEvents ← authenticatedRows state (.workspace key.workspaceId)
  let runEvents ← authenticatedRows state (.run key.workspaceId key.runId)
  let missing := StoreError.integrity (js "trusted authority requires existing workspace and run streams")
  let cursor ← (currentCursor key.workspaceId key.runId workspaceEvents runEvents).mapError
    fun _ => missing
  let stale := StoreError.conflict (js "dispatch authority is missing or stale")
  let row ← required (state.dispatches.get key) stale
  ensure (row.runSequence = cursor.runSequence ∧ row.runEnvelopeHash = cursor.runEnvelopeHash ∧
    row.workspaceSequence = cursor.workspaceSequence ∧
    row.workspaceEnvelopeHash = cursor.workspaceEnvelopeHash) stale
  return (cursor, row)

def rehydrateRecoveryState (attempt : Serialized BoundAttemptCoreV1)
    (lease : Serialized LeaseFenceCoreV1) (record : Serialized DispatchRecordCoreV1) :
    Except DispatchError RecoveryStateV1 := do
  let attempt ← rehydrateBoundAttempt attempt
  let lease ← rehydrateLeaseFence lease
  let record ← rehydrateDispatchRecord record
  assertDispatchBinding record attempt
  ensure (lease.core.identity = attempt.core.identity) .recoveryStateBindingMismatch
  return ⟨attempt, lease, record⟩

def outcomeOf : DispatchPhaseV1 → AttemptOutcomeV1
  | .terminal outcome => .terminal outcome
  | _ => .unknown

def currentState (key : DispatchKey) (state : Authority) :
    Except AdoptionError (CompositeCursorV1 × RecoveryStateV1) := do
  let (cursor, row) ← (dispatchAuthority key state).mapError AdoptionError.store
  let raw ← required ((parse row.stateJson).bind readRecoveryState)
    (.dispatch .recoveryStateSchemaInvalid)
  let lease ← required raw.lease (.dispatch .recoveryStateBindingMismatch)
  let current ← (rehydrateRecoveryState raw.attempt lease raw.record).mapError AdoptionError.dispatch
  return (cursor, current)

structure AtomicReceiptAdoptionResultV1 extends RecoveryStateV1 where
  deduplicated : Bool

def replacement (input : AdoptionInput) (cursor : CompositeCursorV1) (current : RecoveryStateV1)
    (attempt : BoundAttemptV1) (record : DispatchRecordV1) :
    DispatchAuthority.PersistDispatchAuthorityRequestV1 :=
  { workspaceId := input.workspaceId
    runId := input.runId
    attemptId := input.attemptId
    generation := input.generation
    authorityCursor := cursor
    state := ⟨BoundAttemptV1.toJson attempt, LeaseFenceV1.toJson current.lease,
      DispatchRecordV1.toJson record⟩
    expectedAttemptDigest := some current.attempt.digest
    expectedLeaseDigest := some current.lease.digest
    expectedDispatchDigest := some current.record.digest
    commandId := input.commandId }

def adoptStoredTerminalReceiptAtomic (input : AdoptionInput) (state : Authority) :
    Except AdoptionError (AtomicReceiptAdoptionResultV1 × Authority) := do
  let (cursor, current) ← currentState input.key state
  let record ← (recordAuthenticatedTerminalReceipt current.record input.event
    input.receiptAuthority).mapError AdoptionError.dispatch
  let recorded ← (recordAttemptOutcome current.attempt
    (outcomeOf record.core.phase)).mapError AdoptionError.dispatch
  let (answer, after) ← (DispatchAuthority.persistDispatchAuthorityAtomic
    (replacement input cursor current recorded.attempt record) state).mapError AdoptionError.store
  return (⟨⟨recorded.attempt, current.lease, record⟩, answer.deduplicated⟩, after)

end Adoption

section Digests

variable [Engine] {request : DispatchAuthority.PersistDispatchAuthorityRequestV1}
  {facts : DispatchAuthority.DispatchFacts} {row : DispatchRow} {state after : Authority}

def attemptDigestOf (value : JsValue) : Option JsString :=
  textOf ((property "attempt" value).bind (property "attemptDigest"))

omit [Engine] in
theorem digest_normalize (value : JsValue) :
    attemptDigestOf (normalize value) = attemptDigestOf value := by
  have texts (found : Option JsValue) : textOf (found.map normalize) = textOf found := by
    cases found with
    | none => rfl
    | some inner =>
        cases inner with
        | num number => cases number <;> rfl
        | _ => rfl
  unfold attemptDigestOf
  rw [DispatchAuthority.property_normalize]
  cases property "attempt" value with
  | none => rfl
  | some attempt =>
      rw [Option.map_some, Option.bind_some, Option.bind_some, DispatchAuthority.property_normalize,
        texts]

theorem digest_serialize {left right : JsValue} (same : serialize left = serialize right) :
    attemptDigestOf left = attemptDigestOf right := by
  rw [← digest_normalize left, ← digest_normalize right,
    normalize_eq_of_meaning left right ((serialize_eq_iff left right).mp same)]

theorem stored_digest (stored : DispatchAuthority.Stored row request facts) :
    attemptDigestOf request.state.toJson = some row.attemptDigest ∧
      row.stateJson = serialize request.state.toJson := by
  constructor
  · have read := stored.read
    simp only [DispatchAuthority.dispatchFacts, bind_ok_iff, required_ok_iff] at read
    rcases read with ⟨digest, named, _, _, _, _, _, _, _, _, read⟩
    have same : facts.attemptDigest = digest := by
      split at read
      · simp only [bind_ok_iff, pure_ok_iff] at read
        rcases read with ⟨_, _, _, _, _, _, _, _, _, _, rfl⟩
        rfl
      · rw [pure_ok_iff] at read
        exact congrArg DispatchAuthority.DispatchFacts.attemptDigest read.symm
    rw [stored.attemptDigest, same]
    exact named
  · exact ((canonical_ok_iff _ _).mp stored.text).2.symm

theorem persisted_digest {answer : DispatchAuthority.DispatchAnswer}
    (rows : DispatchAuthority.RowsStored state) (found : state.dispatches.get request.key = some row)
    (accepted : DispatchAuthority.persistDispatchAuthorityAtomic request state = .ok (answer, after)) :
    attemptDigestOf request.state.toJson = some row.attemptDigest := by
  rcases rows request.key row found with ⟨earlier, past, stored⟩
  rcases DispatchAuthority.persist_effect rows accepted with
    ⟨same, _, _, there, command⟩ | ⟨_, ⟨new, facts, _, _, _, written, replaced⟩⟩
  · -- the command's last state is stored as it is
    simp only [DispatchAuthority.persistDispatchAuthorityAtomic, bind_ok_iff] at accepted
    rcases accepted with ⟨⟨_, stateJson⟩, checked, _, _, _, _, _, _, accepted⟩
    have text := ((canonical_ok_iff _ _).mp (DispatchAuthority.validated_ok_iff.mp checked).2.2.2.2).2
    obtain rfl : row = same := Option.some.inj (found.symm.trans there)
    have mine : (state.dispatches.get request.key).filter
        (fun row => row.commandId = request.commandId) = some row := by
      simp [found, command]
    simp only [mine, bind_ok_iff, ensure_ok_iff, pure_ok_iff] at accepted
    rcases accepted with ⟨_, kept, _⟩
    have both := stored_digest stored
    rw [← both.1]
    exact digest_serialize (text.trans (kept.symm.trans both.2))
  · rw [found] at replaced
    cases replaced with
    | moved _ _ _ _ _ bound _ _ _ =>
        rw [(stored_digest written).1, bound]

end Digests

section Refusals

variable [Engine] {input : AdoptionInput} {state : Authority} {cursor : CompositeCursorV1}
  {current : RecoveryStateV1}

theorem current_digest (rows : DispatchAuthority.RowsStored state)
    (loaded : currentState input.key state = .ok (cursor, current)) :
    ∃ row, state.dispatches.get input.key = some row ∧ current.attempt.digest = row.attemptDigest := by
  simp only [currentState, bind_ok_iff, map_error_ok_iff, required_ok_iff, pure_ok_iff,
    Prod.mk.injEq] at loaded
  rcases loaded with ⟨⟨_, row⟩, read, raw, typed, lease, _, rebuilt, made, rfl, rfl⟩
  simp only [dispatchAuthority, bind_ok_iff, required_ok_iff, pure_ok_iff, Prod.mk.injEq] at read
  rcases read with ⟨_, _, _, _, _, _, found, there, _, _, rfl, rfl⟩
  refine ⟨found, there, ?_⟩
  rcases rows _ _ there with ⟨request, facts, stored⟩
  rcases stored_digest stored with ⟨digest, text⟩
  rw [text, parse_serialize, Option.bind_some, readRecoveryState, Option.filter_eq_some_iff] at typed
  have same := digest_serialize (of_decide_eq_true typed.2)
  rw [digest_normalize, digest] at same
  simp only [rehydrateRecoveryState, bind_ok_iff, pure_ok_iff, ensure_ok_iff] at made
  rcases made with ⟨attempt, rehydrated, _, _, _, _, _, _, _, _, rfl⟩
  have kept := congrArg Serialized.digest (rehydrate_ok_iff.mp rehydrated).1
  have digests : some raw.attempt.digest = some found.attemptDigest := same
  exact kept.trans (Option.some.inj digests)

-- An attempt that has taken an outcome has another digest than the live one.
theorem outcome_digest (ideal : Function.Injective Engine.sha256Hex) {attempt other : BoundAttemptV1}
    (live : attempt.core.outcome = .live) (ended : other.core.outcome ≠ .live) :
    other.digest ≠ attempt.digest := by
  intro same
  have texts := normalize_eq_of_meaning _ _ (sealed_meaning ideal same)
  have outcomes := congrArg (property "outcome") texts
  rw [DispatchAuthority.property_normalize, DispatchAuthority.property_normalize] at outcomes
  have named : other.core.outcome.text = attempt.core.outcome.text := by
    injection Option.some.inj outcomes
  rw [live] at named
  cases shape : other.core.outcome with
  | live => exact ended shape
  | unknown =>
      rw [shape] at named
      exact absurd named (by decide)
  | terminal outcome =>
      rw [shape] at named
      cases outcome <;> exact absurd named (by decide)

-- the outcome makes another attempt of it than the one that is stored
theorem never_adopted (ideal : Function.Injective Engine.sha256Hex)
    (rows : DispatchAuthority.RowsStored state)
    (loaded : currentState input.key state = .ok (cursor, current))
    (live : current.attempt.core.outcome = .live) :
    ∃ failure, adoptStoredTerminalReceiptAtomic input state = .error failure := by
  cases adopted : adoptStoredTerminalReceiptAtomic input state with
  | error failure => exact ⟨failure, rfl⟩
  | ok answered =>
      rcases answered with ⟨result, after⟩
      simp only [adoptStoredTerminalReceiptAtomic, bind_ok_iff, map_error_ok_iff] at adopted
      rcases adopted with ⟨⟨_, _⟩, again, made, received, recorded, outcome, ⟨answer, _⟩, persisted, _⟩
      obtain ⟨rfl, rfl⟩ := Prod.mk.inj (Except.ok.inj (loaded.symm.trans again))
      rcases current_digest rows loaded with ⟨row, found, digest⟩
      have kept : some recorded.attempt.digest = some row.attemptDigest :=
        @persisted_digest _ (replacement input cursor current recorded.attempt _) _ _ _ _ rows found
          persisted
      have ended := live_outcome live outcome
      exact absurd ((Option.some.inj kept).trans digest.symm)
        (outcome_digest ideal live (ended.2.1 ▸ ended.1))

/-- The receipt is adopted: what is stored then is read back with its outcome. -/
def Adopts (input : AdoptionInput) (state : Authority) : Prop :=
  ∃ result after cursor current, adoptStoredTerminalReceiptAtomic input state = .ok (result, after) ∧
    currentState input.key after = .ok (cursor, current) ∧
    current.record.core.phase = .terminal input.event.receipt.outcome ∧
    current.attempt.core.outcome = .terminal input.event.receipt.outcome

variable {labels : List DispatchAuthority.Persisted}

/-- A receipt is never adopted for an attempt that is live. -/
theorem adoption_refused (ideal : Function.Injective Engine.sha256Hex)
    (run : Runs DispatchAuthority.DispatchStep Authority.fresh labels state)
    (loaded : currentState input.key state = .ok (cursor, current))
    (live : current.attempt.core.outcome = .live) :
    ¬ Adopts input state ∧
      ∃ failure, adoptStoredTerminalReceiptAtomic input state = .error failure := by
  have rows := (DispatchAuthority.dispatch_invariant run).stored
  rcases never_adopted ideal rows loaded live with ⟨failure, refused⟩
  refine ⟨?_, failure, refused⟩
  rintro ⟨_, _, _, _, adopted, _⟩
  rw [refused] at adopted
  cases adopted

end Refusals

section Recorded

def workspaceEnvelope : EventEnvelopeV1 :=
  { DispatchAuthority.workspaceEvent.envelope with payloadHash := js "wp" }

def runEnvelope : EventEnvelopeV1 :=
  { DispatchAuthority.runEvent.envelope with payloadHash := js "rp" }

def createdCursor : CompositeCursorV1 :=
  ⟨js "w", 1, js "we", 0, js "r", 1, js "re", 0⟩

def storedAttempt : BoundAttemptCoreV1 :=
  { workspaceId := js "w"
    runId := js "r"
    taskId := js "t"
    attemptId := js "a"
    generation := 1
    schedulerDecisionDigest := js "s"
    authorizationKey := js "k"
    binding := ⟨RecordedRuns.sampleBinding (js "a") 1 (js "f") (js "m"), js "b"⟩
    bindingDigest := js "b"
    forkPinDigest := js "f"
    contextManifestCoreDigest := js "m"
    cancellation := .none
    outcome := .live
    priorGeneration := none }

def storedLease : LeaseFenceCoreV1 :=
  { attemptId := js "a"
    generation := 1
    leaseId := js "l"
    ownerId := js "one"
    bootId := js "b"
    processId := js "p"
    fenceToken := 1
    acquiredAt := RecordedRuns.startOfYear
    expiresAt := RecordedRuns.secondLater
    durationMs := 1000
    authorityCursor := createdCursor
    bindingDigest := js "b" }

def storedRecord : DispatchRecordCoreV1 :=
  { attemptId := js "a"
    generation := 1
    bindingDigest := js "b"
    attemptDigest := js "at"
    phase := .intentCommitted
    providerId := some (js "p")
    idempotencyKey := some (js "k")
    intentDigest := some (js "i")
    operationId := none
    providerHandle := none
    cancellationRequested := false
    events := [⟨1, .launchIntentCommittedV1, js "a", 1, js "b", js "ev"⟩] }

def adoptionDigests : List (JsString × JsString) :=
  let hashed (domain : String) (value : JsValue) : JsString :=
    js domain ++ 0 :: @serialize RecordedRuns.recordedNumbers value
  [(hashed "horseness.event-payload.v1" workspaceEnvelope.payload.toJson, js "wp"),
    (hashed "horseness.event-envelope.v1" workspaceEnvelope.toJson, js "we"),
    (hashed "horseness.event-payload.v1" runEnvelope.payload.toJson, js "rp"),
    (hashed "horseness.event-envelope.v1" runEnvelope.toJson, js "re"),
    (hashed "horseness.attempt-context-binding.v1"
      storedAttempt.binding.toAttemptContextBindingV1.toJson, js "b"),
    (hashed "horseness.bound-attempt.v1" storedAttempt.toJson, js "at"),
    (hashed "horseness.lease-fence.v1" storedLease.toJson, js "le"),
    (hashed "horseness.dispatch-event.v1" (DispatchEventV1.core
      ⟨1, .launchIntentCommittedV1, js "a", 1, js "b", js "ev"⟩), js "ev"),
    (hashed "horseness.dispatch-record.v1" storedRecord.toJson, js "dr")]

@[reducible] def adoptionEngine : Engine :=
  { leaseEngine with sha256Hex := tableDigest adoptionDigests }

theorem adoption_engine_ideal : Function.Injective adoptionEngine.sha256Hex :=
  table_injective (table_of_digests (by decide +kernel) (by decide +kernel))

attribute [local instance] adoptionEngine

def createWorkspace : StoreRequest :=
  .append { DispatchAuthority.emptyAppend "c1" with
    workspace := some ⟨.workspace, js "w", js "w", 0, none, [⟨workspaceEnvelope, js "we"⟩]⟩ }

def createRun : StoreRequest :=
  .append { DispatchAuthority.emptyAppend "c2" with
    runGenesis := some ⟨⟨js "w", 1, js "we", 0, js "r"⟩, ⟨runEnvelope, js "re"⟩⟩ }

def storeLaunch : DispatchAuthority.PersistDispatchAuthorityRequestV1 :=
  { workspaceId := js "w"
    runId := js "r"
    attemptId := js "a"
    generation := 1
    authorityCursor := createdCursor
    state :=
      { attempt := withField "attemptDigest" (.str (js "at")) storedAttempt.toJson
        lease := withField "leaseDigest" (.str (js "le")) storedLease.toJson
        dispatch := withField "recordDigest" (.str (js "dr")) storedRecord.toJson }
    expectedAttemptDigest := none
    expectedLeaseDigest := none
    expectedDispatchDigest := none
    commandId := js "c3" }

def launchedStore : Authority :=
  (DispatchAuthority.serveDispatch storeLaunch (serve openSession createRun
    (serve openSession createWorkspace Authority.fresh).2).2).2

theorem launch_stored : Runs DispatchAuthority.DispatchStep Authority.fresh
    [⟨storeLaunch, (DispatchAuthority.serveDispatch storeLaunch (serve openSession createRun
      (serve openSession createWorkspace Authority.fresh).2).2).1⟩] launchedStore := by
  have founded : Runs DispatchAuthority.DispatchStep Authority.fresh []
      (serve openSession createWorkspace Authority.fresh).2 :=
    Runs.start.step (DispatchAuthority.served_step openSession createWorkspace _)
  have created : Runs DispatchAuthority.DispatchStep Authority.fresh []
      (serve openSession createRun (serve openSession createWorkspace Authority.fresh).2).2 :=
    founded.step (DispatchAuthority.served_step openSession createRun _)
  have stored := created.step (DispatchAuthority.persisted_step storeLaunch _)
  rw [List.nil_append] at stored
  rw [launchedStore]
  exact stored

def adoptedReceiptCore : AttemptReceiptCoreV1 :=
  { workspaceId := js "w"
    runId := js "r"
    taskId := js "t"
    attemptId := js "a"
    generation := 1
    attemptContextBindingDigest := js "b"
    contextManifestCoreDigest := js "m"
    forkPinDigest := js "f"
    providerId := js "p"
    providerOperationId := js "o"
    providerIdempotencyKeyDigest := js "k"
    producerPrincipalId := js "u"
    producerGrantDigest := js "g"
    adapterId := js "codex"
    adapterVersion := js "1"
    hostId := js "h"
    hostVersion := js "1"
    outcome := .failed
    startedAt := RecordedRuns.startOfYear
    finishedAt := RecordedRuns.secondLater
    outputDigest := none
    evidence := []
    provenance := object []
    nonce := js "n" }

def adoptedAuthority : VerifiedAttemptAuthorityV1 :=
  { binding :=
      { attemptId := js "a"
        generation := 1
        digest := js "b"
        contextManifestCoreDigest := js "m"
        forkPinDigest := js "f"
        providerId := js "p"
        providerOperationId := js "o"
        providerIdempotencyKeyDigest := js "k"
        allowedProducerPrincipalId := js "u"
        allowedProducerGrantDigest := js "g" }
    providerHandle := none
    grant := ⟨js "u", js "g", false⟩
    dispatch := ⟨js "a", 1, js "p", js "o", js "k", none⟩
    issued := ⟨rfl, rfl, rfl, rfl⟩ }

def sampleAdoption : Except DomainError AdoptionInput := do
  let receipt ← sealAttemptReceipt adoptedReceiptCore
  if verified : verifyAttemptReceipt receipt = .ok () then
    return ⟨js "w", js "r", js "a", 1, js "c4", ⟨2, js "e", js "u", receipt, by omega, verified⟩,
      adoptedAuthority⟩
  else throw .receiptMismatch

def adoptable (input : AdoptionInput) : Bool :=
  decide (input.key = storeLaunch.key) && endsIn (fun loaded : CompositeCursorV1 × RecoveryStateV1 =>
    decide (loaded.2.attempt.core.outcome = .live) &&
      decide (loaded.2.record.core.phase = .intentCommitted) &&
      endsIn (fun record => decide (record.core.phase = .terminal .failed))
        (recordAuthenticatedTerminalReceipt loaded.2.record input.event input.receiptAuthority))
    (currentState input.key launchedStore)

instance launch_adoptable : Fact (endsIn adoptable sampleAdoption = true) := ⟨by decide +kernel⟩

/-- The receipt of a launched attempt is not adopted. -/
theorem launched_not_adopted : ¬ ∀ (labels : List DispatchAuthority.Persisted) (state : Authority)
    (input : AdoptionInput) (cursor : CompositeCursorV1) (current : RecoveryStateV1)
    (record : DispatchRecordV1), Runs DispatchAuthority.DispatchStep Authority.fresh labels state →
      currentState input.key state = .ok (cursor, current) →
      current.attempt.core.outcome = .live → current.record.core.phase ≠ .planned →
      terminal current.record.core.phase = false →
      recordAuthenticatedTerminalReceipt current.record input.event input.receiptAuthority =
        .ok record → Adopts input state := by
  intro claim
  rcases ends_in_exists launch_adoptable.out with ⟨input, _, ready⟩
  simp only [adoptable, Bool.and_eq_true, decide_eq_true_eq] at ready
  rcases ends_in_exists ready.2 with ⟨⟨cursor, current⟩, loaded, found⟩
  simp only [Bool.and_eq_true, decide_eq_true_eq] at found
  rcases found with ⟨⟨live, launched⟩, received⟩
  rcases ends_in_exists received with ⟨record, accepted, _⟩
  have adopted := claim _ _ input cursor current record launch_stored loaded live
    (by rw [launched]; decide) (by rw [launched]; rfl) accepted
  rcases never_adopted adoption_engine_ideal (DispatchAuthority.dispatch_invariant launch_stored).stored
    loaded live with ⟨failure, refused⟩
  rcases adopted with ⟨_, _, _, _, adopted, _⟩
  rw [refused] at adopted
  cases adopted

/-- It is refused. -/
theorem launched_refused : ∃ (input : AdoptionInput) (failure : AdoptionError),
    input.key = storeLaunch.key ∧
      adoptStoredTerminalReceiptAtomic input launchedStore = .error failure := by
  rcases ends_in_exists launch_adoptable.out with ⟨input, _, ready⟩
  simp only [adoptable, Bool.and_eq_true, decide_eq_true_eq] at ready
  rcases ends_in_exists ready.2 with ⟨⟨cursor, current⟩, loaded, found⟩
  simp only [Bool.and_eq_true, decide_eq_true_eq] at found
  rcases adoption_refused adoption_engine_ideal launch_stored loaded found.1.1 with
    ⟨_, failure, refused⟩
  exact ⟨input, failure, ready.1, refused⟩

end Recorded

end Horseness.ReceiptAdoption
