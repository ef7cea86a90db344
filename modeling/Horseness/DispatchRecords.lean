import Horseness.LeaseFences
import Horseness.ReceiptProjection

/-!
The dispatch record of an attempt. Its operations seal a new record each; three of them call
the provider on the way, and what they have called stays called when they are refused later.
-/

namespace Horseness.DispatchRecords

open FallibleRuns ScriptText JsonValues ScriptEngine Canonical PlainObjects Tasks SealedValues
  BoundAttempts LeaseFences ReceiptProjection Turns RecordedRuns

inductive ProviderLookupResultV1 where
  | found (operationId handle : JsString)
  | notFound
  | unsupported
  deriving DecidableEq

structure ProviderDispatchRequestV1 where
  providerId : JsString
  workspaceId : JsString
  runId : JsString
  taskId : JsString
  attemptId : JsString
  generation : Nat
  bindingDigest : JsString
  idempotencyKey : JsString
  intentDigest : JsString
  deriving DecidableEq

structure ProviderLookupRequestV1 where
  providerId : JsString
  attemptId : JsString
  generation : Nat
  bindingDigest : JsString
  idempotencyKey : JsString
  operationId : Option JsString
  deriving DecidableEq

structure ProviderCancelRequestV1 extends ProviderLookupRequestV1 where
  handle : Option JsString
  deriving DecidableEq

structure ProviderDispatchResult where
  operationId : JsString
  handle : Option JsString

/-- What a provider answers; nothing where it throws. -/
structure ProviderAdapterV1 where
  providerId : JsString
  dispatch : ProviderDispatchRequestV1 → Option ProviderDispatchResult
  lookup : ProviderLookupRequestV1 → Option ProviderLookupResultV1
  cancel : ProviderCancelRequestV1 → Option Bool

inductive ProviderCall where
  | dispatch (request : ProviderDispatchRequestV1)
  | lookup (request : ProviderLookupRequestV1)
  | cancel (request : ProviderCancelRequestV1)
  deriving DecidableEq

def ProviderCall.idempotencyKey : ProviderCall → JsString
  | .dispatch request => request.idempotencyKey
  | .lookup request => request.idempotencyKey
  | .cancel request => request.idempotencyKey

def ProviderCall.isDispatch : ProviderCall → Bool
  | .dispatch _ => true
  | _ => false

def ProviderCall.isLookup : ProviderCall → Bool
  | .lookup _ => true
  | _ => false

inductive DispatchPhaseV1 where
  | planned
  | intentCommitted
  | dispatched
  | handleRecorded
  | cancelRequested
  | cancelHandedOff
  | reconciliationRequired
  | unknownOutcome
  | terminal (outcome : AttemptTerminalState)
  deriving DecidableEq

inductive DispatchEventTypeV1 where
  | launchIntentCommittedV1
  | providerDispatchBoundV1
  | providerHandleRecordedV1
  | cancellationRequestedV1
  | cancellationHandedOffV1
  | dispatchLookupNotFoundV1
  | dispatchLookupUnsupportedV1
  | dispatchReconciliationRequiredV1
  | dispatchTerminalReceiptRecordedV1
  deriving DecidableEq

def DispatchPhaseV1.text : DispatchPhaseV1 → JsString
  | .planned => js "planned"
  | .intentCommitted => js "intent_committed"
  | .dispatched => js "dispatched"
  | .handleRecorded => js "handle_recorded"
  | .cancelRequested => js "cancel_requested"
  | .cancelHandedOff => js "cancel_handed_off"
  | .reconciliationRequired => js "reconciliation_required"
  | .unknownOutcome => js "unknown_outcome"
  | .terminal outcome => outcome.text

def DispatchEventTypeV1.text : DispatchEventTypeV1 → JsString
  | .launchIntentCommittedV1 => js "LaunchIntentCommittedV1"
  | .providerDispatchBoundV1 => js "ProviderDispatchBoundV1"
  | .providerHandleRecordedV1 => js "ProviderHandleRecordedV1"
  | .cancellationRequestedV1 => js "CancellationRequestedV1"
  | .cancellationHandedOffV1 => js "CancellationHandedOffV1"
  | .dispatchLookupNotFoundV1 => js "DispatchLookupNotFoundV1"
  | .dispatchLookupUnsupportedV1 => js "DispatchLookupUnsupportedV1"
  | .dispatchReconciliationRequiredV1 => js "DispatchReconciliationRequiredV1"
  | .dispatchTerminalReceiptRecordedV1 => js "DispatchTerminalReceiptRecordedV1"

structure DispatchEventV1 where
  ordinal : Nat
  eventType : DispatchEventTypeV1
  attemptId : JsString
  generation : Nat
  bindingDigest : JsString
  eventDigest : JsString
  deriving DecidableEq

structure DispatchRecordCoreV1 where
  attemptId : JsString
  generation : Nat
  bindingDigest : JsString
  attemptDigest : JsString
  phase : DispatchPhaseV1
  providerId : Option JsString
  idempotencyKey : Option JsString
  intentDigest : Option JsString
  operationId : Option JsString
  providerHandle : Option JsString
  cancellationRequested : Bool
  events : List DispatchEventV1
  deriving DecidableEq

def DispatchEventV1.core (event : DispatchEventV1) : JsValue :=
  object [("schemaVersion", .str (js "1")), ("ordinal", natural event.ordinal),
    ("eventType", .str event.eventType.text), ("attemptId", .str event.attemptId),
    ("generation", natural event.generation), ("bindingDigest", .str event.bindingDigest)]

def DispatchEventV1.toJson (event : DispatchEventV1) : JsValue :=
  withField "eventDigest" (.str event.eventDigest) event.core

def DispatchRecordCoreV1.toJson (core : DispatchRecordCoreV1) : JsValue :=
  object [("schemaVersion", .str (js "1")), ("attemptId", .str core.attemptId),
    ("generation", natural core.generation), ("bindingDigest", .str core.bindingDigest),
    ("attemptDigest", .str core.attemptDigest), ("phase", .str core.phase.text),
    ("providerId", nullable .str core.providerId),
    ("idempotencyKey", nullable .str core.idempotencyKey),
    ("intentDigest", nullable .str core.intentDigest),
    ("operationId", nullable .str core.operationId),
    ("providerHandle", nullable .str core.providerHandle),
    ("cancellationRequested", .bool core.cancellationRequested),
    ("events", .arr (core.events.map DispatchEventV1.toJson))]

def DispatchRecordCoreV1.identity (core : DispatchRecordCoreV1) : AttemptIdentity :=
  ⟨core.attemptId, core.generation, core.bindingDigest⟩

def terminal : DispatchPhaseV1 → Bool
  | .terminal _ => true
  | _ => false

section Records

variable [Engine]

abbrev DispatchRecordV1 := Sealed (js "horseness.dispatch-record.v1") DispatchRecordCoreV1.toJson

def DispatchRecordV1.toJson (record : DispatchRecordV1) : JsValue :=
  withField "recordDigest" (.str record.digest) record.core.toJson

def sealRecord (core : DispatchRecordCoreV1) : Except DispatchError DispatchRecordV1 :=
  (sealCore _ _ core).mapError .domain

def eventDigest (event : DispatchEventV1) : Except DispatchError JsString :=
  (domainDigest (js "horseness.dispatch-event.v1") event.core).mapError .domain

/-- The events are the first ones of the record's attempt, in order. -/
def validateEvents (core : DispatchRecordCoreV1) : Except DispatchError Unit :=
  (core.events.zipIdx 1).forM fun (event, ordinal) => do
    ensure (event.ordinal = ordinal ∧ event.attemptId = core.attemptId ∧
      event.generation = core.generation ∧ event.bindingDigest = core.bindingDigest)
      .dispatchRecordInvalid
    let digest ← eventDigest event
    ensure (event.eventDigest = digest) .dispatchRecordInvalid

def rehydrateDispatchRecord (value : Serialized DispatchRecordCoreV1) :
    Except DispatchError DispatchRecordV1 := do
  let record ← sealRecord value.core
  ensure (value.digest = record.digest) .dispatchRecordDigestMismatch
  ensure (1 ≤ value.core.generation ∧ value.core.attemptId ≠ [] ∧ value.core.bindingDigest ≠ [] ∧
    value.core.attemptDigest ≠ []) .dispatchRecordInvalid
  validateEvents value.core
  return record

def event (core : DispatchRecordCoreV1) (eventType : DispatchEventTypeV1) :
    Except DispatchError DispatchEventV1 := do
  let added : DispatchEventV1 :=
    ⟨core.events.length + 1, eventType, core.attemptId, core.generation, core.bindingDigest, []⟩
  let digest ← eventDigest added
  return { added with eventDigest := digest }

def evolve (record : DispatchRecordV1) (changed : DispatchRecordCoreV1)
    (eventType : DispatchEventTypeV1) : Except DispatchError DispatchRecordV1 := do
  let added ← event record.core eventType
  sealRecord { changed with events := record.core.events ++ [added] }

def createDispatchRecord (attempt : BoundAttemptV1) : Except DispatchError DispatchRecordV1 := do
  ensure (attempt.core.outcome = .live) .dispatchAttemptInvalid
  sealRecord {
    attemptId := attempt.core.attemptId
    generation := attempt.core.generation
    bindingDigest := attempt.core.bindingDigest
    attemptDigest := attempt.digest
    phase := .planned
    providerId := none
    idempotencyKey := none
    intentDigest := none
    operationId := none
    providerHandle := none
    cancellationRequested := false
    events := [] }

def assertDispatchBinding (record : DispatchRecordV1) (attempt : BoundAttemptV1) :
    Except DispatchError Unit := do
  ensure (record.core.identity = attempt.core.identity ∧
    record.core.attemptDigest = attempt.digest) .dispatchBindingMismatch
  assertImmutableBinding attempt attempt

/-- Who asks, and under which lease. -/
structure FenceInput where
  attempt : BoundAttemptV1
  lease : LeaseFenceV1
  ownerId : JsString
  fenceToken : Nat
  now : JsString

def fence (record : DispatchRecordV1) (input : FenceInput) : Except DispatchError Unit := do
  assertDispatchBinding record input.attempt
  assertLeaseFence input.attempt input.lease input.ownerId input.fenceToken input.now

def commitLaunchIntent (record : DispatchRecordV1) (input : FenceInput) (providerId : JsString) :
    Except DispatchError DispatchRecordV1 := do
  fence record input
  ensure (providerId ≠ []) .providerIdInvalid
  if record.core.phase ≠ .planned then do
    ensure (record.core.providerId = some providerId) .duplicateIntentMismatch
    return record
  else do
    ensure (input.attempt.core.cancellation = .none ∧ record.core.cancellationRequested = false)
      .launchCancelled
    let idempotencyKey ← (domainDigest (js "horseness.provider-idempotency.v1")
      (object [("attemptId", .str input.attempt.core.attemptId),
        ("generation", natural input.attempt.core.generation),
        ("bindingDigest", .str input.attempt.core.bindingDigest)])).mapError DispatchError.domain
    let intentDigest ← (domainDigest (js "horseness.launch-intent.v1")
      (object [("providerId", .str providerId), ("idempotencyKey", .str idempotencyKey),
        ("attemptDigest", .str input.attempt.digest),
        ("leaseDigest", .str input.lease.digest)])).mapError DispatchError.domain
    evolve record { record.core with
      phase := .intentCommitted
      providerId := some providerId
      idempotencyKey := some idempotencyKey
      intentDigest := some intentDigest } .launchIntentCommittedV1

def adapterFor (record : DispatchRecordV1) (adapter : ProviderAdapterV1) :
    Except DispatchError (JsString × JsString) := do
  ensure (record.core.providerId = some adapter.providerId ∧
    truthy record.core.idempotencyKey = true ∧ truthy record.core.intentDigest = true)
    .providerBindingMismatch
  return (record.core.idempotencyKey.getD [], record.core.intentDigest.getD [])

def recordProviderHandle (record : DispatchRecordV1) (operationId handle : JsString) :
    Except DispatchError DispatchRecordV1 := do
  ensure (operationId ≠ [] ∧ handle ≠ []) .providerHandleInvalid
  -- an empty handle counts as none here
  ensure ((truthy record.core.operationId = true → record.core.operationId = some operationId) ∧
    (truthy record.core.providerHandle = true → record.core.providerHandle = some handle))
    .providerHandleMismatch
  if record.core.providerHandle = some handle then return record
  else do
    ensure (record.core.phase ≠ .planned) .handlePreIntent
    evolve record { record.core with
      operationId := record.core.operationId.or (some operationId)
      providerHandle := some handle
      phase := if terminal record.core.phase then record.core.phase else .handleRecorded }
      .providerHandleRecordedV1

def recordLookupFailure (record : DispatchRecordV1) : Except DispatchError DispatchRecordV1 :=
  if terminal record.core.phase = true ∨ record.core.phase = .unknownOutcome then .ok record
  else do
    ensure (record.core.phase ≠ .planned) .lookupPreIntent
    evolve record { record.core with phase := .unknownOutcome } .dispatchReconciliationRequiredV1

def requestDispatchCancellation (record : DispatchRecordV1) : Except DispatchError DispatchRecordV1 :=
  if terminal record.core.phase = true ∨ record.core.cancellationRequested = true then .ok record
  else evolve record { record.core with phase := .cancelRequested, cancellationRequested := true }
    .cancellationRequestedV1

structure TerminalReceiptInput where
  attemptId : JsString
  generation : Nat
  bindingDigest : JsString
  operationId : Option JsString
  handle : Option JsString
  outcome : AttemptTerminalState

def recordTerminalReceipt (record : DispatchRecordV1) (input : TerminalReceiptInput) :
    Except DispatchError DispatchRecordV1 := do
  ensure (record.core.identity = ⟨input.attemptId, input.generation, input.bindingDigest⟩ ∧
    (input.operationId ≠ none → record.core.operationId = input.operationId) ∧
    (input.handle ≠ none → record.core.providerHandle ≠ none →
      record.core.providerHandle = input.handle)) .dispatchReceiptMismatch
  ensure (record.core.phase ≠ .planned) .receiptPreIntent
  if terminal record.core.phase then do
    ensure (record.core.phase = .terminal input.outcome) .dispatchReceiptConflict
    return record
  else do
    let next ← match input.handle with
      | none => pure record
      | some handle =>
          let operationId := (input.operationId.or record.core.operationId).getD (js "receipt")
          recordProviderHandle record operationId handle
    evolve next { next.core with phase := .terminal input.outcome }
      .dispatchTerminalReceiptRecordedV1

def recordAuthenticatedTerminalReceipt (record : DispatchRecordV1) (event : VerifiedReceiptEventV1)
    (authority : VerifiedAttemptAuthorityV1) : Except DispatchError DispatchRecordV1 := do
  ensure (record.core.phase ≠ .planned) .receiptPreIntent
  ensure (truthy record.core.idempotencyKey = true) (.domain .invalidAttemptState)
  let generation : AttemptGenerationStateV1 :=
    { attemptId := record.core.attemptId
      generation := record.core.generation
      state := .acknowledged
      bindingDigest := record.core.bindingDigest
      idempotencyKeyDigest := record.core.idempotencyKey.getD []
      providerHandle := record.core.providerHandle
      terminalEventSequence := none
      findingCodes := [] }
  let empty ← emptyReceiptProjection record.core.attemptId
  let registered ← registerReceiptGeneration empty generation
  let projected ← projectAuthenticatedReceipt registered event authority
  let receipt := event.receipt
  let operationId := some authority.binding.providerOperationId
  let handle := authority.providerHandle
  ensure ((projected.outcomes.get record.core.generation).isSome = true ∧
    record.core.identity =
      ⟨receipt.attemptId, receipt.generation, receipt.attemptContextBindingDigest⟩ ∧
    (record.core.operationId ≠ none → record.core.operationId = operationId) ∧
    (record.core.providerHandle ≠ none → record.core.providerHandle = handle))
    .dispatchReceiptMismatch
  if terminal record.core.phase then do
    ensure (record.core.phase = .terminal receipt.outcome ∧ record.core.operationId = operationId ∧
      record.core.providerHandle = handle) .dispatchReceiptConflict
    return record
  else
    evolve record { record.core with
      phase := .terminal receipt.outcome
      operationId := operationId
      providerHandle := handle } .dispatchTerminalReceiptRecordedV1

end Records

section Providers

variable [Engine]

abbrev Dispatching (Result : Type) := Turn DispatchError (List ProviderCall) Result

def callProvider {Answer : Type} (request : ProviderCall) (answer : Option Answer) :
    Dispatching Answer := do
  modify (· ++ [request])
  check (required answer .provider)

def dispatchCommittedIntent (record : DispatchRecordV1) (input : FenceInput)
    (adapter : ProviderAdapterV1) : Dispatching DispatchRecordV1 := do
  check (fence record input)
  let (idempotencyKey, intentDigest) ← check (adapterFor record adapter)
  check (ensure (record.core.cancellationRequested = false) .dispatchCancelled)
  if truthy record.core.operationId then return record
  else do
    check (ensure (record.core.phase = .intentCommitted) .intentNotCommitted)
    let request : ProviderDispatchRequestV1 :=
      { providerId := adapter.providerId
        workspaceId := input.attempt.core.workspaceId
        runId := input.attempt.core.runId
        taskId := input.attempt.core.taskId
        attemptId := input.attempt.core.attemptId
        generation := input.attempt.core.generation
        bindingDigest := input.attempt.core.bindingDigest
        idempotencyKey := idempotencyKey
        intentDigest := intentDigest }
    let result ← callProvider (.dispatch request) (adapter.dispatch request)
    check (ensure (result.operationId ≠ [] ∧ result.handle ≠ some []) .providerDispatchInvalid)
    let next ← check (evolve record { record.core with
      phase := .dispatched
      operationId := some result.operationId } .providerDispatchBoundV1)
    match result.handle with
    | none => return next
    | some handle => check (evolve next { next.core with
        phase := .handleRecorded
        providerHandle := some handle } .providerHandleRecordedV1)

def lookupRequest (record : DispatchRecordV1) (adapter : ProviderAdapterV1)
    (idempotencyKey : JsString) : ProviderLookupRequestV1 :=
  { providerId := adapter.providerId
    attemptId := record.core.attemptId
    generation := record.core.generation
    bindingDigest := record.core.bindingDigest
    idempotencyKey := idempotencyKey
    operationId := record.core.operationId }

-- there is no branch for a terminal phase here
def lookupDispatch (record : DispatchRecordV1) (adapter : ProviderAdapterV1) :
    Dispatching DispatchRecordV1 := do
  let (idempotencyKey, _) ← check (adapterFor record adapter)
  check (ensure (record.core.phase ≠ .planned) .lookupPreIntent)
  let request := lookupRequest record adapter idempotencyKey
  let result ← callProvider (.lookup request) (adapter.lookup request)
  match result with
  | .found operationId handle => check (recordProviderHandle record operationId handle)
  | .notFound =>
      if truthy record.core.operationId || truthy record.core.providerHandle then
        check (evolve record { record.core with phase := .unknownOutcome }
          .dispatchReconciliationRequiredV1)
      else
        check (evolve record { record.core with phase := .intentCommitted }
          .dispatchLookupNotFoundV1)
  | .unsupported =>
      check (evolve record { record.core with phase := .unknownOutcome }
        .dispatchLookupUnsupportedV1)

def handoffCancellation (record : DispatchRecordV1) (adapter : ProviderAdapterV1) :
    Dispatching DispatchRecordV1 := do
  let (idempotencyKey, _) ← check (adapterFor record adapter)
  check (ensure (record.core.cancellationRequested = true) .cancellationNotRequested)
  if record.core.phase = .cancelHandedOff then return record
  else do
    let request : ProviderCancelRequestV1 :=
      ⟨lookupRequest record adapter idempotencyKey, record.core.providerHandle⟩
    let accepted ← callProvider (.cancel request) (adapter.cancel request)
    if accepted then
      check (evolve record { record.core with phase := .cancelHandedOff } .cancellationHandedOffV1)
    else
      check (evolve record { record.core with phase := .reconciliationRequired }
        .dispatchReconciliationRequiredV1)

end Providers

section Effects

variable [Engine] {record after : DispatchRecordV1}

/-- The record has moved on: its core is another and one event has been added. -/
structure Evolved (record : DispatchRecordV1) (changed : DispatchRecordCoreV1)
    (eventType : DispatchEventTypeV1) (after : DispatchRecordV1) : Prop where
  core : ∃ digest, after.core = { changed with events := record.core.events ++
    [⟨record.core.events.length + 1, eventType, record.core.attemptId, record.core.generation,
      record.core.bindingDigest, digest⟩] }

theorem seal_record_ok_iff {core : DispatchRecordCoreV1} :
    sealRecord core = .ok record ↔ record.core = core := by
  rw [sealRecord, map_error_ok_iff, seal_ok_iff]

theorem evolve_ok {changed : DispatchRecordCoreV1} {eventType : DispatchEventTypeV1}
    (evolved : evolve record changed eventType = .ok after) :
    Evolved record changed eventType after := by
  simp only [evolve, event, bind_ok_iff, pure_ok_iff, seal_record_ok_iff] at evolved
  rcases evolved with ⟨_, ⟨digest, _, rfl⟩, core⟩
  exact ⟨digest, core⟩

/-- One thing that an operation can do to a record. -/
inductive Effect (record : DispatchRecordV1) (after : DispatchRecordV1) : Prop
  | committed (providerId idempotencyKey intentDigest : JsString)
      (planned : record.core.phase = .planned)
      (evolved : Evolved record { record.core with
        phase := .intentCommitted
        providerId := some providerId
        idempotencyKey := some idempotencyKey
        intentDigest := some intentDigest } .launchIntentCommittedV1 after)
  | bound (operationId : JsString) (named : operationId ≠ [])
      (unknown : truthy record.core.operationId = false) (evolved : Evolved record { record.core with
        phase := .dispatched
        operationId := some operationId } .providerDispatchBoundV1 after)
  | handled (operationId handle : JsString) (phase : DispatchPhaseV1) (launched : phase ≠ .planned)
      (named : operationId ≠ [] ∧ handle ≠ [])
      (same : truthy record.core.providerHandle = true → record.core.providerHandle = some handle)
      (evolved : Evolved record { record.core with
        operationId := record.core.operationId.or (some operationId)
        providerHandle := some handle
        phase := phase } .providerHandleRecordedV1 after)
  | moved (phase : DispatchPhaseV1) (eventType : DispatchEventTypeV1) (launched : phase ≠ .planned)
      (evolved : Evolved record { record.core with phase := phase } eventType after)
  | cancelled (evolved : Evolved record { record.core with
        phase := .cancelRequested
        cancellationRequested := true } .cancellationRequestedV1 after)
  | adopted (outcome : AttemptTerminalState) (operationId : JsString) (handle : Option JsString)
      (named : operationId ≠ [] ∧ handle ≠ some [])
      (same : (record.core.operationId ≠ none → record.core.operationId = some operationId) ∧
        (record.core.providerHandle ≠ none → record.core.providerHandle = handle))
      (evolved : Evolved record { record.core with
        phase := .terminal outcome
        operationId := some operationId
        providerHandle := handle } .dispatchTerminalReceiptRecordedV1 after)

theorem commit_effect {input : FenceInput} {providerId : JsString}
    (done : commitLaunchIntent record input providerId = .ok after) :
    after = record ∨ Effect record after := by
  simp only [commitLaunchIntent, bind_ok_iff, ensure_ok_iff] at done
  rcases done with ⟨_, _, _, _, done⟩
  split at done
  · simp only [bind_ok_iff, ensure_ok_iff, pure_ok_iff] at done
    rcases done with ⟨_, _, rfl⟩
    exact .inl rfl
  · next planned =>
      simp only [bind_ok_iff, ensure_ok_iff] at done
      rcases done with ⟨_, _, key, _, intent, _, evolved⟩
      exact .inr (.committed providerId key intent (not_not.mp planned) (evolve_ok evolved))

theorem handle_effect {operationId handle : JsString}
    (done : recordProviderHandle record operationId handle = .ok after) :
    after = record ∨ Effect record after := by
  simp only [recordProviderHandle, bind_ok_iff, ensure_ok_iff] at done
  rcases done with ⟨_, named, _, ⟨_, same⟩, done⟩
  split at done
  · exact .inl (Except.ok.inj done).symm
  · simp only [bind_ok_iff, ensure_ok_iff] at done
    rcases done with ⟨_, launched, evolved⟩
    refine .inr (.handled operationId handle _ ?_ named same (evolve_ok evolved))
    split
    · exact launched
    · exact fun planned => nomatch planned

theorem lookup_failure_effect (done : recordLookupFailure record = .ok after) :
    after = record ∨ Effect record after := by
  unfold recordLookupFailure at done
  split at done
  · exact .inl (Except.ok.inj done).symm
  · simp only [bind_ok_iff, ensure_ok_iff] at done
    rcases done with ⟨_, _, evolved⟩
    exact .inr (.moved .unknownOutcome _ (fun planned => nomatch planned) (evolve_ok evolved))

theorem cancellation_effect (done : requestDispatchCancellation record = .ok after) :
    after = record ∨ Effect record after := by
  unfold requestDispatchCancellation at done
  split at done
  · exact .inl (Except.ok.inj done).symm
  · exact .inr (.cancelled (evolve_ok done))

theorem receipt_effect {input : TerminalReceiptInput}
    (done : recordTerminalReceipt record input = .ok after) : after = record ∨
      ∃ next, (next = record ∨ Effect record next) ∧ Effect next after := by
  simp only [recordTerminalReceipt, bind_ok_iff, ensure_ok_iff] at done
  rcases done with ⟨_, _, _, _, done⟩
  split at done
  · simp only [bind_ok_iff, ensure_ok_iff, pure_ok_iff] at done
    rcases done with ⟨_, _, rfl⟩
    exact .inl rfl
  · have ended {next : DispatchRecordV1} (evolved : evolve next { next.core with
        phase := .terminal input.outcome } .dispatchTerminalReceiptRecordedV1 = .ok after) :
        Effect next after :=
      .moved (.terminal input.outcome) _ (by simp) (evolve_ok evolved)
    split at done
    · rw [pure_bind] at done
      exact .inr ⟨record, .inl rfl, ended done⟩
    · rw [bind_ok_iff] at done
      rcases done with ⟨next, handled, evolved⟩
      exact .inr ⟨next, handle_effect handled, ended evolved⟩

theorem adopt_effect {event : VerifiedReceiptEventV1} {authority : VerifiedAttemptAuthorityV1}
    (done : recordAuthenticatedTerminalReceipt record event authority = .ok after) :
    (after = record ∧ terminal record.core.phase = true) ∨
      ∃ operationId, operationId ≠ [] ∧
        (record.core.operationId ≠ none → record.core.operationId = some operationId) ∧
        (record.core.providerHandle ≠ none →
          record.core.providerHandle = authority.providerHandle) ∧
        Evolved record { record.core with
          phase := .terminal event.receipt.outcome
          operationId := some operationId
          providerHandle := authority.providerHandle } .dispatchTerminalReceiptRecordedV1 after := by
  simp only [recordAuthenticatedTerminalReceipt, bind_ok_iff, ensure_ok_iff] at done
  rcases done with ⟨_, _, _, _, empty, _, registered, _, projected, accepted, _,
    ⟨_, _, operation, handle⟩, done⟩
  split at done
  · next settled =>
      simp only [bind_ok_iff, ensure_ok_iff, pure_ok_iff] at done
      rcases done with ⟨_, _, rfl⟩
      exact .inl ⟨rfl, settled⟩
  · exact .inr ⟨_, (projected_operation accepted).2, operation, handle, evolve_ok done⟩

/-- How a record stands to a later one of its lineage. -/
structure Lineage (record after : DispatchRecordCoreV1) : Prop where
  attempt : after.identity = record.identity ∧ after.attemptDigest = record.attemptDigest
  identity : (after.providerId = record.providerId ∧ after.idempotencyKey = record.idempotencyKey ∧
    after.intentDigest = record.intentDigest) ∨
      (record.providerId = none ∧ record.idempotencyKey = none ∧ record.intentDigest = none)
  operation : record.operationId ≠ none → after.operationId = record.operationId
  handle : record.providerHandle ≠ none → after.providerHandle = record.providerHandle
  cancelled : record.cancellationRequested = true → after.cancellationRequested = true
  events : record.events <+: after.events

omit [Engine] in
theorem lineage_key {core after : DispatchRecordCoreV1} {key : JsString}
    (lineage : Lineage core after) (known : core.idempotencyKey = some key) :
    after.idempotencyKey = some key := by
  rcases lineage.identity with same | unset
  · exact same.2.1.trans known
  · cases known.symm.trans unset.2.1

/-- What a record of the lineage is like. Texts that are there are not empty. -/
structure Sound (core : DispatchRecordCoreV1) : Prop where
  planned : core.phase = .planned →
    core.providerId = none ∧ core.idempotencyKey = none ∧ core.intentDigest = none
  together : core.providerId.isSome = core.idempotencyKey.isSome ∧
    core.intentDigest.isSome = core.idempotencyKey.isSome
  operation : core.operationId ≠ some []
  handle : core.providerHandle ≠ some []
  known : core.providerHandle ≠ none → core.operationId ≠ none
  ordinals : core.events.map DispatchEventV1.ordinal = List.range' 1 core.events.length

omit [Engine] in
theorem lineage_refl (core : DispatchRecordCoreV1) : Lineage core core :=
  ⟨⟨rfl, rfl⟩, .inl ⟨rfl, rfl, rfl⟩, fun _ => rfl, fun _ => rfl, id, List.prefix_rfl⟩

omit [Engine] in
theorem lineage_trans {first second third : DispatchRecordCoreV1} (one : Lineage first second)
    (two : Lineage second third) : Lineage first third := by
  constructor
  · exact ⟨two.attempt.1.trans one.attempt.1, two.attempt.2.trans one.attempt.2⟩
  · rcases one.identity with same | unset
    · rcases two.identity with later | unset
      · exact .inl ⟨later.1.trans same.1, later.2.1.trans same.2.1, later.2.2.trans same.2.2⟩
      · exact .inr ⟨same.1 ▸ unset.1, same.2.1 ▸ unset.2.1, same.2.2 ▸ unset.2.2⟩
    · exact .inr unset
  · intro known
    have kept := one.operation known
    exact (two.operation (kept ▸ known)).trans kept
  · intro known
    have kept := one.handle known
    exact (two.handle (kept ▸ known)).trans kept
  · exact fun requested => two.cancelled (one.cancelled requested)
  · exact one.events.trans two.events

omit [Engine] in
theorem truthy_of_known {text : Option JsString} (known : text ≠ none) (filled : text ≠ some []) :
    truthy text = true := by
  match text with
  | none => exact absurd rfl known
  | some [] => exact absurd rfl filled
  | some (_ :: _) => rfl

theorem evolved_ordinals {changed : DispatchRecordCoreV1} {eventType : DispatchEventTypeV1}
    (sound : Sound record.core) (evolved : Evolved record changed eventType after) :
    after.core.events.map DispatchEventV1.ordinal = List.range' 1 after.core.events.length := by
  rcases evolved.core with ⟨digest, core⟩
  rw [core]
  simp only [List.map_append, List.map_cons, List.map_nil, List.length_append, List.length_singleton,
    sound.ordinals, List.range'_concat]
  congr 2
  omega

theorem effect_sound (sound : Sound record.core) (effect : Effect record after) :
    Sound after.core ∧ Lineage record.core after.core := by
  cases effect with
  | committed providerId key intent planned evolved =>
      have ordinals := evolved_ordinals sound evolved
      rcases evolved.core with ⟨digest, core⟩
      rw [core] at ordinals ⊢
      exact ⟨⟨(nomatch ·), ⟨rfl, rfl⟩, sound.operation, sound.handle, sound.known,
        ordinals⟩, ⟨⟨rfl, rfl⟩, .inr (sound.planned planned), fun _ => rfl, fun _ => rfl, id,
        List.prefix_append _ _⟩⟩
  | bound operationId named unknown evolved =>
      have ordinals := evolved_ordinals sound evolved
      have fresh : record.core.operationId = none := by
        by_contra known
        rw [truthy_of_known known sound.operation] at unknown
        cases unknown
      rcases evolved.core with ⟨digest, core⟩
      rw [core] at ordinals ⊢
      exact ⟨⟨(nomatch ·), sound.together, by simpa using named, sound.handle,
        fun _ => Option.some_ne_none _, ordinals⟩, ⟨⟨rfl, rfl⟩, .inl ⟨rfl, rfl, rfl⟩,
        fun known => absurd fresh known, fun _ => rfl, id, List.prefix_append _ _⟩⟩
  | handled operationId handle phase launched named same evolved =>
      have ordinals := evolved_ordinals sound evolved
      rcases evolved.core with ⟨digest, core⟩
      rw [core] at ordinals ⊢
      have operation : record.core.operationId.or (some operationId) ≠ some [] ∧
          (record.core.operationId ≠ none →
            record.core.operationId.or (some operationId) = record.core.operationId) := by
        have filled := sound.operation
        cases shape : record.core.operationId with
        | none => simpa using named.1
        | some known =>
            rw [shape] at filled
            exact ⟨filled, fun _ => rfl⟩
      refine ⟨⟨fun planned => absurd planned launched, sound.together, operation.1,
        by simpa using named.2, fun _ => by simp, ordinals⟩, ⟨⟨rfl, rfl⟩, .inl ⟨rfl, rfl, rfl⟩,
        operation.2, fun known => ?_, id, List.prefix_append _ _⟩⟩
      exact (same (truthy_of_known known sound.handle)).symm
  | moved phase eventType launched evolved =>
      have ordinals := evolved_ordinals sound evolved
      rcases evolved.core with ⟨digest, core⟩
      rw [core] at ordinals ⊢
      exact ⟨⟨fun planned => absurd planned launched, sound.together, sound.operation, sound.handle,
        sound.known, ordinals⟩, ⟨⟨rfl, rfl⟩, .inl ⟨rfl, rfl, rfl⟩, fun _ => rfl, fun _ => rfl, id,
        List.prefix_append _ _⟩⟩
  | cancelled evolved =>
      have ordinals := evolved_ordinals sound evolved
      rcases evolved.core with ⟨digest, core⟩
      rw [core] at ordinals ⊢
      exact ⟨⟨(nomatch ·), sound.together, sound.operation, sound.handle, sound.known,
        ordinals⟩, ⟨⟨rfl, rfl⟩, .inl ⟨rfl, rfl, rfl⟩, fun _ => rfl, fun _ => rfl, fun _ => rfl,
        List.prefix_append _ _⟩⟩
  | adopted outcome operationId handle named same evolved =>
      have ordinals := evolved_ordinals sound evolved
      rcases evolved.core with ⟨digest, core⟩
      rw [core] at ordinals ⊢
      exact ⟨⟨(nomatch ·), sound.together, by simpa using named.1, named.2,
        fun _ => Option.some_ne_none _, ordinals⟩, ⟨⟨rfl, rfl⟩, .inl ⟨rfl, rfl, rfl⟩,
        fun known => (same.1 known).symm, fun known => (same.2 known).symm, id,
        List.prefix_append _ _⟩⟩

end Effects

section Traces

variable {allowed : ProviderCall → Prop}

def Noted (allowed : ProviderCall → Prop) (before after : List ProviderCall) : Prop :=
  ∃ added, after = before ++ added ∧ ∀ call ∈ added, allowed call

instance : Std.Refl (Noted allowed) := ⟨fun calls => ⟨[], by simp, by simp⟩⟩

instance : IsTrans (List ProviderCall) (Noted allowed) where
  trans := by
    rintro first _ _ ⟨one, rfl, early⟩ ⟨two, rfl, late⟩
    refine ⟨one ++ two, by simp, fun call member => ?_⟩
    exact (List.mem_append.mp member).elim (early call) (late call)

theorem noted_mono {weaker : ProviderCall → Prop} (enough : ∀ call, allowed call → weaker call)
    {before after : List ProviderCall} (noted : Noted allowed before after) :
    Noted weaker before after := by
  rcases noted with ⟨added, same, each⟩
  exact ⟨added, same, fun call member => enough call (each call member)⟩

variable {Result Other : Type} {next : Result → Dispatching Other}
  {after : Other → List ProviderCall → Prop}

theorem keeps_checked {checked : Except DispatchError Result}
    (kept : ∀ result, checked = .ok result →
      Keeps (Noted allowed) (fun _ => True) (next result) after) :
    Keeps (Noted allowed) (fun _ => True) (check checked >>= next) after := by
  refine keeps_bind (keeps_check fun _ result _ read => read) fun result => ?_
  exact fun state read => kept result read state trivial

theorem keeps_called {request : ProviderCall} {answer : Option Result} (permitted : allowed request)
    (kept : ∀ result, answer = some result →
      Keeps (Noted allowed) (fun _ => True) (next result) after) :
    Keeps (Noted allowed) (fun _ => True) (callProvider request answer >>= next) after := by
  have called : Keeps (Noted allowed) (fun _ => True) (callProvider request answer)
      (fun result _ => answer = some result) := by
    have noted : Keeps (Noted allowed) (fun _ => True)
        (modify (· ++ [request]) : Dispatching Unit) (fun _ _ => True) :=
      keeps_modify fun state _ => ⟨⟨[request], rfl, by simpa using permitted⟩, trivial⟩
    refine keeps_bind noted fun _ => keeps_check fun _ result _ read => ?_
    exact (required_ok_iff _ _ _).mp read
  exact keeps_bind called fun result state read => kept result read state trivial

end Traces

section Calls

variable [Engine] {record : DispatchRecordV1}

def Allowed (core : DispatchRecordCoreV1) (call : ProviderCall) : Prop :=
  core.idempotencyKey = some call.idempotencyKey ∧
    (call.isDispatch = true → core.cancellationRequested = false ∧ core.operationId = none)

/-- What a recovery can call the provider for: it never launches. -/
def Asked (core : DispatchRecordCoreV1) (call : ProviderCall) : Prop :=
  core.idempotencyKey = some call.idempotencyKey ∧ call.isDispatch = false

theorem asked_allowed {Result : Type} {turn : Dispatching Result}
    {after : Result → List ProviderCall → Prop}
    (kept : Keeps (Noted (Asked record.core)) (fun _ => True) turn after) :
    Keeps (Noted (Allowed record.core)) (fun _ => True) turn after := by
  intro state given
  have both := kept state given
  refine ⟨noted_mono (fun call asked => ⟨asked.1, fun launch => ?_⟩) both.1, both.2⟩
  rw [asked.2] at launch
  cases launch

def Reach (record after : DispatchRecordV1) : Prop := Relation.ReflTransGen Effect record after

theorem effects_reach {after : DispatchRecordV1} (effect : after = record ∨ Effect record after) :
    Reach record after := by
  rcases effect with rfl | effect
  · exact .refl
  · exact .single effect

theorem reach_sound {after : DispatchRecordV1} (sound : Sound record.core)
    (reach : Reach record after) : Sound after.core ∧ Lineage record.core after.core := by
  induction reach with
  | refl => exact ⟨sound, lineage_refl _⟩
  | tail _ effect ih =>
      have both := effect_sound ih.1 effect
      exact ⟨both.1, lineage_trans ih.2 both.2⟩

theorem adapter_for_ok {adapter : ProviderAdapterV1} {key intent : JsString}
    (bound : adapterFor record adapter = .ok (key, intent)) :
    record.core.idempotencyKey = some key := by
  simp only [adapterFor, bind_ok_iff, ensure_ok_iff, pure_ok_iff, Prod.mk.injEq] at bound
  rcases bound with ⟨_, ⟨_, known, _⟩, rfl, _⟩
  cases shape : record.core.idempotencyKey with
  | none => rw [shape] at known; cases known
  | some found => rfl

theorem unknown_operation (sound : Sound record.core)
    (unknown : truthy record.core.operationId = false) : record.core.operationId = none := by
  by_contra known
  rw [truthy_of_known known sound.operation] at unknown
  cases unknown

theorem handle_after_bound {next after : DispatchRecordV1} {operationId handle : JsString}
    (fresh : record.core.providerHandle = none)
    (bound : Evolved record { record.core with
      phase := .dispatched
      operationId := some operationId } .providerDispatchBoundV1 next)
    (named : operationId ≠ [] ∧ handle ≠ [])
    (evolved : Evolved next { next.core with
      phase := .handleRecorded
      providerHandle := some handle } .providerHandleRecordedV1 after) : Effect next after := by
  rcases bound.core with ⟨digest, core⟩
  have operation : next.core.operationId.or (some operationId) = next.core.operationId := by
    rw [core]
    rfl
  refine .handled operationId handle .handleRecorded (nomatch ·) named ?_ ?_
  · intro known
    rw [core, fresh] at known
    cases known
  · rw [operation]
    exact evolved

theorem dispatch_keeps (sound : Sound record.core) (input : FenceInput) (adapter : ProviderAdapterV1) :
    Keeps (Noted (Allowed record.core)) (fun _ => True) (dispatchCommittedIntent record input adapter)
      (fun after _ => Reach record after) := by
  unfold dispatchCommittedIntent
  refine keeps_checked fun _ _ => keeps_checked fun bound read => keeps_checked fun _ open_ => ?_
  have key := adapter_for_ok read
  rw [ensure_ok_iff] at open_
  split
  · exact keeps_pure fun _ _ => .refl
  · next unknown =>
      have fresh := unknown_operation sound (Bool.not_eq_true _ ▸ unknown)
      refine keeps_checked fun _ _ => keeps_called ⟨key, fun _ => ⟨open_, fresh⟩⟩ fun result _ =>
        keeps_checked fun _ named => keeps_checked fun next evolved => ?_
      rw [ensure_ok_iff] at named
      have first : Effect record next := .bound result.operationId named.1
        (Bool.not_eq_true _ ▸ unknown) (evolve_ok evolved)
      cases given : result.handle with
      | none => exact keeps_pure fun _ _ => .single first
      | some handle =>
          refine keeps_check fun _ after _ later => ?_
          refine .tail (.single first) (handle_after_bound ?_ (evolve_ok evolved) ?_ (evolve_ok later))
          · by_contra known
            exact sound.known known fresh
          · exact ⟨named.1, fun empty => named.2 (by rw [given, empty])⟩

theorem moved_keeps {allowed : ProviderCall → Prop} (phase : DispatchPhaseV1)
    (eventType : DispatchEventTypeV1) (launched : phase ≠ .planned) :
    Keeps (Noted allowed) (fun _ => True)
      (check (evolve record { record.core with phase := phase } eventType) :
        Dispatching DispatchRecordV1) (fun after _ => Reach record after) :=
  keeps_check fun _ _ _ evolved => .single (.moved phase eventType launched (evolve_ok evolved))

theorem lookup_keeps (adapter : ProviderAdapterV1) :
    Keeps (Noted (Asked record.core)) (fun _ => True) (lookupDispatch record adapter)
      (fun after _ => Reach record after) := by
  unfold lookupDispatch
  refine keeps_checked fun bound read => keeps_checked fun _ _ => ?_
  have key := adapter_for_ok read
  refine keeps_called ⟨key, rfl⟩ fun result _ => ?_
  cases result with
  | found operationId handle =>
      exact keeps_check fun _ after _ recorded => effects_reach (handle_effect recorded)
  | notFound =>
      dsimp only
      split
      · exact moved_keeps _ _ (nomatch ·)
      · exact moved_keeps _ _ (nomatch ·)
  | unsupported => exact moved_keeps _ _ (nomatch ·)

theorem handoff_keeps (adapter : ProviderAdapterV1) :
    Keeps (Noted (Asked record.core)) (fun _ => True) (handoffCancellation record adapter)
      (fun after _ => Reach record after) := by
  unfold handoffCancellation
  refine keeps_checked fun bound read => keeps_checked fun _ _ => ?_
  have key := adapter_for_ok read
  split
  · exact keeps_pure fun _ _ => .refl
  · refine keeps_called ⟨key, rfl⟩ fun accepted _ => ?_
    split
    · exact moved_keeps _ _ (nomatch ·)
    · exact moved_keeps _ _ (nomatch ·)

end Calls

section Terminal

variable [Engine]

/-- The operations on a record, with what they are given. -/
inductive DispatchCall where
  | commitLaunchIntent (input : FenceInput) (providerId : JsString)
  | dispatchCommittedIntent (input : FenceInput) (adapter : ProviderAdapterV1)
  | recordProviderHandle (operationId handle : JsString)
  | lookupDispatch (adapter : ProviderAdapterV1)
  | recordLookupFailure
  | requestDispatchCancellation
  | handoffCancellation (adapter : ProviderAdapterV1)
  | recordTerminalReceipt (input : TerminalReceiptInput)
  | recordAuthenticatedTerminalReceipt (event : VerifiedReceiptEventV1)
      (authority : VerifiedAttemptAuthorityV1)

def DispatchCall.perform (record : DispatchRecordV1) : DispatchCall → Dispatching DispatchRecordV1
  | .commitLaunchIntent input providerId => check (DispatchRecords.commitLaunchIntent record input providerId)
  | .dispatchCommittedIntent input adapter => DispatchRecords.dispatchCommittedIntent record input adapter
  | .recordProviderHandle operationId handle =>
      check (DispatchRecords.recordProviderHandle record operationId handle)
  | .lookupDispatch adapter => DispatchRecords.lookupDispatch record adapter
  | .recordLookupFailure => check (DispatchRecords.recordLookupFailure record)
  | .requestDispatchCancellation => check (DispatchRecords.requestDispatchCancellation record)
  | .handoffCancellation adapter => DispatchRecords.handoffCancellation record adapter
  | .recordTerminalReceipt input => check (DispatchRecords.recordTerminalReceipt record input)
  | .recordAuthenticatedTerminalReceipt event authority =>
      check (DispatchRecords.recordAuthenticatedTerminalReceipt record event authority)

def DispatchCall.after (call : DispatchCall) (record : DispatchRecordV1) : DispatchRecordV1 :=
  finalOf record (outcome (call.perform record) []).1

def DispatchCall.calls (call : DispatchCall) (record : DispatchRecordV1) : List ProviderCall :=
  (outcome (call.perform record) []).2

def DispatchStep (record : DispatchRecordV1) (labels : List (DispatchRecordV1 × DispatchCall))
    (after : DispatchRecordV1) : Prop :=
  ∃ call, labels = [(record, call)] ∧ after = call.after record

/-- The two operations that have no branch for a terminal phase do not come to act on it. -/
def Respects (record : DispatchRecordV1) : DispatchCall → Prop
  | .lookupDispatch adapter => ∀ key intent, adapterFor record adapter = .ok (key, intent) →
      adapter.lookup (lookupRequest record adapter key) ≠ some .notFound ∧
        adapter.lookup (lookupRequest record adapter key) ≠ some .unsupported
  | .handoffCancellation adapter => ∀ bound, adapterFor record adapter = .ok bound →
      record.core.cancellationRequested = false
  | _ => True

variable {record after : DispatchRecordV1} {call : DispatchCall}
  {labels : List (DispatchRecordV1 × DispatchCall)}

abbrev KeepsPhase (record : DispatchRecordV1) (turn : Dispatching DispatchRecordV1) : Prop :=
  Keeps (Noted fun call => call.isLookup = true) (fun _ => True) turn
    (fun after _ => after.core.phase = record.core.phase)

theorem not_planned (settled : terminal record.core.phase = true) : record.core.phase ≠ .planned :=
  fun planned => nomatch planned ▸ settled

theorem handle_phase {operationId handle : JsString} (settled : terminal record.core.phase = true)
    (done : recordProviderHandle record operationId handle = .ok after) :
    after.core.phase = record.core.phase := by
  simp only [recordProviderHandle, bind_ok_iff, ensure_ok_iff] at done
  rcases done with ⟨_, _, _, _, done⟩
  split at done
  · rw [(Except.ok.inj done)]
  · simp only [bind_ok_iff, ensure_ok_iff] at done
    rcases done with ⟨_, _, evolved⟩
    rcases (evolve_ok evolved).core with ⟨digest, core⟩
    rw [core]

theorem unchanged_keeps {done : Except DispatchError DispatchRecordV1}
    (same : ∀ after, done = .ok after → after.core.phase = record.core.phase) :
    KeepsPhase record (check done) :=
  keeps_check fun _ after _ answered => same after answered

theorem commit_phase {input : FenceInput} {providerId : JsString}
    (settled : terminal record.core.phase = true)
    (done : commitLaunchIntent record input providerId = .ok after) : after = record := by
  simp only [commitLaunchIntent, bind_ok_iff, ensure_ok_iff] at done
  rcases done with ⟨_, _, _, _, done⟩
  rw [if_pos (not_planned settled)] at done
  simp only [bind_ok_iff, ensure_ok_iff, pure_ok_iff] at done
  rcases done with ⟨_, _, rfl⟩
  rfl

theorem receipt_phase {input : TerminalReceiptInput} (settled : terminal record.core.phase = true)
    (done : recordTerminalReceipt record input = .ok after) : after = record := by
  simp only [recordTerminalReceipt, bind_ok_iff, ensure_ok_iff, settled, if_true, pure_ok_iff] at done
  rcases done with ⟨_, _, _, _, _, _, rfl⟩
  rfl

theorem adopt_phase {event : VerifiedReceiptEventV1} {authority : VerifiedAttemptAuthorityV1}
    (settled : terminal record.core.phase = true)
    (done : recordAuthenticatedTerminalReceipt record event authority = .ok after) :
    after = record := by
  simp only [recordAuthenticatedTerminalReceipt, bind_ok_iff, ensure_ok_iff, settled, if_true,
    pure_ok_iff] at done
  rcases done with ⟨_, _, _, _, _, _, _, _, _, _, _, _, _, _, rfl⟩
  rfl

theorem dispatch_phase (settled : terminal record.core.phase = true) (input : FenceInput)
    (adapter : ProviderAdapterV1) :
    KeepsPhase record (dispatchCommittedIntent record input adapter) := by
  unfold dispatchCommittedIntent
  refine keeps_checked fun _ _ => keeps_checked fun _ _ => keeps_checked fun _ _ => ?_
  split
  · exact keeps_pure fun _ _ => rfl
  · -- a terminal record has no intent that is still to be dispatched
    refine keeps_checked fun _ committed => ?_
    rw [ensure_ok_iff] at committed
    rw [committed] at settled
    cases settled

theorem lookup_phase {adapter : ProviderAdapterV1} (settled : terminal record.core.phase = true)
    (respects : Respects record (.lookupDispatch adapter)) :
    KeepsPhase record (lookupDispatch record adapter) := by
  unfold lookupDispatch
  refine keeps_checked fun bound read => keeps_checked fun _ _ => ?_
  have other := respects bound.1 bound.2 read
  refine keeps_called rfl fun result answered => ?_
  cases result with
  | found operationId handle => exact unchanged_keeps fun after => handle_phase settled
  | notFound => exact absurd answered other.1
  | unsupported => exact absurd answered other.2

theorem handoff_phase {adapter : ProviderAdapterV1}
    (respects : Respects record (.handoffCancellation adapter)) :
    KeepsPhase record (handoffCancellation record adapter) := by
  unfold handoffCancellation
  refine keeps_checked fun bound read => keeps_checked fun _ requested => ?_
  rw [ensure_ok_iff, respects bound read] at requested
  cases requested

-- The step lemma: an operation that respects a terminal record keeps its phase.
theorem call_phase (settled : terminal record.core.phase = true) (respects : Respects record call) :
    KeepsPhase record (call.perform record) := by
  cases call with
  | commitLaunchIntent input providerId =>
      exact unchanged_keeps fun after done => by rw [commit_phase settled done]
  | dispatchCommittedIntent input adapter => exact dispatch_phase settled input adapter
  | recordProviderHandle operationId handle => exact unchanged_keeps fun after => handle_phase settled
  | lookupDispatch adapter => exact lookup_phase settled respects
  | recordLookupFailure =>
      refine unchanged_keeps fun after done => ?_
      simp only [recordLookupFailure, settled, true_or, if_true] at done
      rw [Except.ok.inj done]
  | requestDispatchCancellation =>
      refine unchanged_keeps fun after done => ?_
      simp only [requestDispatchCancellation, settled, true_or, if_true] at done
      rw [Except.ok.inj done]
  | handoffCancellation adapter => exact handoff_phase respects
  | recordTerminalReceipt input =>
      exact unchanged_keeps fun after done => by rw [receipt_phase settled done]
  | recordAuthenticatedTerminalReceipt event authority =>
      exact unchanged_keeps fun after done => by rw [adopt_phase settled done]

theorem call_effects {allowed : ProviderCall → Prop} {answers : DispatchRecordV1 → Prop}
    (keeps : Keeps (Noted allowed) (fun _ => True) (call.perform record) fun after _ => answers after)
    (still : answers record) :
    answers (call.after record) ∧ ∀ provider ∈ call.calls record, allowed provider := by
  rcases keeps [] trivial with ⟨⟨added, noted, each⟩, answered⟩
  constructor
  · unfold DispatchCall.after
    cases shape : (outcome (call.perform record) []).1 with
    | error failure => exact still
    | ok after => exact answered after shape
  · rw [DispatchCall.calls, noted, List.nil_append]
    exact each

/-- In a run that respects it, a terminal phase stays, and no provider is called for more than
a look-up. -/
theorem terminal_absorbs {start : DispatchRecordV1} (run : Runs DispatchStep start labels record)
    (settled : terminal start.core.phase = true)
    (respected : ∀ taken ∈ labels, Respects taken.1 taken.2) :
    record.core.phase = start.core.phase ∧ ∀ taken ∈ labels,
      taken.1.core.phase = start.core.phase ∧
        ∀ provider ∈ taken.2.calls taken.1, provider.isLookup = true := by
  induction run with
  | start => exact ⟨rfl, fun _ member => nomatch member⟩
  | step before moved ih =>
      rcases moved with ⟨call, rfl, rfl⟩
      rw [List.forall_mem_append] at respected
      rcases ih respected.1 with ⟨phase, earlier⟩
      have respects := respected.2 _ (List.mem_singleton_self _)
      have kept := call_effects (call_phase (phase ▸ settled) respects) rfl
      refine ⟨kept.1.trans phase, fun taken member => ?_⟩
      rcases List.mem_append.mp member with front | last
      · exact earlier taken front
      · rw [List.mem_singleton.mp last]
        exact ⟨phase, kept.2⟩

end Terminal

section Recorded

attribute [local instance] leaseEngine

def sampleAdapter (found : ProviderLookupResultV1) : ProviderAdapterV1 :=
  { providerId := js "p"
    dispatch := fun _ => some ⟨js "o", none⟩
    lookup := fun _ => some found
    cancel := fun _ => some true }

def launchedRecord : Except DispatchError (FenceInput × DispatchRecordV1) := do
  let attempt ← sealAttempt sampleAttempt
  let leased ← acquireLease (sampleAcquire attempt (js "one") startOfYear secondLater)
  let lease ← required leased.lease .leaseAttemptInvalid
  let input : FenceInput := ⟨attempt, lease, js "one", 1, startOfYear⟩
  let planned ← createDispatchRecord attempt
  let record ← commitLaunchIntent planned input (js "p")
  return (input, record)

def settledRecord : Except DispatchError (FenceInput × DispatchRecordV1) := do
  let (input, record) ← launchedRecord
  let settled ← recordTerminalReceipt record
    ⟨record.core.attemptId, record.core.generation, record.core.bindingDigest, none, none, .succeeded⟩
  return (input, settled)

def reopened (input : FenceInput) (record : DispatchRecordV1) : Bool :=
  let lookup : DispatchCall := .lookupDispatch (sampleAdapter .notFound)
  let dispatch : DispatchCall := .dispatchCommittedIntent input (sampleAdapter .notFound)
  terminal record.core.phase && !terminal (dispatch.after (lookup.after record)).core.phase &&
    (dispatch.calls (lookup.after record)).any ProviderCall.isDispatch

instance settled_reopened : Fact (endsIn (fun made => reopened made.1 made.2) settledRecord = true) :=
  ⟨by decide +kernel⟩

theorem dispatched_step (record : DispatchRecordV1) (call : DispatchCall) :
    DispatchStep record [(record, call)] (call.after record) := ⟨call, rfl, rfl⟩

/-- A look-up that finds nothing opens the record again, and it is launched once more. -/
theorem settled_launches : ¬ ∀ (start record : DispatchRecordV1)
    (labels : List (DispatchRecordV1 × DispatchCall)), Runs DispatchStep start labels record →
      terminal start.core.phase = true → record.core.phase = start.core.phase ∧
        ∀ taken ∈ labels, ∀ provider ∈ taken.2.calls taken.1, provider.isDispatch = false := by
  intro claim
  rcases ends_in_exists settled_reopened.out with ⟨⟨input, start⟩, _, reopens⟩
  simp only [reopened, Bool.and_eq_true, List.any_eq_true] at reopens
  rcases reopens with ⟨⟨settled, _⟩, provider, called, dispatches⟩
  have run := (Runs.start.step (dispatched_step start (.lookupDispatch (sampleAdapter .notFound)))).step
    (dispatched_step _ (.dispatchCommittedIntent input (sampleAdapter .notFound)))
  have never := (claim _ _ _ run settled).2 _ (List.mem_append_right _ (List.mem_singleton_self _))
    provider called
  rw [never] at dispatches
  cases dispatches

/-- A record that a receipt has settled is left alone by a failed look-up. -/
theorem settled_failure_kept : ∃ start : DispatchRecordV1, terminal start.core.phase = true ∧
    (DispatchCall.recordLookupFailure.after start).core.phase = start.core.phase := by
  rcases ends_in_exists settled_reopened.out with ⟨⟨input, start⟩, _, reopens⟩
  simp only [reopened, Bool.and_eq_true] at reopens
  have run := Runs.start.step (dispatched_step start .recordLookupFailure)
  refine ⟨start, reopens.1.1, (terminal_absorbs run reopens.1.1 fun taken member => ?_).1⟩
  rw [List.mem_singleton.mp member]
  exact trivial

end Recorded

end Horseness.DispatchRecords
