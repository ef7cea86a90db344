import Mathlib.Algebra.GroupWithZero.Nat
import Horseness.ServiceViews

/-!
What the execution service commits, one synchronous section at a time: a section runs
between two awaits, so nothing else moves the store while it does. It reads the store,
may be refused anywhere, and keeps what it had committed by then.
-/

namespace Horseness.ServiceCommands

open FallibleRuns ScriptText JsonValues ScriptEngine Canonical Cursors ForkContext Tasks
  AttemptReceipts TaskPlans ExecutionEvents Execution EventPayloads EventChains Replay Turns
  ExecutionStore ServiceViews

variable [Engine]

/-- What a section does that can be seen from outside, in order. -/
inductive Emission where
  | committed (store : Store)
  /-- A command id of the service's own is recorded with another request. -/
  | reused (runId commandId : JsString)
  /-- The adapter is asked to launch an attempt while the run has these events. -/
  | launching (runId key : JsString) (events : List HashedEventEnvelopeV1)
  /-- A round of `driveWorkflow` ended with the task that it ran, or with a plan adopted. -/
  | continued (runId workflowId : JsString) (taskId : Option JsString)

structure Ledger where
  store : Store
  emitted : List Emission

abbrev Section (Result : Type) := Turn Failure Ledger Result

section Primitives

def ask {Result : Type} (checked : Except DomainError Result) : Section Result :=
  check (checked.mapError .domain)

def stored : Section Store := do
  let ledger ← get
  return ledger.store

def emit (emission : Emission) : Section Unit :=
  modify fun ledger => { ledger with emitted := ledger.emitted ++ [emission] }

def commit (store : Store) : Section Unit :=
  modify fun ledger => ⟨store, ledger.emitted ++ [.committed store]⟩

def viewed (runId : JsString) : Section ExecutionView := do
  let store ← stored
  ask (viewOf store runId)

def sealEvents (workspaceId runId commandId principalId : JsString) :
    Nat → Nat → JsString → List RunEventPayloadV1 → Except DomainError (List HashedEventEnvelopeV1)
  | _, _, _, [] => .ok []
  | index, sequence, prior, payload :: rest => do
      let eventId ← domainDigest (js "horseness.execution-event-id.v1")
        (object [("commandId", .str commandId), ("index", natural index)])
      let event ← sealEventEnvelope {
        streamKind := .run
        workspaceId := workspaceId
        streamId := runId
        sequence := sequence
        eventId := eventId
        eventType := payload.eventType
        principalId := principalId
        causationId := commandId
        correlationId := commandId
        idempotencyKey := commandId ++ js ":" ++ decimal index
        priorEnvelopeHash := some prior
        payloadHash := []
        payload := .run payload }
      let later ← sealEvents workspaceId runId commandId principalId (index + 1) (sequence + 1)
        event.envelopeHash rest
      return event :: later

def execution (view : ExecutionView) (payload : TaskExecutionPayloadV1) : RunEventPayloadV1 :=
  .taskExecution ⟨view.cursor.workspaceId, view.cursor.runId, payload⟩

/-- Who appends, and under which command. Only a client's command has a request digest. -/
structure AppendCommand where
  commandId : JsString
  principalId : JsString
  expectation : Option AuthorityStateExpectationV1
  publications : List JsString
  clientRequestDigest : Option JsString

def appendRequest (view : ExecutionView) (command : AppendCommand)
    (events : List HashedEventEnvelopeV1) : AppendRequest :=
  { commandId := command.commandId
    workspaceObservationCursor := view.cursor
    authorityStateExpectations := command.expectation
    clientRequestDigest := command.clientRequestDigest
    expectedSequence := view.cursor.runSequence
    expectedEnvelopeHash := view.cursor.runEnvelopeHash
    envelopeHashes := events.map HashedEventEnvelopeV1.envelopeHash
    requiredArtifactDigests := command.publications.eraseDups }

def cursorAt (cursor : CompositeCursorV1) (head : RunHead) : CompositeCursorV1 :=
  { cursor with
    runSequence := head.sequence
    runEnvelopeHash := head.envelopeHash
    runContextEpoch := head.sequence - 1 }

variable (w : Surroundings)

def append (view : ExecutionView) (payloads : List RunEventPayloadV1) (command : AppendCommand) :
    Section CompositeCursorV1 := do
  let events ← ask (sealEvents view.cursor.workspaceId view.cursor.runId command.commandId
    command.principalId 0 (view.cursor.runSequence + 1) view.cursor.runEnvelopeHash payloads)
  let last ← ask (required events.getLast? .executionInvalid)
  let _ ← ask (view.stream.extend events)
  check (w.publish command.publications)
  let store ← stored
  match appendAtomic store w.current view.cursor.runId (appendRequest view command events) events with
  | .error failure => do
      if failure = .conflict true ∧ command.clientRequestDigest = none then
        emit (.reused view.cursor.runId command.commandId)
      throw failure
  | .ok none => return cursorAt view.cursor (headOf last)
  | .ok (some next) => do
      commit next
      return cursorAt view.cursor (headOf last)

end Primitives

section Attempts

variable (w : Surroundings)

def internal (commandId principalId : JsString) (expectation : Option AuthorityStateExpectationV1) :
    AppendCommand :=
  ⟨commandId, principalId, expectation, [], none⟩

def referenceTo (prepared : TaskExecutionPreparedDataV1) : AttemptReference :=
  ⟨prepared.taskId, prepared.attemptId, prepared.generation, prepared.profileDigest⟩

def preparedKey (prepared : TaskExecutionPreparedDataV1) : JsString :=
  attemptKey prepared.attemptId prepared.generation

def transition (runId : JsString) (prepared : TaskExecutionPreparedDataV1) (input : DispatchInputV1)
    (suffix : JsString) (expectation : Option AuthorityStateExpectationV1) : Section Unit := do
  let view ← viewed runId
  let _ ← append w view
    [execution view (.taskExecutionTransitionV1 (referenceTo prepared) input)]
    (internal (prepared.attemptId ++ js ":" ++ suffix) prepared.forkPin.core.createdByPrincipalId
      expectation)
  return ()

def noRetryDigest : Except DomainError JsString :=
  domainDigest (js "horseness.task-retry-policy.v1") (object [("automaticRetries", natural 0)])

def resolveTaskResult (runId taskId : JsString) (cancelled : Bool) : Section Unit := do
  let view ← viewed runId
  if (view.state.resolutions.get taskId).isSome then return ()
  else do
    let attempts ← ask (ServiceViews.taskAttempts view taskId)
    let generations := attempts.map AttemptView.state
    let retryPolicyDigest ← ask noRetryDigest
    let resolution ← ask (resolveTask {
      taskId := taskId
      generations := generations
      retryPolicyDigest := retryPolicyDigest
      retryPermitted := false
      cancellationRequested := cancelled ||
        generations.any fun attempt => attempt.state = .terminal .cancelled
      observationCursor := view.cursor })
    match resolution with
    | none => return ()
    | some resolution => do
        (view.state.receipts.values.filter fun receipt => receipt.taskId = taskId).forM fun receipt =>
          check (w.storedReceipt receipt)
        let _ ← append w view
          [execution view (.taskResolvedV2 resolution ⟨w.clock, .composite view.cursor⟩)]
          (internal (js "resolve:" ++ taskId) view.workspace.authorityPrincipalId none)
        return ()

def receiptObjects (receipt : AttemptReceiptEnvelopeV1) : List JsString :=
  (receipt.evidence.map ReceiptEvidenceV1.digest ++ receipt.outputDigest.toList).eraseDups

def submitReceipt (runId : JsString) (receipt : AttemptReceiptEnvelopeV1) (actor : ExecutionActorV1)
    (publications : List ExecutionPublicationV1) : Section CompositeCursorV1 := do
  ask (verifyAttemptReceipt receipt)
  let view ← viewed runId
  let key := attemptKey receipt.attemptId receipt.generation
  let prepared ← ask (required (view.state.prepared.get key) .taskNotFound)
  let observed ← ask (authorize w view.cursor.workspaceId actor runId prepared.taskId .receiptSubmit
    (some prepared.profile.adapterId))
  ask (ensure (actor.principalId = prepared.binding.allowedProducerPrincipalId ∧
    actor.grantDigest = prepared.binding.allowedProducerGrantDigest ∧
    observed.grant.attemptId = some receipt.attemptId ∧
    observed.grant.generation = some receipt.generation) .authorizationDenied)
  match view.state.receipts.get key with
  | some previous => do
      ask (ensure (previous.receiptDigest = receipt.receiptDigest) .receiptConflict)
      return view.cursor
  | none => do
      check (w.suppliedObjects prepared receipt publications)
      let result ← append w view
        [execution view (.taskExecutionReceiptV1 (referenceTo prepared) receipt)]
        ⟨prepared.attemptId ++ js ":receipt:" ++ receipt.receiptDigest, actor.principalId,
          some observed.expectation, receiptObjects receipt, none⟩
      resolveTaskResult w runId prepared.taskId false
      return result

end Attempts

section Preparation

variable (w : Surroundings)

def contextSourceDigest (text : JsString) : Except DomainError JsString :=
  domainDigest (js "horseness.context-source-bytes.v1")
    (.str (base64 (utf8 (Engine.normalizeNFC text))))

def systemText : JsString :=
  js "Execute the task contract below in the selected workspace. Dependency results are already completed work; integrate them rather than repeating them. Report the actual result and any failed acceptance criteria. Never claim an unperformed check succeeded. Only the coordinator may change canonical state. For planner tasks, follow the closed JSON planning instructions and do not modify files.\n"

def maxContextBytes : Nat := 1048576

def dependencyResult (view : ExecutionView) (outcome : DependencyOutcomeV1) :
    Except Failure JsValue := do
  let receipt := view.state.receipts.values.find? fun item =>
    item.taskId = outcome.sourceTaskId ∧ some item.generation = outcome.winningGeneration
  let resolution ← required (view.state.resolutions.get outcome.sourceTaskId)
    (.domain .taskNotReady)
  let output ← (receipt.bind fun item => item.outputDigest).toList.mapM w.output
  return object [("taskId", .str outcome.sourceTaskId), ("resolution", resolution.toJson),
    ("receiptDigest", nullable .str (receipt.map AttemptReceiptEnvelopeV1.receiptDigest)),
    ("output", nullable .str output.head?)]

/-- The kinds and texts of a task's context, before they are put in normal form. -/
def contextChunks (view : ExecutionView) (profile : TaskExecutionProfileV1) (task : TaskContractV2)
    (outcomes : List DependencyOutcomeV1) (policy : PolicySelection) :
    Except Failure (List (JsString × JsString)) := do
  let results ← outcomes.mapM (dependencyResult w view)
  let line (value : JsValue) : Except Failure JsString := do
    let text ← (canonicalJson value).mapError .domain
    return text ++ js "\n"
  let profileText ← line profile.toJson
  let taskText ← line task.toJson
  let documentText ← line view.canonical.document
  let resultsText ← line (.arr results)
  return [(js "system", systemText), (js "execution-profile", profileText), (js "task", taskText),
    (js "canonical", documentText), (js "dependency", resultsText),
    (js "pinned-policy", policy.policyText ++ js "\n")]

def describeChunks (profileDigest : JsString) :
    Nat → Nat → List (JsString × JsString) → Except DomainError (List SourceDescriptorV1)
  | _, _, [] => .ok []
  | priority, offset, (kind, text) :: rest => do
      let digest ← if kind = js "execution-profile" then pure profileDigest
        else contextSourceDigest text
      let finish := offset + byteLength text
      let later ← describeChunks profileDigest (priority + 1) finish rest
      return ⟨kind, digest, offset, finish, priority⟩ :: later

def attemptIdOf (workflowId taskId : JsString) : Except DomainError JsString := do
  let digest ← domainDigest (js "horseness.task-attempt.v1")
    (object [("workflowId", .str workflowId), ("taskId", .str taskId)])
  return js "attempt:" ++ digest

/-- `toISOString` throws for what is no time. -/
def isoTime (time : Option Int) : Except Failure JsString :=
  match time with
  | some value => .ok (Engine.toISOString value)
  | none => .error (.thrown (js "EXECUTION_FAILED"))

def attemptJoin (view : ExecutionView) (task : TaskContractV2) (attemptId contractDigest : JsString)
    (outcomes : List DependencyOutcomeV1) : DependencyJoinSnapshotCoreV1 :=
  { runId := view.cursor.runId
    taskId := task.taskId
    taskContractDigest := contractDigest
    joinEvaluationId := attemptId ++ js ":join"
    joinObservationCursor := view.cursor
    dependencies := outcomes
    schedulability := .ready
    reasonCodes := [] }

def sealedJoin (join : DependencyJoinSnapshotCoreV1) : DependencyJoinSnapshotCoreV1 :=
  { join with
    dependencies := join.dependencies.insertionSort dependencyBefore
    reasonCodes := join.reasonCodes.dedup.insertionSort (· ≤ ·) }

def contextVersion (view : ExecutionView) : ContextVersionV1 :=
  .composite view.cursor.workspaceContextEpoch view.cursor.runContextEpoch view.cursor

def attemptPin (view : ExecutionView) (authorization : TaskWorkflowAuthorizationV1)
    (attemptId joinDigest scopeDigest policyDigest : JsString) : ForkPinCoreV1 :=
  { forkId := attemptId ++ js ":fork"
    pinVersion := 1
    workspaceId := view.cursor.workspaceId
    runId := view.cursor.runId
    parentForkPinDigest := none
    refreshesForkPinDigest := none
    canonicalRevision := view.canonical.revision
    canonicalStateHash := view.canonical.stateHash
    sourceObservationCursor := view.cursor
    sourceContextVersion := contextVersion view
    dependencyJoinSnapshotDigest := joinDigest
    deltaAuthorityScopeDigest := scopeDigest
    pinnedPolicyDigest := policyDigest
    ancestry := []
    createdByPrincipalId := authorization.issuerPrincipalId
    createdByGrantDigest := authorization.issuerGrantDigest }

def attemptManifest (view : ExecutionView) (authorization : TaskWorkflowAuthorizationV1)
    (attemptId forkPinDigest quotaDigest renderedOutputDigest : JsString)
    (sources : List SourceDescriptorV1) (selectedBytes : Nat) : ContextManifestCoreV1 :=
  { workspaceId := view.cursor.workspaceId
    runId := view.cursor.runId
    attemptId := attemptId
    generation := 1
    forkPinDigest := forkPinDigest
    sourceObservationCursor := view.cursor
    sourceContextVersion := contextVersion view
    authorizationObservationCursor := .composite view.cursor
    authorizationContextVersion := contextVersion view
    authorizationOverlayV1 := ⟨view.workspace.activePolicyDigest, authorization.issuerGrantDigest,
      quotaDigest, true⟩
    canonicalRevision := view.canonical.revision
    canonicalStateHash := view.canonical.stateHash
    sources := sources
    rendererVersion := js "task-execution-v1"
    omissions := []
    selectedBytes := selectedBytes
    byteBudget := maxContextBytes
    tokenizerMetadata := .null
    renderedOutputDigest := renderedOutputDigest }

def attemptBinding (view : ExecutionView) (producer : JsString × JsString)
    (attemptId forkPinDigest manifestDigest providerIdempotencyKey : JsString) :
    AttemptContextBindingV1 :=
  { attemptId := attemptId
    generation := 1
    forkPinDigest := forkPinDigest
    contextManifestCoreDigest := manifestDigest
    sourceObservationCursor := view.cursor
    sourceContextVersion := contextVersion view
    authorizationObservationCursor := .composite view.cursor
    authorizationContextVersion := contextVersion view
    providerIdempotencyKey := providerIdempotencyKey
    allowedProducerPrincipalId := producer.1
    allowedProducerGrantDigest := producer.2 }

/-- The process that holds the lease of what it prepares. -/
structure Process where
  bootId : JsString
  processId : JsString
  deriving DecidableEq

def attemptLease (process : Process) (view : ExecutionView) (issuedAt expiresAt : JsString)
    (durationMs : Nat) : TaskExecutionLeaseV1 :=
  { ownerId := process.bootId ++ js ":" ++ process.processId
    bootId := process.bootId
    processId := process.processId
    issuedAt := issuedAt
    expiresAt := expiresAt
    durationMs := durationMs
    fenceToken := 1
    observationCursor := view.cursor }

/-- The records of a new attempt and the digests of what is published with it. -/
def newAttempt (process : Process) (view : ExecutionView)
    (authorization : TaskWorkflowAuthorizationV1) (task : TaskContractV2)
    (attemptId profileDigest : JsString) (outcomes : List DependencyOutcomeV1)
    (policy : PolicySelection) (producer : JsString × JsString) :
    Except Failure (TaskExecutionPreparedDataV1 × List JsString) := do
  let domain {Result : Type} (checked : Except DomainError Result) : Except Failure Result :=
    checked.mapError .domain
  let contractDigest ← domain (taskContractDigestV2 task)
  let join := attemptJoin view task attemptId contractDigest outcomes
  let joinDigest ← domain (sealDependencyJoinSnapshot join)
  let scopeDigest ← domain (domainDigest (js "horseness.delta-authority-scope.v1")
    (object [("schemaVersion", .str (js "1")), ("workspaceId", .str view.cursor.workspaceId),
      ("runId", .str view.cursor.runId), ("taskId", .str task.taskId), ("roots", texts [])]))
  let forkPin ← domain (sealForkPin
    (attemptPin view authorization attemptId joinDigest scopeDigest policy.policyDigest))
  let chunks ← contextChunks w view authorization.executionProfile task outcomes policy
  let normal := chunks.map fun chunk => (chunk.1, Engine.normalizeNFC chunk.2)
  let sources ← domain (describeChunks profileDigest 0 0 normal)
  let renderedContext := (normal.map Prod.snd).flatten
  let selectedBytes := (normal.map fun chunk => byteLength chunk.2).sum
  ensure (selectedBytes ≤ maxContextBytes) (.domain .executionInvalid)
  let rendered ← domain (contextSourceDigest renderedContext)
  let manifest := attemptManifest view authorization attemptId forkPin.forkPinDigest
    policy.quotaDigest rendered sources selectedBytes
  let issued := Engine.dateParse w.clock
  let issuedAt ← isoTime issued
  let manifestDigest ← domain (contextManifestCoreDigest manifest)
  let providerKey ← domain (domainDigest (js "horseness.task-provider-key.v1")
    (object [("workspaceId", .str view.cursor.workspaceId), ("runId", .str view.cursor.runId),
      ("attemptId", .str attemptId), ("generation", natural 1)]))
  let expiresAt ← isoTime ((Engine.dateParse issuedAt).map fun time =>
    time + authorization.executionProfile.timeoutMs)
  let manifestText ← domain (canonicalJson manifest.toJson)
  let pinText ← domain (canonicalJson (object [("core", forkPin.core.toJson),
    ("forkPinDigest", .str forkPin.forkPinDigest), ("forkPinId", .str forkPin.forkPinId)]))
  let profileText ← domain (canonicalJson authorization.executionProfile.toJson)
  return ({
    workflowId := some authorization.workflowId
    taskId := task.taskId
    attemptId := attemptId
    generation := 1
    profile := authorization.executionProfile
    profileDigest := profileDigest
    forkPin := forkPin
    join := sealedJoin join
    manifest := manifest
    binding := attemptBinding view producer attemptId forkPin.forkPinDigest manifestDigest providerKey
    renderedContext := renderedContext
    evaluationClock := ⟨issuedAt, .composite view.cursor⟩
    lease := attemptLease process view issuedAt expiresAt authorization.executionProfile.timeoutMs },
    [renderedContext, manifestText, pinText, profileText].map Engine.sha256Hex)

/-- The attempt that a task has already, if this workflow may go on with it. -/
def retainedAttempt (authorization : TaskWorkflowAuthorizationV1) (retained : AttemptView) :
    Except DomainError TaskExecutionPreparedDataV1 := do
  let profileDigest ← taskExecutionProfileDigest authorization.executionProfile
  ensure (retained.prepared.profileDigest = profileDigest) .executionProfileMismatch
  ensure (retained.state.state = .planned →
    retained.prepared.workflowId = some authorization.workflowId ∧
    retained.prepared.forkPin.core.createdByPrincipalId = authorization.issuerPrincipalId ∧
    retained.prepared.forkPin.core.createdByGrantDigest = authorization.issuerGrantDigest)
    .authorizationDenied
  return retained.prepared

def prepareFirst (process : Process) (view : ExecutionView)
    (authorization : TaskWorkflowAuthorizationV1) (taskId : JsString) :
    Section TaskExecutionPreparedDataV1 := do
  let found ← ask (dependencies view taskId)
  ask (ensure (found.satisfied = true ∧ found.unknown = false ∧ found.cancelled = false)
    .taskNotReady)
  let attemptId ← ask (attemptIdOf authorization.workflowId taskId)
  let profileDigest ← ask (taskExecutionProfileDigest authorization.executionProfile)
  let producer ← check (w.producer {
    actor := ⟨authorization.issuerPrincipalId, authorization.issuerGrantDigest⟩
    runId := view.cursor.runId
    taskId := taskId
    attemptId := attemptId
    generation := 1
    adapterId := bridgeAdapter authorization.executionProfile.adapterId
    expiresAt := authorization.expiresAt })
  let observed ← ask (workflowAuthority w view.cursor.workspaceId view authorization)
  let policy ← ask (w.checkPolicy view taskId profileDigest)
  let task ← ask (required (view.state.contracts.get taskId) .taskNotFound)
  let (prepared, publications) ← check (newAttempt w process view authorization task attemptId
    profileDigest found.outcomes policy producer)
  let _ ← append w view [execution view (.taskExecutionPreparedV1 prepared)]
    ⟨attemptId ++ js ":prepare", authorization.issuerPrincipalId, some observed.expectation,
      publications, none⟩
  return prepared

/-- The task is activated if it is a draft, and has an attempt afterwards. -/
def prepare (process : Process) (runId : JsString) (authorization : TaskWorkflowAuthorizationV1)
    (taskId : JsString) : Section TaskExecutionPreparedDataV1 := do
  let view ← viewed runId
  let observed ← ask (workflowAuthority w view.cursor.workspaceId view authorization)
  ask (assertTaskWorkflowLaunchV1 view.state authorization.workflowId taskId w.clock
    authorization.issuerPrincipalId authorization.issuerGrantDigest)
  let attempts ← ask (ServiceViews.taskAttempts view taskId)
  let store ← stored
  ask (assertWorkspaceAvailable store (attempts.getLast?.map AttemptView.key))
  if view.state.lifecycles.get taskId = some .draft then do
    let _ ← append w view [execution view (.taskActivatedV1 taskId)]
      (internal (authorization.workflowId ++ js ":activate:" ++ taskId)
        authorization.issuerPrincipalId (some observed.expectation))
    let view ← viewed runId
    let _ ← ask (workflowAuthority w view.cursor.workspaceId view authorization)
    prepareOrRetain view
  else prepareOrRetain view
where
  prepareOrRetain (view : ExecutionView) : Section TaskExecutionPreparedDataV1 := do
    let attempts ← ask (ServiceViews.taskAttempts view taskId)
    match attempts.getLast? with
    | some retained => ask (retainedAttempt authorization retained)
    | none => prepareFirst w process view authorization taskId

end Preparation

end Horseness.ServiceCommands
