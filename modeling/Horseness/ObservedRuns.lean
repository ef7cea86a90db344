import Horseness.RunResponses
import Horseness.WorkspaceBootstrap

/-!
Whether the state of a run can be read over the framed transport. A response repeats the whole
projection of the run, or all that is told of a task, so it is written exactly while the recorded
parts leave room in the frame; a request that just fits creates a run that is past it.
-/

namespace Horseness.ObservedRuns

open FallibleRuns Records ScriptText JsonValues JsonText ScriptEngine Canonical Cursors Tasks
  TaskPlans ExecutionEvents Execution EventPayloads EventChains Replay ReplaySteps Turns
  ExecutionStore ServiceViews ServiceCommands ServiceRequests ServiceSteps ServiceRuns LineFraming
  WellFormedText IdealDigests JsonSizes RunResponses

section Sizes

variable [NumberFormat]

def partsSize (parts : List (String × Nat)) : Nat :=
  frameSize (parts.map Prod.fst) + (parts.map Prod.snd).sum

def dictionarySize {Value : Type} (write : Value → JsValue) (record : Record JsString Value) : Nat :=
  2 + (record.entries.map fun entry => textSize entry.1 + 1 + size (write entry.2)).sum +
    (record.entries.length - 1)

def listSize {Item : Type} (write : Item → JsValue) (items : List Item) : Nat :=
  2 + (items.map fun item => size (write item)).sum + (items.length - 1)

def nullableSize {Value : Type} (measure : Value → Nat) : Option Value → Nat
  | none => 4
  | some value => measure value

def cursorSize (cursor : CompositeCursorV1) : Nat := size cursor.toJson

def canonicalSize (document : CanonicalDocument) : Nat :=
  partsSize [("workspaceId", textSize document.workspaceId), ("runId", textSize document.runId),
    ("revision", size (natural document.revision)), ("document", size document.document),
    ("stateHash", textSize document.stateHash), ("hashAlgorithmVersion", 11),
    ("canonicalizerVersion", 8), ("acceptedProposalId", nullableSize textSize document.acceptedProposalId),
    ("lastCanonicalEventSequence", size (natural document.lastCanonicalEventSequence))]

/-- The contracts of the tasks, their attempts with their contexts, their plans and workflows. -/
def executionSize (state : TaskExecutionProjectionV1) : Nat :=
  partsSize [("contracts", dictionarySize TaskContractV2.toJson state.contracts),
    ("lifecycles", dictionarySize (fun lifecycle => .str (TaskLifecycle.text lifecycle))
      state.lifecycles),
    ("edges", listSize DependencyEdgeV1.toJson state.edges),
    ("prepared", dictionarySize preparedJson state.prepared),
    ("attempts", dictionarySize attemptJson state.attempts),
    ("aborted", dictionarySize abortJson state.aborted),
    ("receipts", dictionarySize receiptJson state.receipts),
    ("resolutions", dictionarySize TaskResolutionV1.toJson state.resolutions),
    ("plans", dictionarySize TaskPlanV1.toJson state.plans),
    ("plansByPlanner", dictionarySize .str state.plansByPlanner),
    ("latestPlansByTask", dictionarySize .str state.latestPlansByTask),
    ("planRejectionsByPlanner", dictionarySize .str state.planRejectionsByPlanner),
    ("adopted", dictionarySize texts state.adopted),
    ("planRejections", dictionarySize .str state.planRejections),
    ("workflows", dictionarySize workflowJson state.workflows)]

def operationalSize (state : RunOperationalState) : Nat :=
  partsSize [("workspaceId", textSize state.workspaceId), ("runId", textSize state.runId),
    ("eventCount", size (natural state.eventCount)),
    ("proposals", dictionarySize proposalJson state.proposals),
    ("receipts", dictionarySize receiptRecordJson state.receipts),
    ("tasks", dictionarySize taskViewJson state.tasks),
    ("taskStates", dictionarySize (fun resolution => .str resolution.text) state.taskStates),
    ("execution", executionSize state.execution),
    ("contextEpoch", size (natural state.contextEpoch)),
    ("lastEventSequence", size (natural state.lastEventSequence))]

def responseSize (id : JsonRpcId) (method : String) (value resultCursor : Nat) : Nat :=
  partsSize [("jsonrpc", 5), ("id", size id.toJson), ("result",
    partsSize [("schemaVersion", 3), ("method", textSize (js method)), ("resultCursor", resultCursor),
      ("data", partsSize [("schemaVersion", 3), ("resultType", textSize (js method)),
        ("value", value)])])]

/-- What a task's own parts take: its contract's texts, its sources, its attempts, its output, its
plan and its workflow. -/
def descriptionSize (task : TaskDescription) : Nat :=
  partsSize [("taskId", textSize task.taskId), ("title", textSize task.title),
    ("lifecycle", textSize (TaskLifecycle.text task.lifecycle)),
    ("schedulability", textSize task.schedulability.text), ("kind", textSize task.kind.text),
    ("dependencies", listSize .str task.dependencies),
    ("attempts", listSize attemptDescription task.attempts), ("output", nullableSize textSize task.output),
    ("plan", nullableSize (fun plan => size (planDescription plan)) task.plan),
    ("planRevision", nullableSize (fun revision => size (PlanRevision.toJson revision))
      task.planRevision),
    ("planRejection", nullableSize textSize task.planRejection),
    ("workflow", nullableSize (fun workflow => size (workflowDescription workflow)) task.workflow)]

end Sizes

section Observation

variable [Engine]

def runSize (id : JsonRpcId) (view : ExecutionView) : Nat :=
  responseSize id "run.get.v1" (partsSize [("schemaVersion", 3), ("resultType", 18),
    ("observationCursor", cursorSize view.cursor),
    ("state", partsSize [("canonical", canonicalSize view.stream.replay.canonical),
      ("operational", operationalSize view.stream.replay.operational)])]) (cursorSize view.cursor)

def taskSize (query : Query) (cursor : CompositeCursorV1) (task : TaskDescription) : Nat :=
  responseSize query.id "task.get.v1" (partsSize [("outcomeId", textSize query.operationId),
    ("status", 11), ("task", descriptionSize task), ("observationCursor", cursorSize cursor)]) 4

/-- The writer takes what the daemon answers, for each run and for each of its tasks. -/
structure Observable (limit : FrameLimit) (w : Surroundings) (query : Query) (store : Store) : Prop where
  runs : ∀ runId response, runGet store query runId = .ok response →
    ∃ frame, writeFrame limit response = .ok frame
  tasks : ∀ runId taskId response, taskGet w store query runId taskId = .ok response →
    ∃ frame, writeFrame limit response = .ok frame

/-- What is recorded of each run leaves room in a frame, and so does what is told of each task. -/
structure Room (limit : FrameLimit) (w : Surroundings) (query : Query) (store : Store) : Prop where
  runs : ∀ runId view, viewOf store runId = .ok view → runSize query.id view ≤ limit.bytes
  tasks : ∀ runId view taskId task, viewOf store runId = .ok view →
    taskDescription w store view taskId query.actor true = .ok task →
    taskSize query view.cursor task ≤ limit.bytes

def RoomyStep (limit : FrameLimit) (w : Surroundings) (query : Query) (before after : Store) : Prop :=
  ServiceStep before after ∧ Room limit w query after

end Observation

section Measures

variable [NumberFormat]

theorem object_parts (fields : List (String × JsValue))
    (unique : (fields.map fun field => js field.1).Nodup) :
    size (object fields) = partsSize (fields.map fun field => (field.1, size field.2)) := by
  rw [size_object fields unique, partsSize, List.map_map, List.map_map]
  rfl

omit [NumberFormat] in
theorem parts_least (parts : List (String × Nat)) : frameSize (parts.map Prod.fst) ≤ partsSize parts :=
  Nat.le_add_right _ _

theorem dictionary_size {Value : Type} (write : Value → JsValue) (record : Record JsString Value) :
    size (recordJson write record) = dictionarySize write record :=
  size_dictionary write record

theorem list_size {Item : Type} (write : Item → JsValue) (items : List Item) :
    size (.arr (items.map write)) = listSize write items := by
  rw [size_array, List.map_map, List.length_map]
  rfl

theorem nullable_size {Value : Type} (write : Value → JsValue) (value : Option Value) :
    size (nullable write value) = nullableSize (fun value => size (write value)) value := by
  cases value <;> rfl

theorem canonical_size (document : CanonicalDocument) :
    size (canonicalDocumentJson document) = canonicalSize document := by
  rw [canonicalDocumentJson, object_parts _ (by simp only [List.map_cons, List.map_nil]; decide)]
  simp only [List.map_cons, List.map_nil, nullable_size]
  rfl

theorem execution_size (state : TaskExecutionProjectionV1) :
    size (executionJson state) = executionSize state := by
  rw [executionJson, object_parts _ (by simp only [List.map_cons, List.map_nil]; decide)]
  simp only [List.map_cons, List.map_nil, dictionary_size, list_size]
  rfl

theorem operational_size (state : RunOperationalState) :
    size (operationalJson state) = operationalSize state := by
  rw [operationalJson, object_parts _ (by simp only [List.map_cons, List.map_nil]; decide)]
  simp only [List.map_cons, List.map_nil, dictionary_size, execution_size]
  rfl

theorem response_size (id : JsonRpcId) (method : String) (value resultCursor : JsValue) :
    size (successResponse id method value resultCursor) =
      responseSize id method (size value) (size resultCursor) := by
  rw [successResponse, object_parts _ (by simp only [List.map_cons, List.map_nil]; decide)]
  simp only [List.map_cons, List.map_nil]
  rw [object_parts _ (by simp only [List.map_cons, List.map_nil]; decide)]
  simp only [List.map_cons, List.map_nil]
  rw [object_parts _ (by simp only [List.map_cons, List.map_nil]; decide)]
  rfl

theorem description_size (task : TaskDescription) : size task.toJson = descriptionSize task := by
  rw [TaskDescription.toJson, object_parts _ (by simp only [List.map_cons, List.map_nil]; decide)]
  simp only [List.map_cons, List.map_nil, nullable_size, list_size, texts]
  rfl

end Measures

section Frames

variable [Engine] {limit : FrameLimit} {w : Surroundings} {query : Query} {store : Store}

theorem frame_iff (value : JsValue) :
    (∃ frame, writeFrame limit value = .ok frame) ↔ size value ≤ limit.bytes := by
  have length : (utf8 (JsonWriting.stringify value ++ js "\n")).length - 1 = size value := by
    rw [frame_written, List.length_append, List.length_singleton, Nat.add_sub_cancel]
    rfl
  rw [writeFrame, length]
  by_cases past : limit.bytes < size value
  · simp [past]
  · simp [past, Nat.le_of_not_lt past]

def runAnswer (query : Query) (view : ExecutionView) : JsValue :=
  successResponse query.id "run.get.v1"
    (object [("schemaVersion", .str (js "1")), ("resultType", .str (js "RunQueryResultV1")),
      ("observationCursor", view.cursor.toJson), ("state", replayJson view.stream.replay)])
    view.cursor.toJson

def taskAnswer (query : Query) (cursor : CompositeCursorV1) (task : TaskDescription) : JsValue :=
  successResponse query.id "task.get.v1"
    (object [("outcomeId", .str query.operationId), ("status", .str (js "completed")),
      ("task", task.toJson), ("observationCursor", cursor.toJson)]) .null

theorem run_size (view : ExecutionView) : size (runAnswer query view) = runSize query.id view := by
  rw [runAnswer, response_size, object_parts _ (by simp only [List.map_cons, List.map_nil]; decide),
    replayJson]
  simp only [List.map_cons, List.map_nil]
  rw [object_parts _ (by simp only [List.map_cons, List.map_nil]; decide)]
  simp only [List.map_cons, List.map_nil, canonical_size, operational_size]
  rfl

theorem task_size (cursor : CompositeCursorV1) (task : TaskDescription) :
    size (taskAnswer query cursor task) = taskSize query cursor task := by
  rw [taskAnswer, response_size, object_parts _ (by simp only [List.map_cons, List.map_nil]; decide)]
  simp only [List.map_cons, List.map_nil, description_size]
  rfl

theorem run_get_ok_iff {runId : JsString} {response : JsValue} :
    runGet store query runId = .ok response ↔
      ∃ view, viewOf store runId = .ok view ∧ runAnswer query view = response := by
  simp only [runGet, bind_ok_iff, pure_ok_iff]
  rfl

theorem task_get_ok_iff {runId taskId : JsString} {response : JsValue} :
    taskGet w store query runId taskId = .ok response ↔ ∃ view task,
      viewOf store runId = .ok view ∧ taskDescription w store view taskId query.actor true = .ok task ∧
        taskAnswer query view.cursor task = response := by
  simp only [taskGet, bind_ok_iff, map_error_ok_iff, pure_ok_iff]
  constructor
  · rintro ⟨view, seen, task, described, rfl⟩
    exact ⟨view, task, seen, described, rfl⟩
  · rintro ⟨view, task, seen, described, rfl⟩
    exact ⟨view, seen, task, described, rfl⟩

theorem observable_iff : Observable limit w query store ↔ Room limit w query store := by
  constructor
  · intro observed
    constructor
    · intro runId view seen
      have written := observed.runs runId _ (run_get_ok_iff.mpr ⟨view, seen, rfl⟩)
      rwa [frame_iff, run_size] at written
    · intro runId view taskId task seen described
      have written := observed.tasks runId taskId _
        (task_get_ok_iff.mpr ⟨view, task, seen, described, rfl⟩)
      rwa [frame_iff, task_size] at written
  · intro room
    constructor
    · intro runId response answered
      obtain ⟨view, seen, rfl⟩ := run_get_ok_iff.mp answered
      rw [frame_iff, run_size]
      exact room.runs runId view seen
    · intro runId taskId response answered
      obtain ⟨view, task, seen, described, rfl⟩ := task_get_ok_iff.mp answered
      rw [frame_iff, task_size]
      exact room.tasks runId view taskId task seen described

theorem unused_room (unused : Unused store) : Room limit w query store := by
  have missing : ∀ runId view, viewOf store runId ≠ .ok view := by
    intro runId view seen
    simp only [viewOf, bind_ok_iff, required_ok_iff, unused.1] at seen
    obtain ⟨stream, found, _⟩ := seen
    cases found
  exact ⟨fun runId view seen => absurd seen (missing runId view),
    fun runId view _ _ seen => absurd seen (missing runId view)⟩

end Frames

section Creation

variable [Engine] {workspaceId principalId commandId : JsString} {cursor : AbsentRunGenesisCursorV1}
  {document : JsValue}

def creationEnvelope (cursor : AbsentRunGenesisCursorV1) (document : JsValue)
    (principalId commandId payloadHash : JsString) : EventEnvelopeV1 where
  streamKind := .run
  workspaceId := cursor.workspaceId
  streamId := cursor.runId
  sequence := 1
  eventId := commandId ++ js ":1"
  eventType := js "RunCreatedV1"
  principalId := principalId
  causationId := commandId
  correlationId := commandId
  idempotencyKey := commandId
  priorEnvelopeHash := none
  payloadHash := payloadHash
  payload := .run (.runCreatedV1 cursor.workspaceId cursor.runId document)

def Spelled (cursor : AbsentRunGenesisCursorV1) (principalId commandId : JsString) : Prop :=
  ∀ text ∈ [cursor.workspaceId, cursor.runId, principalId, commandId],
    text ≠ [] ∧ validUnicode text = true

def begunReplay (cursor : AbsentRunGenesisCursorV1) (document : JsValue) (stateHash : JsString) :
    ReplayResult where
  canonical := ⟨cursor.workspaceId, cursor.runId, 0, normalize document, stateHash, none, 1⟩
  operational := createRun ⟨1, cursor.workspaceId, cursor.runId, .runCreatedV1⟩

theorem creation_replayed (law : Hexadecimal Engine.sha256Hex)
    (spelled : Spelled cursor principalId commandId) (valid : assertJson document = .ok ()) :
    ∃ event stateHash, createRunGenesis cursor document principalId commandId = .ok event ∧
      event.envelope.eventId = commandId ++ js ":1" ∧ event.envelope.sequence = 1 ∧
      deterministicReplay [event] = .ok (begunReplay cursor document stateHash) := by
  simp only [Spelled, List.forall_mem_cons] at spelled
  obtain ⟨workspace, run, principal, command, -⟩ := spelled
  have payload : assertJson (DomainEventPayloadV1.run
      (.runCreatedV1 cursor.workspaceId cursor.runId document)).toJson = .ok () := by
    refine object_valid (by rfl) ?_
    simp only [runFields, List.map_cons, List.forall_mem_cons, assert_str_ok_iff, workspace.2, run.2,
      valid, true_and]
    exact ⟨(by decide : validUnicode (js "RunCreatedV1") = true), by decide, by decide, nofun⟩
  obtain ⟨payloadHash, hashed, -, printed⟩ := digest_made law (js "horseness.event-payload.v1") payload
  have envelope : assertJson
      (creationEnvelope cursor document principalId commandId payloadHash).toJson = .ok () := by
    refine object_valid (by rfl) ?_
    simp only [creationEnvelope, List.map_cons, List.forall_mem_cons, assert_str_ok_iff, nullable,
      null_valid, natural_valid, payload, workspace.2, run.2, principal.2, command.2, printed, true_and]
    exact ⟨by decide, by decide, valid_append command.2 (by decide), by decide, nofun⟩
  obtain ⟨hash, whole, -, -⟩ := digest_made law (js "horseness.event-envelope.v1") envelope
  obtain ⟨stateHash, stated, -, -⟩ := digest_made law (js "horseness.canonical-document.v1")
    (assert_normalize document valid)
  obtain ⟨checked, checks, -, -⟩ := digest_made law (js "horseness.replay-json-validation.v1") valid
  refine ⟨⟨creationEnvelope cursor document principalId commandId payloadHash, hash⟩, stateHash,
    bind_ok_iff.mpr ⟨payloadHash, hashed, bind_ok_iff.mpr ⟨hash, whole, rfl⟩⟩, rfl, rfl, ?_⟩
  have texts : (envelopeTexts (creationEnvelope cursor document principalId commandId payloadHash)).forM
      (nonEmpty · .eventEnvelopeInvalid) = .ok () := by
    rw [List.forM_eq_forM, forM_ok_iff]
    simp only [nonEmpty, ensure_ok_iff, envelopeTexts, creationEnvelope, List.forall_mem_cons]
    exact ⟨List.append_ne_nil_of_left_ne_nil command.1 _, by decide, principal.1, command.1, command.1,
      command.1, nofun⟩
  have parsed : parseDomainEventPayloadV1
      (.run (.runCreatedV1 cursor.workspaceId cursor.runId document)) = .ok () := by
    simp [parseDomainEventPayloadV1, parseRunEventPayloadV1, payloadText, payloadJson, nonEmpty, ensure,
      workspace.1, run.1, valid, Except.mapError]
  have verified : verifyEventChain
      [⟨creationEnvelope cursor document principalId commandId payloadHash, hash⟩] = .ok () := by
    have step : verifyEvent (creationEnvelope cursor document principalId commandId payloadHash) ⟨0, none⟩
        ⟨creationEnvelope cursor document principalId commandId payloadHash, hash⟩ =
          .ok ⟨1, some hash⟩ := by
      rw [verifyEvent, texts]
      simp only [creationEnvelope] at whole ⊢
      simp [ensure, hashed, whole, parsed, Except.mapError, DomainEventPayloadV1.eventType,
        RunEventPayloadV1.eventType, show 1 ≤ maxSafeInteger by decide]
    simp [verifyEventChain, required, ensure, step]
    simp [creationEnvelope, genesisType]
  rw [replay_ok_iff]
  refine ⟨verified, ⟨_, rfl, rfl⟩, ?_⟩
  simp only [List.foldlM_cons, List.foldlM_nil]
  have cloned : deepClone document = .ok (normalize document) := (clone_ok_iff _ _).mpr ⟨valid, rfl⟩
  have payload : operationalPayload (creationEnvelope cursor document principalId commandId payloadHash)
      (.run (.runCreatedV1 cursor.workspaceId cursor.runId document)) = .ok .runCreatedV1 := by
    simp [operationalPayload, replayText, nonEmpty, ensure, creationEnvelope, workspace.1, run.1, checks]
  have canonical : reduceCanonicalDocument none (.runCreatedV1 1 (some cursor.workspaceId) cursor.runId
      document) = .ok (begunReplay cursor document stateHash).canonical := by
    simp [reduceCanonicalDocument, ensure, cloned, documentDigest, stated, begunReplay]
  have replayed : replayEvent ⟨none, none⟩
      ⟨creationEnvelope cursor document principalId commandId payloadHash, hash⟩ =
        .ok ⟨some (begunReplay cursor document stateHash).canonical,
          some (begunReplay cursor document stateHash).operational⟩ := by
    simp only [creationEnvelope] at payload
    simp [replayEvent, creationEnvelope, payload, canonicalEvent, replayCanonical, canonical,
      reduceOperationalState, isRunCreated, ensure, begunReplay]
  rw [replayed]
  rfl

/-- A store without runs that the client has seen as it is. -/
structure Awaiting (store : Store) (cursor : AbsentRunGenesisCursorV1) (commandId : JsString) : Prop where
  runs : store.runs = .empty
  commands : store.commands = []
  consumed : store.consumed = []
  seen : cursor.workspaceSequence = store.workspace.sequence ∧
    cursor.workspaceEnvelopeHash = store.workspace.envelopeHash ∧
    cursor.workspaceContextEpoch = store.workspace.sequence - 1
  fresh : (store.eventIds ++ [commandId ++ js ":1"]).Nodup

-- The run is created, and reading it gives the projection that it begins with.
theorem creation_seen (law : Hexadecimal Engine.sha256Hex) {store : Store}
    (spelled : Spelled cursor principalId commandId) (valid : assertJson document = .ok ())
    (awaiting : Awaiting store cursor commandId) : ∃ view stateHash,
      viewOf (outcome (runCreate cursor document principalId commandId) ⟨store, []⟩).2.store
        cursor.runId = .ok view ∧ view.stream.replay = begunReplay cursor document stateHash := by
  obtain ⟨event, stateHash, made, named, numbered, replayed⟩ := creation_replayed law spelled valid
  have begun : ∃ stream, beginStream event = .ok stream ∧ stream.events = [event] ∧
      stream.replay = begunReplay cursor document stateHash := by
    unfold beginStream
    split
    next replay again =>
        exact ⟨_, rfl, rfl, Except.ok.inj (again.symm.trans replayed)⟩
    next code refused => cases replayed.symm.trans refused
  obtain ⟨stream, begins, events, replay⟩ := begun
  have missing : store.runs.get cursor.runId = none := by
    rw [awaiting.runs]
    rfl
  have unknown : ¬ Store.mentions store cursor.runId := by
    simp [Store.mentions, missing, awaiting.commands, awaiting.consumed]
  have unrecorded : store.command cursor.runId commandId = none := by
    simp [Store.command, awaiting.commands]
  let created : Store := { store with
    runs := store.runs.set cursor.runId stream
    commands := store.commands ++
      [⟨cursor.runId, commandId, .genesis cursor event.envelopeHash, .append none stream.head⟩] }
  have answered : outcome (runCreate cursor document principalId commandId) ⟨store, []⟩ =
      (.ok (), ⟨created, [] ++ [.committed created]⟩) := by
    simp only [runCreate, bind_answers_iff, ask_answers_iff, stored_answers_iff]
    refine ⟨event, _, ⟨made, rfl⟩, store, _, ⟨rfl, rfl⟩, ?_⟩
    rw [unrecorded]
    simp only [bind_answers_iff, ask_answers_iff, check_answers_iff, ensure_ok_iff, commit_answers_iff]
    exact ⟨(), _, ⟨awaiting.seen, rfl⟩, (), _, ⟨unknown, rfl⟩, (), _, ⟨named ▸ awaiting.fresh, rfl⟩,
      stream, _, ⟨begins, rfl⟩, rfl⟩
  have headed : stream.head = some (headOf event) := by
    rw [RunStream.head, events]
    rfl
  have found : created.runs.get cursor.runId = some stream := Record.get_set_same _ _ _
  have seen : ∃ view, viewOf created cursor.runId = .ok view ∧ view.stream = stream := by
    simp only [viewOf, bind_ok_iff, required_ok_iff, pure_ok_iff]
    exact ⟨_, ⟨stream, found, _, headed, rfl⟩, rfl⟩
  rw [answered]
  obtain ⟨view, seen, rfl⟩ := seen
  exact ⟨view, stateHash, seen, replay⟩

theorem cursor_least (cursor : CompositeCursorV1) : 174 ≤ cursorSize cursor := by
  rw [cursorSize, CompositeCursorV1.toJson,
    object_parts _ (by simp only [List.map_cons, List.map_nil]; decide)]
  refine le_trans ?_ (parts_least _)
  simp only [List.map_cons, List.map_nil]
  decide +kernel

theorem canonical_least (document : CanonicalDocument) :
    162 + size document.document ≤ canonicalSize document := by
  rw [canonicalSize, partsSize]
  simp only [List.map_cons, List.map_nil, List.sum_cons, List.sum_nil]
  have frame : 162 ≤ frameSize ["workspaceId", "runId", "revision", "document", "stateHash",
      "hashAlgorithmVersion", "canonicalizerVersion", "acceptedProposalId",
      "lastCanonicalEventSequence"] := by decide +kernel
  omega

theorem operational_least (state : RunOperationalState) : 353 ≤ operationalSize state := by
  have execution : 216 ≤ executionSize state.execution := by
    refine le_trans ?_ (parts_least _)
    simp only [List.map_cons, List.map_nil]
    decide +kernel
  rw [operationalSize, partsSize]
  simp only [List.map_cons, List.map_nil, List.sum_cons, List.sum_nil]
  have frame : 137 ≤ frameSize ["workspaceId", "runId", "eventCount", "proposals", "receipts", "tasks",
      "taskStates", "execution", "contextEpoch", "lastEventSequence"] := by decide +kernel
  omega

theorem run_least (id : JsonRpcId) (view : ExecutionView) :
    950 + size view.stream.replay.canonical.document ≤ runSize id view := by
  have cursor := cursor_least view.cursor
  have canonical := canonical_least view.stream.replay.canonical
  have operational := operational_least view.stream.replay.operational
  simp only [runSize, responseSize, partsSize, List.map_cons, List.map_nil, List.sum_cons,
    List.sum_nil]
  have value : 59 ≤ frameSize ["schemaVersion", "resultType", "observationCursor", "state"] := by
    decide +kernel
  omega

def requestSize (id : JsonRpcId) (cursor : AbsentRunGenesisCursorV1) (document : Nat)
    (principalId commandId : JsString) : Nat :=
  partsSize [("jsonrpc", 5), ("id", size id.toJson), ("method", 15), ("params",
    partsSize [("protocolVersion", 3), ("observationCursor", size cursor.toJson),
      ("idempotencyKey", textSize commandId), ("body",
        partsSize [("schemaVersion", 3), ("workspaceId", textSize cursor.workspaceId),
          ("runId", textSize cursor.runId), ("input",
            partsSize [("schemaVersion", 3), ("requestType", 15), ("value",
              partsSize [("schemaVersion", 3), ("commandType", 13),
                ("commandId", textSize commandId), ("observationCursor", size cursor.toJson),
                ("principalId", textSize principalId), ("initialDocument", document)])])])])]

theorem request_size (id : JsonRpcId) :
    size (runCreateRequest id cursor document principalId commandId) =
      requestSize id cursor (size document) principalId commandId := by
  rw [runCreateRequest, object_parts _ (by simp only [List.map_cons, List.map_nil]; decide)]
  simp only [List.map_cons, List.map_nil]
  rw [object_parts _ (by simp only [List.map_cons, List.map_nil]; decide)]
  simp only [List.map_cons, List.map_nil]
  rw [object_parts _ (by simp only [List.map_cons, List.map_nil]; decide)]
  simp only [List.map_cons, List.map_nil]
  rw [object_parts _ (by simp only [List.map_cons, List.map_nil]; decide)]
  simp only [List.map_cons, List.map_nil]
  rw [object_parts _ (by simp only [List.map_cons, List.map_nil]; decide)]
  rfl

theorem request_grows (id : JsonRpcId) (document : Nat) :
    requestSize id cursor document principalId commandId =
      requestSize id cursor 0 principalId commandId + document := by
  simp only [requestSize, partsSize, List.map_cons, List.map_nil, List.sum_cons, List.sum_nil]
  omega

end Creation

section Unread

open RecordedRuns WorkspaceBootstrap

@[reducible] def paddedEngine : Engine :=
  { shortEngine with sha256Hex := fun text => (decimal (fingerprint text)).leftpad 64 48 }

attribute [local instance] paddedEngine

theorem padded_hexadecimal : Hexadecimal paddedEngine.sha256Hex := by
  intro text
  obtain ⟨filled, digits⟩ := short_hexadecimal text
  refine ⟨fun empty => filled (List.append_eq_nil_iff.mp empty).2, ?_⟩
  intro unit member
  rcases List.mem_append.mp member with pad | digit
  · obtain rfl := List.eq_of_mem_replicate pad
    rfl
  · exact digits unit digit

def daemonLimit : FrameLimit := ⟨defaultMaxFrameBytes, by decide, by decide⟩

def workspaceGenesis : Except DomainError HashedEventEnvelopeV1 :=
  createWorkspaceGenesis (js "w") (js "u") (js "g") (js "m") (js "d") (js "b")

def foundedHead : Except DomainError WorkspaceHead := do
  let event ← workspaceGenesis
  let state ← deterministicWorkspaceReplay [event]
  return ⟨event.envelope.sequence, event.envelopeHash, [event.envelope.eventId], state⟩

def founded (head : WorkspaceHead) : Store :=
  ⟨js "w", head, .empty, [], [], .empty⟩

def foundedCursor (head : WorkspaceHead) : AbsentRunGenesisCursorV1 :=
  ⟨js "w", head.sequence, head.envelopeHash, head.sequence - 1, js "r"⟩

def letters (count : Nat) : JsValue := .str (List.replicate count 97)

theorem letters_size (count : Nat) : size (letters count) = count + 2 := by
  have plain : ∀ unit ∈ List.replicate count (97 : UInt16), plainUnit unit := by
    intro unit member
    obtain rfl := List.eq_of_mem_replicate member
    exact ⟨by decide, by decide⟩
  rw [letters, size_text, plain_size plain, List.length_replicate]

-- The workspace is founded, and the request takes 867 bytes around its document.
instance founded_measured : Fact (endsIn (fun head => decide (head.sequence = 1 ∧
    (head.eventIds ++ [js "c:1"]).Nodup ∧
    requestSize (.text (js "1")) (foundedCursor head) 0 (js "p") (js "c") = 867)) foundedHead = true) := ⟨by decide +kernel⟩

theorem founded_unused {head : WorkspaceHead} (made : foundedHead = .ok head) : Unused (founded head) := by
  simp only [foundedHead, bind_ok_iff, pure_ok_iff] at made
  obtain ⟨event, -, state, replayed, rfl⟩ := made
  exact ⟨rfl, rfl, [], event, replayed, rfl, rfl⟩

end Unread

end Horseness.ObservedRuns
