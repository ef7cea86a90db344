import Horseness.ReplayIdentity
import Horseness.ExecutionStore

/-!
The tables of the SQLite authority and the requests that append to its streams. A
request runs in one transaction: what it throws rolls its writes back, so a body is a
function from the tables to an error or to an answer with the tables after it. An event
is kept as the value that its stored JSON text is read back to.
-/

namespace Horseness.AuthorityLog

open FallibleRuns Records ScriptText JsonValues PlainObjects ScriptEngine Canonical Cursors
  EventPayloads EventChains ReplayIdentity
open ExecutionStore (AuthorityStateExpectationV1 DomainError.text)

section Tables

inductive StoreError where
  | conflict (message : JsString)
  | integrity (message : JsString)
  /-- A unique index or a foreign key refused a row. -/
  | constraint
  | domain (code : DomainError)
  /-- What an artifact file made the artifact store throw. -/
  | artifact (message : JsString)
  deriving DecidableEq

structure StreamKey where
  workspaceId : JsString
  streamKind : StreamKind
  streamId : JsString
  deriving DecidableEq

def StreamKey.workspace (workspaceId : JsString) : StreamKey := ⟨workspaceId, .workspace, workspaceId⟩

def StreamKey.run (workspaceId runId : JsString) : StreamKey := ⟨workspaceId, .run, runId⟩

structure StreamRow where
  headSequence : Nat
  headHash : Option JsString
  contextEpoch : Nat
  deriving DecidableEq

/-- The other columns are those of the event. -/
structure EventRow where
  key : StreamKey
  event : HashedEventEnvelopeV1

structure CommandKey where
  workspaceId : JsString
  scopeKind : StreamKind
  scopeId : JsString
  commandId : JsString
  deriving DecidableEq

structure CommandRow where
  key : CommandKey
  requestDigest : JsString
  result : JsValue

structure SnapshotRow where
  key : StreamKey
  sequence : Nat
  envelopeHash : JsString
  projectionName : JsString
  projectionVersion : JsString
  state : JsValue

structure ProjectionKey where
  name : JsString
  version : JsString
  stream : StreamKey
  deriving DecidableEq

structure ProjectionRow where
  lastSequence : Nat
  lastEnvelopeHash : Option JsString

structure ArtifactRecord where
  digest : JsString
  byteLength : Nat
  relativePath : JsString
  mediaType : Option JsString
  deriving DecidableEq

structure ArtifactReferenceRow where
  workspaceId : JsString
  ownerId : JsString
  digest : JsString
  deriving DecidableEq

structure ArtifactPinRow where
  pinId : JsString
  digest : JsString
  deriving DecidableEq

structure DispatchKey where
  workspaceId : JsString
  runId : JsString
  attemptId : JsString
  generation : Nat
  deriving DecidableEq

structure DispatchRow where
  runSequence : Nat
  runEnvelopeHash : JsString
  workspaceSequence : Nat
  workspaceEnvelopeHash : JsString
  attemptDigest : JsString
  leaseDigest : Option JsString
  dispatchDigest : JsString
  fenceCounter : Nat
  stateJson : JsString
  commandId : JsString
  deriving DecidableEq

structure Authority where
  streams : Record StreamKey StreamRow
  events : List EventRow
  commands : List CommandRow
  snapshots : List SnapshotRow
  projections : Record ProjectionKey ProjectionRow
  artifacts : Record JsString ArtifactRecord
  references : List ArtifactReferenceRow
  pins : List ArtifactPinRow
  dispatches : Record DispatchKey DispatchRow

def Authority.fresh : Authority := ⟨∅, [], [], [], ∅, ∅, [], [], ∅⟩

/-- `SELECT … FROM events WHERE … ORDER BY sequence`. -/
def Authority.rows (state : Authority) (key : StreamKey) : List HashedEventEnvelopeV1 :=
  ((state.events.filter fun row => row.key = key).map EventRow.event).insertionSort
    fun left right => left.envelope.sequence ≤ right.envelope.sequence

def Authority.command (state : Authority) (key : CommandKey) : Option CommandRow :=
  state.commands.find? fun row => row.key = key

/-- What a request meets outside the tables that it writes. -/
structure Surroundings where
  /-- The workspace of the trusted session. -/
  session : Option JsString
  /-- The revision and digest of an authority state that authenticates. -/
  authorityState : JsString → JsString → Except StoreError (Nat × JsString)
  /-- The consumed authority keys of a run. -/
  consumptions : JsString → JsString → Nat
  publish : ArtifactRecord → Except StoreError Unit
  verifyRecord : ArtifactRecord → Except StoreError Unit
  readReferenced : JsString → Except StoreError Unit
  /-- A digest under a retention intent gets no new reference or pin. -/
  retained : JsString → Bool

end Tables

section Requests

structure AppendRequest where
  streamKind : StreamKind
  workspaceId : JsString
  streamId : JsString
  expectedSequence : Nat
  expectedEnvelopeHash : Option JsString
  events : List HashedEventEnvelopeV1

def AppendRequest.key (request : AppendRequest) : StreamKey :=
  ⟨request.workspaceId, request.streamKind, request.streamId⟩

structure RunGenesisAppendRequest where
  observationCursor : AbsentRunGenesisCursorV1
  event : HashedEventEnvelopeV1

structure WorkspaceObservationCursor where
  workspaceId : JsString
  workspaceSequence : Nat
  workspaceEnvelopeHash : JsString
  workspaceContextEpoch : Nat

structure AtomicAppendRequest where
  commandId : JsString
  workspace : Option AppendRequest
  run : Option AppendRequest
  runGenesis : Option RunGenesisAppendRequest
  workspaceObservationCursor : Option WorkspaceObservationCursor
  authorityStateExpectations : Option (List AuthorityStateExpectationV1)
  clientRequestDigest : Option JsString

structure ArtifactReference where
  ownerKind : JsString
  ownerId : JsString
  allowExistingEvent : Bool

/-- The bytes of an artifact are given by the record that publishing them returns. -/
structure ArtifactPublication where
  record : ArtifactRecord
  references : List ArtifactReference
  pins : List JsString

structure AtomicProjectionUpdate where
  workspaceId : JsString
  name : JsString
  version : JsString
  streamKind : StreamKind
  streamId : JsString
  lastSequence : Nat
  lastEnvelopeHash : Option JsString

structure SnapshotRecord where
  workspaceId : JsString
  streamKind : StreamKind
  streamId : JsString
  sequence : Nat
  envelopeHash : JsString
  projectionName : JsString
  projectionVersion : JsString
  state : JsValue

structure PublishAndAppendRequest extends AtomicAppendRequest where
  artifacts : List ArtifactPublication
  requiredArtifactDigests : List JsString
  projections : List AtomicProjectionUpdate
  snapshots : List SnapshotRecord

structure ExecutionCommand where
  workspaceId : JsString
  runId : JsString
  commandId : JsString
  requestDigest : JsString
  observationCursor : Option CompositeCursorV1
  authorityStateExpectations : Option (List AuthorityStateExpectationV1)

structure AppendHead where
  sequence : Nat
  envelopeHash : JsString
  deriving DecidableEq

/-- The flag is that of a request that took effect. -/
structure AppendResult where
  commandId : JsString
  workspaceHead : Option AppendHead
  runHead : Option AppendHead
  clientRequestDigest : Option JsString

end Requests

section Json

def optional {Value : Type} (name : String) (write : Value → JsValue) :
    Option Value → List (String × JsValue)
  | none => []
  | some value => [(name, write value)]

def HashedEventEnvelopeV1.toJson (event : HashedEventEnvelopeV1) : JsValue :=
  object [("envelope", event.envelope.toJson), ("envelopeHash", .str event.envelopeHash)]

def AppendRequest.toJson (request : AppendRequest) : JsValue :=
  object [("streamKind", .str request.streamKind.text), ("workspaceId", .str request.workspaceId),
    ("streamId", .str request.streamId), ("expectedSequence", natural request.expectedSequence),
    ("expectedEnvelopeHash", nullable .str request.expectedEnvelopeHash),
    ("events", .arr (request.events.map HashedEventEnvelopeV1.toJson))]

def RunGenesisAppendRequest.toJson (request : RunGenesisAppendRequest) : JsValue :=
  object [("observationCursor", request.observationCursor.toJson),
    ("event", HashedEventEnvelopeV1.toJson request.event)]

def WorkspaceObservationCursor.toJson (cursor : WorkspaceObservationCursor) : JsValue :=
  object [("workspaceId", .str cursor.workspaceId),
    ("workspaceSequence", natural cursor.workspaceSequence),
    ("workspaceEnvelopeHash", .str cursor.workspaceEnvelopeHash),
    ("workspaceContextEpoch", natural cursor.workspaceContextEpoch)]

def expectationJson (expectation : AuthorityStateExpectationV1) : JsValue :=
  object [("stateKind", .str expectation.stateKind), ("revision", natural expectation.revision),
    ("stateDigest", .str expectation.stateDigest)]

def expectationsJson (expectations : List AuthorityStateExpectationV1) : JsValue :=
  .arr (expectations.map expectationJson)

def AtomicAppendRequest.observationFields (request : AtomicAppendRequest) :
    List (String × JsValue) :=
  optional "workspaceObservationCursor" WorkspaceObservationCursor.toJson
      request.workspaceObservationCursor ++
    optional "authorityStateExpectations" expectationsJson request.authorityStateExpectations ++
    optional "clientRequestDigest" .str request.clientRequestDigest

def AtomicAppendRequest.toJson (request : AtomicAppendRequest) : JsValue :=
  object (("commandId", .str request.commandId) ::
    optional "workspace" AppendRequest.toJson request.workspace ++
    optional "run" AppendRequest.toJson request.run ++
    optional "runGenesis" RunGenesisAppendRequest.toJson request.runGenesis ++
    request.observationFields)

def ArtifactRecord.toJson (record : ArtifactRecord) : JsValue :=
  object [("digest", .str record.digest), ("byteLength", natural record.byteLength),
    ("relativePath", .str record.relativePath), ("mediaType", nullable .str record.mediaType)]

def ArtifactReference.toJson (reference : ArtifactReference) : JsValue :=
  object ([("ownerKind", .str reference.ownerKind), ("ownerId", .str reference.ownerId)] ++
    if reference.allowExistingEvent then [("allowExistingEvent", .bool true)] else [])

def ArtifactPublication.toJson (publication : ArtifactPublication) : JsValue :=
  object [("record", publication.record.toJson),
    ("references", .arr (publication.references.map ArtifactReference.toJson)),
    ("pins", .arr (publication.pins.map fun pin => object [("pinId", .str pin)]))]

def AtomicProjectionUpdate.toJson (update : AtomicProjectionUpdate) : JsValue :=
  object [("workspaceId", .str update.workspaceId), ("name", .str update.name),
    ("version", .str update.version), ("streamKind", .str update.streamKind.text),
    ("streamId", .str update.streamId), ("lastSequence", natural update.lastSequence),
    ("lastEnvelopeHash", nullable .str update.lastEnvelopeHash)]

def SnapshotRecord.toJson (snapshot : SnapshotRecord) : JsValue :=
  object [("workspaceId", .str snapshot.workspaceId), ("streamKind", .str snapshot.streamKind.text),
    ("streamId", .str snapshot.streamId), ("sequence", natural snapshot.sequence),
    ("envelopeHash", .str snapshot.envelopeHash), ("projectionName", .str snapshot.projectionName),
    ("projectionVersion", .str snapshot.projectionVersion), ("state", snapshot.state)]

/-- `digestInput`. -/
def PublishAndAppendRequest.toJson (request : PublishAndAppendRequest) : JsValue :=
  object ([("commandId", .str request.commandId),
    ("workspace", nullable AppendRequest.toJson request.workspace),
    ("run", nullable AppendRequest.toJson request.run),
    ("artifacts", .arr (request.artifacts.map ArtifactPublication.toJson)),
    ("requiredArtifactDigests", texts request.requiredArtifactDigests),
    ("projections", .arr (request.projections.map AtomicProjectionUpdate.toJson)),
    ("snapshots", .arr (request.snapshots.map SnapshotRecord.toJson))] ++
    request.observationFields)

def AppendHead.toJson (head : AppendHead) : JsValue :=
  object [("sequence", natural head.sequence), ("envelopeHash", .str head.envelopeHash)]

def AppendResult.toJson (result : AppendResult) : JsValue :=
  object ([("commandId", .str result.commandId), ("deduplicated", .bool false)] ++
    optional "clientRequestDigest" .str result.clientRequestDigest ++
    optional "workspaceHead" AppendHead.toJson result.workspaceHead ++
    optional "runHead" AppendHead.toJson result.runHead)

def spreadFields : JsValue → List (JsString × JsValue)
  | .obj _ fields => distinct fields
  | .arr items => items.zipIdx.map fun item => (decimal item.2, item.1)
  | .str text => text.zipIdx.map fun unit => (decimal unit.2, .str [unit.1])
  | .null | .bool _ | .num _ => []

def deduplicated (value : JsValue) : JsValue :=
  .obj .object (writeEntry (js "deduplicated") (.bool true) (spreadFields value))

end Json

section Reads

variable [Engine]

def authenticationFailed (code : DomainError) : StoreError :=
  .integrity (js "event chain authentication failed: " ++ DomainError.text code)

def authenticatedRows (state : Authority) (key : StreamKey) :
    Except StoreError (List HashedEventEnvelopeV1) :=
  let rows := state.rows key
  match state.streams.get key with
  | none => do
      ensure (rows.isEmpty = true) (.integrity (js "events exist without stream head"))
      return []
  | some head => do
      rows.forM fun event =>
        ensure (event.envelope.workspaceId = key.workspaceId ∧
          event.envelope.streamKind = key.streamKind ∧ event.envelope.streamId = key.streamId)
          (.integrity (js "event row does not match envelope"))
      let first ← required rows.head? (.integrity (js "invalid stream genesis"))
      ensure (first.envelope.sequence = 1 ∧ first.envelope.priorEnvelopeHash = none)
        (.integrity (js "invalid stream genesis"))
      (verifyEventChain rows).mapError authenticationFailed
      let last ← required rows.getLast? (.integrity (js "stored stream head mismatch"))
      ensure (head.headSequence = last.envelope.sequence ∧ head.headHash = some last.envelopeHash)
        (.integrity (js "stored stream head mismatch"))
      return rows

def authenticatedAuthorityState (around : Surroundings) (state : Authority)
    (workspaceId stateKind : JsString) : Except StoreError (Nat × JsString) := do
  ensure (around.session = some workspaceId)
    (.integrity (js "authenticated workspace session required"))
  let _ ← authenticatedRows state (.workspace workspaceId)
  around.authorityState workspaceId stateKind

def verifyExpectation (around : Surroundings) (state : Authority) (workspaceId : JsString)
    (kinds : List JsString) (expectation : AuthorityStateExpectationV1) :
    Except StoreError (List JsString) := do
  ensure (expectation.stateKind ≠ [] ∧ expectation.stateDigest ≠ [] ∧
    expectation.revision ≤ maxSafeInteger ∧ 1 ≤ expectation.revision ∧
    expectation.stateKind ∉ kinds) (.integrity (js "authority state observation invalid"))
  let current ← authenticatedAuthorityState around state workspaceId expectation.stateKind
  ensure (current = (expectation.revision, expectation.stateDigest))
    (.conflict (js "authority state observation compare-and-swap conflict"))
  return expectation.stateKind :: kinds

def verifyExpectations (around : Surroundings) (state : Authority) (workspaceId : JsString)
    (expectations : Option (List AuthorityStateExpectationV1)) : Except StoreError Unit := do
  let _ ← (expectations.getD []).foldlM (verifyExpectation around state workspaceId) []

def verifyCurrentObservation (around : Surroundings) (state : Authority)
    (request : AtomicAppendRequest) (workspaceId : JsString) : Except StoreError Unit := do
  request.workspaceObservationCursor.toList.forM fun cursor => do
    ensure (cursor.workspaceId = workspaceId ∧ request.run.isSome = true ∧
      request.runGenesis.isNone = true) (.integrity (js "workspace observation binding invalid"))
    ensure (state.streams.get (.workspace workspaceId) = some ⟨cursor.workspaceSequence,
      some cursor.workspaceEnvelopeHash, cursor.workspaceContextEpoch⟩)
      (.conflict (js "workspace observation compare-and-swap conflict"))
    let _ ← authenticatedRows state (.workspace workspaceId)
  verifyExpectations around state workspaceId request.authorityStateExpectations

def verifyCompositeObservation (state : Authority) (cursor : CompositeCursorV1)
    (workspaceId runId : JsString) : Except StoreError Unit := do
  (parseObservationCursorV1 (.composite cursor)).mapError StoreError.domain
  ensure (cursor.workspaceId = workspaceId ∧ cursor.runId = runId)
    (.integrity (js "authority consumption observation identity invalid"))
  ensure (state.streams.get (.workspace workspaceId) = some ⟨cursor.workspaceSequence,
      some cursor.workspaceEnvelopeHash, cursor.workspaceContextEpoch⟩ ∧
    state.streams.get (.run workspaceId runId) = some ⟨cursor.runSequence,
      some cursor.runEnvelopeHash, cursor.runContextEpoch⟩)
    (.conflict (js "authority consumption observation compare-and-swap conflict"))
  let _ ← authenticatedRows state (.workspace workspaceId)
  let _ ← authenticatedRows state (.run workspaceId runId)

end Reads

section Appends

variable [Engine]

def sliceFailed (code : DomainError) : StoreError :=
  .integrity (js "event slice authentication failed: " ++ DomainError.text code)

/-- One round of `validateAppend`'s loop: how far the slice reaches, and its last hash. -/
def validateEvent (request : AppendRequest) (position : ChainPosition)
    (event : HashedEventEnvelopeV1) : Except StoreError ChainPosition := do
  let envelope := event.envelope
  ensure (envelope.streamKind = request.streamKind ∧ envelope.workspaceId = request.workspaceId ∧
    envelope.streamId = request.streamId ∧ envelope.sequence = position.count + 1)
    (.integrity (js "event does not match append stream"))
  ensure (request.streamKind = .workspace → request.streamId = request.workspaceId)
    (.integrity (js "workspace stream identity mismatch"))
  ensure (envelope.priorEnvelopeHash = position.prior)
    (.integrity (js "event prior hash mismatch"))
  (parseDomainEventPayloadV1 envelope.payload).mapError sliceFailed
  ensure (payloadIdentity envelope) (.integrity (js "event payload identity mismatch"))
  let payloadHash ← (domainDigest (js "horseness.event-payload.v1")
    envelope.payload.toJson).mapError sliceFailed
  ensure (payloadHash = envelope.payloadHash) (.integrity (js "event payload hash mismatch"))
  let envelopeHash ← (domainDigest (js "horseness.event-envelope.v1") envelope.toJson).mapError
    sliceFailed
  ensure (envelopeHash = event.envelopeHash) (.integrity (js "event envelope hash mismatch"))
  return ⟨position.count + 1, some event.envelopeHash⟩

def validateAppend (request : AppendRequest) : Except StoreError Unit := do
  ensure (request.events ≠ []) (.integrity (js "empty append"))
  ensure (request.expectedSequence ≤ maxSafeInteger)
    (.integrity (js "invalid expected sequence"))
  if request.expectedSequence = 0 then do
    ensure (request.expectedEnvelopeHash = none)
      (.integrity (js "genesis append has an existing head"))
    (verifyEventChain request.events).mapError sliceFailed
  else
    ensure (truthy request.expectedEnvelopeHash = true)
      (.integrity (js "post-genesis append requires an authenticated head"))
  let _ ← request.events.foldlM (validateEvent request)
    ⟨request.expectedSequence, request.expectedEnvelopeHash⟩

/-- Two rows that the primary key and the unique indexes do not let stand together. -/
def EventRow.clashes (row other : EventRow) : Prop :=
  (row.key.workspaceId = other.key.workspaceId ∧
    (row.event.envelopeHash = other.event.envelopeHash ∨
      row.event.envelope.eventId = other.event.envelope.eventId)) ∨
  (row.key = other.key ∧ (row.event.envelope.sequence = other.event.envelope.sequence ∨
    row.event.envelope.idempotencyKey = other.event.envelope.idempotencyKey))

instance (row other : EventRow) : Decidable (row.clashes other) :=
  inferInstanceAs (Decidable (_ ∨ _))

def insertEvent (key : StreamKey) (state : Authority) (event : HashedEventEnvelopeV1) :
    Except StoreError Authority := do
  ensure (∀ row ∈ state.events, ¬ row.clashes ⟨key, event⟩) .constraint
  return { state with events := state.events ++ [⟨key, event⟩] }

def Authority.setStream (state : Authority) (key : StreamKey) (row : StreamRow) : Authority :=
  { state with streams := state.streams.set key row }

def Authority.openStream (state : Authority) (key : StreamKey) : Authority :=
  if (state.streams.get key).isSome then state else state.setStream key ⟨0, none, 0⟩

def writeAppend (state : Authority) (request : AppendRequest) :
    Except StoreError (AppendHead × Authority) := do
  validateAppend request
  let head := state.streams.get request.key
  ensure ((head.map StreamRow.headSequence).getD 0 = request.expectedSequence ∧
    head.bind StreamRow.headHash = request.expectedEnvelopeHash)
    (.conflict (js "stream compare-and-swap conflict"))
  let inserted ← request.events.foldlM (insertEvent request.key) (state.openStream request.key)
  let last ← required request.events.getLast? (.integrity (js "empty append"))
  let moved := inserted.setStream request.key
    ⟨last.envelope.sequence, some last.envelopeHash, last.envelope.sequence - 1⟩
  let authenticated ← authenticatedRows moved request.key
  ensure (∃ event ∈ authenticated.getLast?, event.envelope.sequence = last.envelope.sequence ∧
    event.envelopeHash = last.envelopeHash)
    (.integrity (js "appended stream head authentication failed"))
  return (⟨last.envelope.sequence, last.envelopeHash⟩, moved)

def genesisCursorInvalid (code : DomainError) : StoreError :=
  .integrity (js "invalid absent-run genesis cursor: " ++ DomainError.text code)

def authorityStateCount (around : Surroundings) (state : Authority) (workspaceId runId : JsString) :
    Nat :=
  let key := StreamKey.run workspaceId runId
  (state.streams.get key).toList.length +
    (state.events.filter fun row => row.key = key).length +
    (state.snapshots.filter fun row => row.key = key).length +
    (state.projections.keys.filter fun projection => projection.stream = key).length +
    (state.commands.filter fun row => row.key.workspaceId = workspaceId ∧
      row.key.scopeKind = .run ∧ row.key.scopeId = runId).length +
    around.consumptions workspaceId runId

def writeRunGenesis (around : Surroundings) (state : Authority) (request : RunGenesisAppendRequest) :
    Except StoreError (AppendHead × Authority) := do
  let cursor := request.observationCursor
  (parseObservationCursorV1 (.absentRunGenesis cursor)).mapError genesisCursorInvalid
  let workspace ← required (state.streams.get (.workspace cursor.workspaceId))
    (.conflict (js "run genesis requires an existing workspace"))
  ensure (workspace = ⟨cursor.workspaceSequence, some cursor.workspaceEnvelopeHash,
    cursor.workspaceContextEpoch⟩)
    (.conflict (js "workspace observation compare-and-swap conflict"))
  let _ ← authenticatedRows state (.workspace cursor.workspaceId)
  ensure (authorityStateCount around state cursor.workspaceId cursor.runId = 0)
    (.conflict (js "run authority state is not absent"))
  ensure (request.event.envelope.eventType = js "RunCreatedV1")
    (.integrity (js "run genesis must append exactly one RunCreatedV1"))
  writeAppend state ⟨.run, cursor.workspaceId, cursor.runId, 0, none, [request.event]⟩

def writePart {Part : Type} (write : Authority → Part → Except StoreError (AppendHead × Authority))
    (state : Authority) : Option Part → Except StoreError (Option AppendHead × Authority)
  | none => .ok (none, state)
  | some part => do
      let (head, after) ← write state part
      return (some head, after)

def requestWorkspace (request : AtomicAppendRequest) : Except StoreError JsString := do
  let named := request.workspace.toList.map AppendRequest.workspaceId ++
    request.run.toList.map AppendRequest.workspaceId ++
    request.runGenesis.toList.map fun genesis => genesis.observationCursor.workspaceId
  let workspaceId ← required named.head? (.integrity (js "atomic append workspace mismatch"))
  ensure (∀ name ∈ named, name = workspaceId) (.integrity (js "atomic append workspace mismatch"))
  return workspaceId

def commandScope (request : AtomicAppendRequest) (workspaceId : JsString) : CommandKey :=
  match request.run, request.runGenesis with
  | some run, _ => ⟨workspaceId, .run, run.streamId, request.commandId⟩
  | none, some genesis => ⟨workspaceId, .run, genesis.observationCursor.runId, request.commandId⟩
  | none, none => ⟨workspaceId, .workspace, workspaceId, request.commandId⟩

def insertCommand (state : Authority) (key : CommandKey) (requestDigest : JsString)
    (result : JsValue) : Except StoreError Authority := do
  let stored ← (deepClone result).mapError StoreError.domain
  return { state with commands := state.commands ++ [⟨key, requestDigest, stored⟩] }

/-- The digest of a request, whose JSON is written and read back first. -/
def requestDigest (domain : JsString) (request : JsValue) : Except StoreError JsString := do
  let copy ← (deepClone request).mapError StoreError.domain
  (domainDigest domain copy).mapError StoreError.domain

def reusedCommand : StoreError := .conflict (js "command id reused with different request")

/-- The checks that both kinds of append make before the transaction. -/
def appendKinds (request : AtomicAppendRequest) : Except StoreError Unit := do
  ensure (∀ append ∈ request.workspace, append.streamKind = .workspace)
    (.integrity (js "workspace append kind mismatch"))
  ensure (∀ append ∈ request.run, append.streamKind = .run)
    (.integrity (js "run append kind mismatch"))

def appendAtomic (around : Surroundings) (request : AtomicAppendRequest) (state : Authority) :
    Except StoreError (JsValue × Authority) := do
  ensure (request.workspace.isSome = true ∨ request.run.isSome = true ∨
    request.runGenesis.isSome = true) (.integrity (js "atomic append has no streams"))
  ensure (∀ append ∈ request.run, append.expectedSequence ≠ 0)
    (.integrity (js "run genesis requires the explicit runGenesis operation"))
  ensure (request.runGenesis.isSome = true →
    request.workspace.isNone = true ∧ request.run.isNone = true)
    (.integrity (js "run genesis must observe an existing workspace in a dedicated operation"))
  appendKinds request
  let workspaceId ← requestWorkspace request
  let key := commandScope request workspaceId
  let digest ← requestDigest (js "horseness.store-append.v1") request.toJson
  match state.command key with
  | some prior => do
      ensure (prior.requestDigest = digest) reusedCommand
      ensure (request.runGenesis.isSome = true →
        (state.streams.get (.run workspaceId key.scopeId)).isSome = true)
        (.conflict (js "orphan run command dedup exists without run authority"))
      return (deduplicated prior.result, state)
  | none => do
      verifyCurrentObservation around state request workspaceId
      let (workspaceHead, first) ← writePart writeAppend state request.workspace
      let (runHead, second) ← writePart writeAppend first request.run
      let (genesisHead, third) ← writePart (writeRunGenesis around) second request.runGenesis
      let result := AppendResult.toJson ⟨request.commandId, workspaceHead,
        genesisHead.or runHead, request.clientRequestDigest⟩
      let after ← insertCommand third key digest result
      return (result, after)

end Appends

section Publications

variable [Engine]

def register (around : Surroundings) (state : Authority) (record : ArtifactRecord) :
    Except StoreError Authority := do
  around.verifyRecord record
  match state.artifacts.get record.digest with
  | some existing => do
      ensure (existing = record) (.artifact (js "artifact catalog conflict: " ++ record.digest))
      return state
  | none => return { state with artifacts := state.artifacts.set record.digest record }

def AtomicAppendRequest.events (request : AtomicAppendRequest) : List HashedEventEnvelopeV1 :=
  request.workspace.toList.flatMap AppendRequest.events ++
    request.run.toList.flatMap AppendRequest.events

def AtomicAppendRequest.insertedEventIds (request : AtomicAppendRequest) : List JsString :=
  request.events.map fun event => event.envelope.eventId

/-- The owner of a reference, where it is an event that the workspace has already. -/
def verifyOwner (state : Authority) (request : AtomicAppendRequest) (workspaceId : JsString)
    (reference : ArtifactReference) : Except StoreError (Option JsString) := do
  ensure (reference.ownerKind = js "event")
    (.integrity (js "unsupported artifact reference owner kind: " ++ reference.ownerKind))
  if reference.ownerId ∈ request.insertedEventIds then
    return none
  else do
    ensure (reference.allowExistingEvent = true)
      (.integrity (js "artifact reference owner is unrelated to this append: " ++ reference.ownerId))
    let owner ← required (state.events.find? fun row => row.key.workspaceId = workspaceId ∧
      row.event.envelope.eventId = reference.ownerId) (.integrity
        (js "permitted existing artifact reference owner does not exist in workspace: " ++
          reference.ownerId))
    let rows ← authenticatedRows state owner.key
    ensure (∃ event ∈ rows, event.envelope.eventId = reference.ownerId)
      (.integrity (js "existing artifact reference owner is not authenticated: " ++
        reference.ownerId))
    return some reference.ownerId

def addReference (around : Surroundings) (workspaceId digest : JsString) (state : Authority)
    (reference : ArtifactReference) : Except StoreError Authority := do
  around.readReferenced digest
  ensure (around.retained digest = false) .constraint
  let row : ArtifactReferenceRow := ⟨workspaceId, reference.ownerId, digest⟩
  return { state with
    references := if row ∈ state.references then state.references else state.references ++ [row] }

def addPin (around : Surroundings) (digest : JsString) (state : Authority) (pinId : JsString) :
    Except StoreError Authority := do
  ensure (around.retained digest = false) .constraint
  let row : ArtifactPinRow := ⟨pinId, digest⟩
  return { state with pins := if row ∈ state.pins then state.pins else state.pins ++ [row] }

def addOwners (around : Surroundings) (workspaceId : JsString) (state : Authority)
    (publication : ArtifactPublication) : Except StoreError Authority := do
  let referenced ← publication.references.foldlM
    (addReference around workspaceId publication.record.digest) state
  publication.pins.foldlM (addPin around publication.record.digest) referenced

def anchored (state : Authority) (key : StreamKey) (sequence : Nat) (envelopeHash : JsString) : Prop :=
  ∃ row ∈ state.events, row.key = key ∧ row.event.envelope.sequence = sequence ∧
    row.event.envelopeHash = envelopeHash

instance (state : Authority) (key : StreamKey) (sequence : Nat) (envelopeHash : JsString) :
    Decidable (anchored state key sequence envelopeHash) :=
  inferInstanceAs (Decidable (∃ row ∈ state.events, _))

def updateProjection (state : Authority) (update : AtomicProjectionUpdate) :
    Except StoreError Authority := do
  let key : StreamKey := ⟨update.workspaceId, update.streamKind, update.streamId⟩
  ensure ((update.lastSequence = 0 ∧ update.lastEnvelopeHash = none) ∨
    ∃ hash ∈ update.lastEnvelopeHash, anchored state key update.lastSequence hash)
    (.integrity (js "projection is not anchored to an event: " ++ update.name))
  ensure ((state.streams.get key).isSome = true) .constraint
  return { state with
    projections := state.projections.set ⟨update.name, update.version, key⟩
      ⟨update.lastSequence, update.lastEnvelopeHash⟩ }

def insertSnapshot (state : Authority) (snapshot : SnapshotRecord) : Except StoreError Authority := do
  let key : StreamKey := ⟨snapshot.workspaceId, snapshot.streamKind, snapshot.streamId⟩
  ensure (anchored state key snapshot.sequence snapshot.envelopeHash)
    (.integrity (js "snapshot is not anchored to an event: " ++ snapshot.projectionName))
  let stored ← (deepClone snapshot.state).mapError StoreError.domain
  ensure (∀ row ∈ state.snapshots, ¬ (row.key = key ∧ row.sequence = snapshot.sequence ∧
    row.projectionName = snapshot.projectionName ∧
    row.projectionVersion = snapshot.projectionVersion)) .constraint
  return { state with
    snapshots := state.snapshots ++ [⟨key, snapshot.sequence, snapshot.envelopeHash,
      snapshot.projectionName, snapshot.projectionVersion, stored⟩] }

def missingArtifact (digest : JsString) : StoreError :=
  .integrity (js "required artifact was not published: " ++ digest)

/-- What is checked of the artifacts, kinds and projections before the transaction. -/
def publicationAdmissible (request : PublishAndAppendRequest) : Except StoreError JsString := do
  let available := request.artifacts.map fun publication => publication.record.digest
  ensure (request.artifacts ≠ [] → request.requiredArtifactDigests ≠ [])
    (.integrity (js "authoritative artifact append requires artifact digests"))
  request.requiredArtifactDigests.forM fun digest =>
    ensure (digest ∈ available) (missingArtifact digest)
  ensure (request.workspace.isSome = true ∨ request.run.isSome = true)
    (.integrity (js "atomic append has no streams"))
  ensure (request.runGenesis.isNone = true)
    (.integrity (js "run genesis cannot be combined with artifact publication"))
  ensure (∀ append ∈ request.run, append.expectedSequence ≠ 0)
    (.integrity (js "run genesis requires the explicit runGenesis operation"))
  appendKinds request.toAtomicAppendRequest
  let workspaceId ← requestWorkspace request.toAtomicAppendRequest
  ensure (∀ projection ∈ request.projections, projection.workspaceId = workspaceId)
    (.integrity (js "projection workspace mismatch"))
  ensure (∀ snapshot ∈ request.snapshots, snapshot.workspaceId = workspaceId)
    (.integrity (js "snapshot workspace mismatch"))
  return workspaceId

def artifactBound (request : PublishAndAppendRequest) (existing : List JsString)
    (digest : JsString) : Prop :=
  ∃ publication ∈ request.artifacts, publication.record.digest = digest ∧
    ∃ reference ∈ publication.references,
      reference.ownerId ∈ request.insertedEventIds ∨ reference.ownerId ∈ existing

instance (request : PublishAndAppendRequest) (existing : List JsString) (digest : JsString) :
    Decidable (artifactBound request existing digest) :=
  inferInstanceAs (Decidable (∃ publication ∈ request.artifacts, _))

def verifyRequired (around : Surroundings) (request : PublishAndAppendRequest) (digest : JsString) :
    Except StoreError Unit := do
  let publication ← required (request.artifacts.find? fun publication =>
    publication.record.digest = digest) (missingArtifact digest)
  around.verifyRecord publication.record

def publishAndAppendAtomic (around : Surroundings) (request : PublishAndAppendRequest)
    (state : Authority) : Except StoreError (JsValue × Authority) := do
  request.artifacts.forM fun publication => around.publish publication.record
  let workspaceId ← publicationAdmissible request
  let key := commandScope request.toAtomicAppendRequest workspaceId
  let digest ← requestDigest (js "horseness.store-artifact-append.v1") request.toJson
  match state.command key with
  | some prior => do
      ensure (prior.requestDigest = digest) reusedCommand
      return (deduplicated prior.result, state)
  | none => do
      verifyCurrentObservation around state request.toAtomicAppendRequest workspaceId
      let owners ← (request.artifacts.flatMap ArtifactPublication.references).mapM
        (verifyOwner state request.toAtomicAppendRequest workspaceId)
      request.requiredArtifactDigests.forM fun digest =>
        ensure (artifactBound request (owners.filterMap id) digest)
          (.integrity (js "required artifact has no workspace event reference: " ++ digest))
      let registered ← (request.artifacts.map ArtifactPublication.record).foldlM (register around)
        state
      let (workspaceHead, first) ← writePart writeAppend registered request.workspace
      let (runHead, second) ← writePart writeAppend first request.run
      let owned ← request.artifacts.foldlM (addOwners around workspaceId) second
      request.requiredArtifactDigests.forM (verifyRequired around request)
      let projected ← request.projections.foldlM updateProjection owned
      let pictured ← request.snapshots.foldlM insertSnapshot projected
      let result := AppendResult.toJson ⟨request.commandId, workspaceHead, runHead,
        request.clientRequestDigest⟩
      let after ← insertCommand pictured key digest result
      return (result, after)

def executionCommandResult (around : Surroundings) (input : ExecutionCommand)
    (result : Option JsValue) (state : Authority) : Except StoreError (Option JsValue × Authority) := do
  ensure (around.session = some input.workspaceId)
    (.integrity (js "authenticated workspace session required"))
  let key : CommandKey := ⟨input.workspaceId, .run, input.runId, input.commandId⟩
  match state.command key, result with
  | some prior, _ => do
      ensure (prior.requestDigest = input.requestDigest) reusedCommand
      return (some prior.result, state)
  | none, none => return (none, state)
  | none, some result => do
      input.observationCursor.toList.forM fun cursor =>
        verifyCompositeObservation state cursor input.workspaceId input.runId
      verifyExpectations around state input.workspaceId input.authorityStateExpectations
      let _ ← authenticatedRows state (.run input.workspaceId input.runId)
      let after ← insertCommand state key input.requestDigest result
      return (some result, after)

end Publications

section Service

variable [Engine]

inductive StoreRequest where
  | append (request : AtomicAppendRequest)
  | publish (request : PublishAndAppendRequest)
  | command (input : ExecutionCommand) (result : Option JsValue)

/-- The body of a request's transaction, with the checks made before it. -/
def perform (around : Surroundings) (state : Authority) :
    StoreRequest → Except StoreError (Option JsValue × Authority)
  | .append request => do
      let (answer, after) ← appendAtomic around request state
      return (some answer, after)
  | .publish request => do
      let (answer, after) ← publishAndAppendAtomic around request state
      return (some answer, after)
  | .command input result => executionCommandResult around input result state

def serve (around : Surroundings) (request : StoreRequest) (state : Authority) :
    Except StoreError (Option JsValue) × Authority :=
  match perform around state request with
  | .ok (answer, after) => (.ok answer, after)
  | .error failure => (.error failure, state)

end Service

end Horseness.AuthorityLog
