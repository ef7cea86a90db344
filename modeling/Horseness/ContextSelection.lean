import Horseness.DispatchAuthority
import Horseness.GreedyLayouts
import Horseness.SortKeys

/-!
The context of an attempt, rebuilt from the sources that were active at its fork pin. Sources are
taken whole in one order as long as they fit the byte budget; what does not fit is listed.
-/

namespace Horseness.ContextSelection

open FallibleRuns ScriptText JsonValues ScriptEngine Canonical Cursors ForkContext DispatchAuthority
  SortKeys

section Sources

inductive ContextSourceKindV1 where
  | system
  | objective
  | task
  | canonical
  | dependency
  | receipt
  | evidence
  | decision
  | approval
  | policy
  | renderer
  | summary
  deriving DecidableEq

def ContextSourceKindV1.text : ContextSourceKindV1 → JsString
  | .system => js "system"
  | .objective => js "objective"
  | .task => js "task"
  | .canonical => js "canonical"
  | .dependency => js "dependency"
  | .receipt => js "receipt"
  | .evidence => js "evidence"
  | .decision => js "decision"
  | .approval => js "approval"
  | .policy => js "policy"
  | .renderer => js "renderer"
  | .summary => js "summary"

def sourceKinds : List ContextSourceKindV1 :=
  [.system, .objective, .task, .canonical, .dependency, .receipt, .evidence, .decision, .approval,
    .policy, .renderer, .summary]

structure TrustedContextSourceV1 where
  sourceId : JsString
  kind : ContextSourceKindV1
  priority : Nat
  digest : JsString
  activationEpoch : Nat
  deactivationEpoch : Option Nat
  artifactDigest : JsString
  eventId : JsString
  deriving DecidableEq

inductive ContextError where
  | domain (failure : DomainError)
  | authorityCursorSubstituted
  | authorityCursorStale
  | invalidContextRequest
  | sourceAuthorityInvalid
  | sourceVersionSubstituted
  | sourceDigestMismatch
  | authorizationVersionSubstituted
  | bindingDigestMismatch
  | artifactUnread
  deriving DecidableEq

def integer (value : Option JsValue) (code : ContextError) : Except ContextError Nat :=
  match value with
  | some (.num .negativeZero) => .ok 0
  | some (.num (.finite number)) =>
      if number.den = 1 ∧ 0 ≤ number.num ∧ number.num ≤ maxSafeInteger then .ok number.num.toNat
      else .error code
  | _ => .error code

def text (value : Option JsValue) (code : ContextError) : Except ContextError JsString :=
  match value with
  | some (.str (unit :: rest)) => .ok (unit :: rest)
  | _ => .error code

def parseKind (value : Option JsValue) : Except ContextError ContextSourceKindV1 := do
  let spelled ← text value .sourceAuthorityInvalid
  required (sourceKinds.find? fun kind => kind.text = spelled) .sourceAuthorityInvalid

def parseDeactivation (activationEpoch : Nat) (value : Option JsValue) :
    Except ContextError (Option Nat) :=
  match value with
  | some .null => .ok none
  | _ => do
      let deactivationEpoch ← integer value .sourceAuthorityInvalid
      ensure (activationEpoch < deactivationEpoch) .sourceAuthorityInvalid
      return some deactivationEpoch

def isObject : JsValue → Bool
  | .obj _ _ => true
  | _ => false

def parseSource (item : JsValue) : Except ContextError TrustedContextSourceV1 := do
  ensure (isObject item = true) .sourceAuthorityInvalid
  let kind ← parseKind (property "kind" item)
  ensure (property "bytes" item = none ∧ property "allowed" item = none ∧
    property "visibleAtRunSequence" item = none) .sourceAuthorityInvalid
  let activationEpoch ← integer (property "activationEpoch" item) .sourceAuthorityInvalid
  let deactivationEpoch ← parseDeactivation activationEpoch (property "deactivationEpoch" item)
  let sourceId ← text (property "sourceId" item) .sourceAuthorityInvalid
  let priority ← integer (property "priority" item) .sourceAuthorityInvalid
  let digest ← text (property "digest" item) .sourceAuthorityInvalid
  let artifactDigest ← text (property "artifactDigest" item) .sourceAuthorityInvalid
  let eventId ← text (property "eventId" item) .sourceAuthorityInvalid
  return { sourceId := sourceId
           kind := kind
           priority := priority
           digest := digest
           activationEpoch := activationEpoch
           deactivationEpoch := deactivationEpoch
           artifactDigest := artifactDigest
           eventId := eventId }

def listed : Option JsValue → Option (List JsValue)
  | some (.arr items) => some items
  | _ => none

variable [Engine]

/-- `same(left, right)`, where the left is read from a snapshot. -/
def sameStored (left : Option JsValue) (right : JsValue) (code : ContextError) :
    Except ContextError Unit := do
  let stored ← required left (.domain .invalidJsonValue)
  let first ← (canonicalJson stored).mapError ContextError.domain
  let second ← (canonicalJson right).mapError ContextError.domain
  ensure (first = second) code

def exactContextVersion (version : ContextVersionV1) (cursor : ObservationCursorV1)
    (code : ContextError) : Except ContextError Unit := do
  (parseContextVersionV1 version).mapError fun _ => code
  let first ← (canonicalJson version.observationCursor.toJson).mapError ContextError.domain
  let second ← (canonicalJson cursor.toJson).mapError ContextError.domain
  ensure (first = second) code

def parseSources (state : JsValue) (pin : SealedForkPinV1) :
    Except ContextError (List TrustedContextSourceV1) := do
  ensure (textOf (property "schemaVersion" state) = some (js "1") ∧
    textOf (property "workspaceId" state) = some pin.core.workspaceId ∧
    textOf (property "runId" state) = some pin.core.runId ∧
    textOf (property "forkPinDigest" state) = some pin.forkPinDigest) .sourceAuthorityInvalid
  sameStored (property "observationCursor" state) pin.core.sourceObservationCursor.toJson
    .sourceAuthorityInvalid
  let items ← required (listed (property "sources" state)) .sourceAuthorityInvalid
  -- a stored version that is the pin's own parses as the pin's does
  exactContextVersion pin.core.sourceContextVersion (.composite pin.core.sourceObservationCursor)
    .sourceVersionSubstituted
  sameStored (property "contextVersion" state) pin.core.sourceContextVersion.toJson
    .sourceVersionSubstituted
  items.mapM parseSource

end Sources

section Reconstruction

structure StoredHead where
  sequence : Nat
  envelopeHash : JsString

structure AuthenticatedAuthorityViewV1 where
  cursor : CompositeCursorV1
  workspaceEvents : List StoredHead
  runEvents : List StoredHead

structure Artifact where
  bytes : List UInt8
  ownerRunSequence : Nat

/-- The artifacts that events reference, by workspace, run, last sequence, event and digest;
nothing where reading throws. -/
structure TrustedAuthorityReader where
  readEventBoundArtifact : JsString → JsString → Nat → JsString → JsString → Option Artifact

structure AuthenticatedContextSnapshotV1 where
  view : AuthenticatedAuthorityViewV1
  pin : SealedForkPinV1
  sources : List TrustedContextSourceV1
  authorizationOverlay : AuthorizationOverlayV1
  authorizationContextVersion : ContextVersionV1
  reader : TrustedAuthorityReader

structure ReconstructContextRequestV1 where
  snapshot : AuthenticatedContextSnapshotV1
  attemptId : JsString
  generation : Nat
  byteBudget : Nat
  rendererVersion : JsString
  providerIdempotencyKey : JsString
  allowedProducerPrincipalId : JsString
  allowedProducerGrantDigest : JsString
  tokenizerMetadata : Option JsValue

structure ContextManifestRecordV1 where
  core : ContextManifestCoreV1
  contextManifestCoreDigest : JsString
  attemptContextBindingDigest : JsString

structure ReconstructedContextV1 where
  bytes : List UInt8
  manifest : ContextManifestRecordV1
  binding : AttemptContextBindingV1

/-- A source with the bytes of its artifact. -/
structure MaterializedSource where
  source : TrustedContextSourceV1
  bytes : List UInt8
  deriving DecidableEq

def atHead (events : List StoredHead) (sequence : Nat) (envelopeHash : JsString) : Bool :=
  (events.find? fun event => event.sequence = sequence).any fun event =>
    event.envelopeHash = envelopeHash

def cursorAtPin (view : AuthenticatedAuthorityViewV1) (pin : SealedForkPinV1) :
    Except ContextError Unit := do
  let cursor := pin.core.sourceObservationCursor
  ensure (atHead view.workspaceEvents cursor.workspaceSequence cursor.workspaceEnvelopeHash = true ∧
    atHead view.runEvents cursor.runSequence cursor.runEnvelopeHash = true)
    .authorityCursorSubstituted
  ensure (cursor.workspaceContextEpoch = cursor.workspaceSequence - 1 ∧
    cursor.runContextEpoch = cursor.runSequence - 1) .authorityCursorSubstituted
  ensure (view.cursor.workspaceId = cursor.workspaceId ∧ view.cursor.runId = cursor.runId ∧
    cursor.workspaceSequence ≤ view.cursor.workspaceSequence ∧
    cursor.runSequence ≤ view.cursor.runSequence) .authorityCursorStale

def activeAt (epoch : Nat) (source : TrustedContextSourceV1) : Bool :=
  source.activationEpoch ≤ epoch && source.deactivationEpoch.all (epoch < ·)

def sourceBefore : MaterializedSource → MaterializedSource → Prop :=
  byKey (fun item => item.source.priority) (byKey (fun item => utf8 item.source.kind.text)
    (byKey (fun item => utf8 item.source.sourceId) (lastKey fun item => utf8 item.source.digest)))

instance (left right : MaterializedSource) : Decidable (sourceBefore left right) :=
  inferInstanceAs (Decidable (byKey (fun item => item.source.priority)
    (byKey (fun item => utf8 item.source.kind.text) (byKey (fun item => utf8 item.source.sourceId)
      (lastKey fun item => utf8 item.source.digest))) left right))

def omission (item : MaterializedSource) : JsString := js "budget:" ++ item.source.sourceId

/-- What the loop over the sorted sources carries. -/
structure Selection where
  chunks : List (List UInt8)
  descriptors : List SourceDescriptorV1
  omissions : List JsString
  offset : Nat

def selectSource (byteBudget : Nat) (selection : Selection) (item : MaterializedSource) :
    Selection :=
  if selection.offset + item.bytes.length > byteBudget then
    { selection with omissions := selection.omissions ++ [omission item] }
  else
    { selection with
      chunks := selection.chunks ++ [item.bytes]
      descriptors := selection.descriptors ++ [⟨item.source.kind.text, item.source.digest,
        selection.offset, selection.offset + item.bytes.length, item.source.priority⟩]
      offset := selection.offset + item.bytes.length }

variable [Engine]

def rawDigest (bytes : List UInt8) : Except DomainError JsString :=
  domainDigest (js "horseness.context-source-bytes.v1") (.str (base64 (bytes.map UInt8.toNat)))

def materialize (snapshot : AuthenticatedContextSnapshotV1) (source : TrustedContextSourceV1) :
    Except ContextError MaterializedSource := do
  let pin := snapshot.pin.core
  let materialized ← required (snapshot.reader.readEventBoundArtifact pin.workspaceId pin.runId
    pin.sourceObservationCursor.runSequence source.eventId source.artifactDigest) .artifactUnread
  ensure (materialized.ownerRunSequence ≤ pin.sourceObservationCursor.runSequence)
    .sourceAuthorityInvalid
  let digest ← (rawDigest materialized.bytes).mapError ContextError.domain
  ensure (digest = source.digest) .sourceDigestMismatch
  return ⟨source, materialized.bytes⟩

def bindContext (core : ContextManifestCoreV1) (binding : AttemptContextBindingV1) :
    Except DomainError ContextManifestRecordV1 := do
  let manifestDigest ← contextManifestCoreDigest core
  ensure (binding.forkPinDigest = core.forkPinDigest ∧ binding.attemptId = core.attemptId ∧
    binding.generation = core.generation) .receiptMismatch
  sameCanonicalJson binding.sourceObservationCursor.toJson core.sourceObservationCursor.toJson
    .receiptMismatch
  sameCanonicalJson binding.sourceContextVersion.toJson core.sourceContextVersion.toJson
    .receiptMismatch
  let bindingDigest ← attemptContextBindingDigest
    { binding with contextManifestCoreDigest := manifestDigest }
  return ⟨core, manifestDigest, bindingDigest⟩

def runEpoch : ContextVersionV1 → Option Nat
  | .composite _ runContextEpoch _ => some runContextEpoch
  | _ => none

def manifestCore (request : ReconstructContextRequestV1) (selection : Selection)
    (renderedOutputDigest : JsString) : ContextManifestCoreV1 :=
  let pin := request.snapshot.pin.core
  { workspaceId := pin.workspaceId
    runId := pin.runId
    attemptId := request.attemptId
    generation := request.generation
    forkPinDigest := request.snapshot.pin.forkPinDigest
    sourceObservationCursor := pin.sourceObservationCursor
    sourceContextVersion := pin.sourceContextVersion
    authorizationObservationCursor := request.snapshot.authorizationContextVersion.observationCursor
    authorizationContextVersion := request.snapshot.authorizationContextVersion
    authorizationOverlayV1 := request.snapshot.authorizationOverlay
    canonicalRevision := pin.canonicalRevision
    canonicalStateHash := pin.canonicalStateHash
    sources := selection.descriptors
    rendererVersion := request.rendererVersion
    omissions := selection.omissions.insertionSort (lastKey utf8)
    selectedBytes := selection.offset
    byteBudget := request.byteBudget
    tokenizerMetadata := request.tokenizerMetadata.getD .null
    renderedOutputDigest := renderedOutputDigest }

def contextBinding (request : ReconstructContextRequestV1) (manifestDigest : JsString) :
    AttemptContextBindingV1 :=
  { attemptId := request.attemptId
    generation := request.generation
    forkPinDigest := request.snapshot.pin.forkPinDigest
    contextManifestCoreDigest := manifestDigest
    sourceObservationCursor := request.snapshot.pin.core.sourceObservationCursor
    sourceContextVersion := request.snapshot.pin.core.sourceContextVersion
    authorizationObservationCursor := request.snapshot.authorizationContextVersion.observationCursor
    authorizationContextVersion := request.snapshot.authorizationContextVersion
    providerIdempotencyKey := request.providerIdempotencyKey
    allowedProducerPrincipalId := request.allowedProducerPrincipalId
    allowedProducerGrantDigest := request.allowedProducerGrantDigest }

def publishSelection (request : ReconstructContextRequestV1) (selection : Selection) :
    Except ContextError ReconstructedContextV1 := do
  let bytes := selection.chunks.flatten
  let renderedOutputDigest ← (rawDigest bytes).mapError ContextError.domain
  let core := manifestCore request selection renderedOutputDigest
  let manifestDigest ← (contextManifestCoreDigest core).mapError ContextError.domain
  let binding := contextBinding request manifestDigest
  let manifest ← (bindContext core binding).mapError ContextError.domain
  let bindingDigest ← (attemptContextBindingDigest binding).mapError ContextError.domain
  ensure (manifest.contextManifestCoreDigest = manifestDigest ∧
    manifest.attemptContextBindingDigest = bindingDigest) .bindingDigestMismatch
  return ⟨bytes, manifest, binding⟩

/-- The checks before any source is read, with the epoch of the pin. -/
def requestEpoch (request : ReconstructContextRequestV1) : Except ContextError Nat := do
  let snapshot := request.snapshot
  (verifyForkPin snapshot.pin).mapError ContextError.domain
  cursorAtPin snapshot.view snapshot.pin
  ensure (1 ≤ request.generation ∧ request.generation ≤ maxSafeInteger ∧
    request.byteBudget ≤ maxSafeInteger) .invalidContextRequest
  exactContextVersion snapshot.pin.core.sourceContextVersion
    (.composite snapshot.pin.core.sourceObservationCursor) .sourceVersionSubstituted
  let epoch ← required (runEpoch snapshot.pin.core.sourceContextVersion)
    (.domain .contextVersionMismatch)
  exactContextVersion snapshot.authorizationContextVersion (.composite snapshot.view.cursor)
    .authorizationVersionSubstituted
  return epoch

def reconstructPinnedContext (request : ReconstructContextRequestV1) :
    Except ContextError ReconstructedContextV1 := do
  let epoch ← requestEpoch request
  let materialized ← (request.snapshot.sources.filter (activeAt epoch)).mapM
    (materialize request.snapshot)
  let normalized := materialized.insertionSort sourceBefore
  publishSelection request
    (normalized.foldl (selectSource request.byteBudget) ⟨[], [], [], 0⟩)

end Reconstruction

end Horseness.ContextSelection
