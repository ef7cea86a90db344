import Horseness.Cursors

/-!
Sealed fork pins, dependency joins, context manifests and attempt bindings. A
seal is the digest of a core that passed its own checks; list fields that stand
for sets are put in one order before they are hashed.
-/

namespace Horseness.ForkContext

open FallibleRuns ScriptText JsonValues ScriptEngine Canonical Cursors

inductive DependencyType where
  | requiresSuccess
  | requiresTerminal
  | requiresOutcome
  deriving DecidableEq

def DependencyType.text : DependencyType → JsString
  | .requiresSuccess => js "requires_success"
  | .requiresTerminal => js "requires_terminal"
  | .requiresOutcome => js "requires_outcome"

inductive Schedulability where
  | ineligible
  | blocked
  | ready
  | running
  | unknownOutcome
  | terminal
  deriving DecidableEq

def Schedulability.text : Schedulability → JsString
  | .ineligible => js "ineligible"
  | .blocked => js "blocked"
  | .ready => js "ready"
  | .running => js "running"
  | .unknownOutcome => js "unknown_outcome"
  | .terminal => js "terminal"

structure DependencyOutcomeV1 where
  edgeId : JsString
  edgeType : DependencyType
  sourceTaskId : JsString
  taskResolutionEventSequence : Nat
  taskResolutionDigest : JsString
  winningGeneration : Option Nat
  deriving DecidableEq

def DependencyOutcomeV1.toJson (outcome : DependencyOutcomeV1) : JsValue :=
  object [("edgeId", .str outcome.edgeId), ("edgeType", .str outcome.edgeType.text),
    ("sourceTaskId", .str outcome.sourceTaskId),
    ("taskResolutionEventSequence", natural outcome.taskResolutionEventSequence),
    ("taskResolutionDigest", .str outcome.taskResolutionDigest),
    ("winningGeneration", nullable natural outcome.winningGeneration)]

structure DependencyJoinSnapshotCoreV1 where
  runId : JsString
  taskId : JsString
  taskContractDigest : JsString
  joinEvaluationId : JsString
  joinObservationCursor : CompositeCursorV1
  dependencies : List DependencyOutcomeV1
  schedulability : Schedulability
  reasonCodes : List JsString
  deriving DecidableEq

def DependencyJoinSnapshotCoreV1.toJson (core : DependencyJoinSnapshotCoreV1) : JsValue :=
  object [("schemaVersion", .str (js "1")), ("runId", .str core.runId),
    ("taskId", .str core.taskId), ("taskContractDigest", .str core.taskContractDigest),
    ("joinEvaluationId", .str core.joinEvaluationId),
    ("joinObservationCursor", core.joinObservationCursor.toJson),
    ("dependencies", .arr (core.dependencies.map DependencyOutcomeV1.toJson)),
    ("schedulability", .str core.schedulability.text), ("reasonCodes", texts core.reasonCodes)]

structure ForkPinCoreV1 where
  forkId : JsString
  pinVersion : Nat
  workspaceId : JsString
  runId : JsString
  parentForkPinDigest : Option JsString
  refreshesForkPinDigest : Option JsString
  canonicalRevision : Nat
  canonicalStateHash : JsString
  sourceObservationCursor : CompositeCursorV1
  sourceContextVersion : ContextVersionV1
  dependencyJoinSnapshotDigest : JsString
  deltaAuthorityScopeDigest : JsString
  pinnedPolicyDigest : JsString
  ancestry : List JsString
  createdByPrincipalId : JsString
  createdByGrantDigest : JsString
  deriving DecidableEq

def ForkPinCoreV1.toJson (core : ForkPinCoreV1) : JsValue :=
  object [("schemaVersion", .str (js "1")), ("forkId", .str core.forkId),
    ("pinVersion", natural core.pinVersion), ("workspaceId", .str core.workspaceId),
    ("runId", .str core.runId),
    ("parentForkPinDigest", nullable .str core.parentForkPinDigest),
    ("refreshesForkPinDigest", nullable .str core.refreshesForkPinDigest),
    ("canonicalRevision", natural core.canonicalRevision),
    ("canonicalStateHash", .str core.canonicalStateHash),
    ("canonicalizerVersion", .str (js "jcs-v1")), ("hashVersion", .str (js "sha256-v1")),
    ("sourceObservationCursor", core.sourceObservationCursor.toJson),
    ("sourceContextVersion", core.sourceContextVersion.toJson),
    ("dependencyJoinSnapshotDigest", .str core.dependencyJoinSnapshotDigest),
    ("deltaAuthorityScopeDigest", .str core.deltaAuthorityScopeDigest),
    ("pinnedPolicyDigest", .str core.pinnedPolicyDigest), ("ancestry", texts core.ancestry),
    ("createdByPrincipalId", .str core.createdByPrincipalId),
    ("createdByGrantDigest", .str core.createdByGrantDigest)]

structure SealedForkPinV1 where
  core : ForkPinCoreV1
  forkPinDigest : JsString
  forkPinId : JsString
  deriving DecidableEq

structure SourceDescriptorV1 where
  kind : JsString
  digest : JsString
  byteStart : Nat
  byteEnd : Nat
  priority : Nat
  deriving DecidableEq

def SourceDescriptorV1.toJson (source : SourceDescriptorV1) : JsValue :=
  object [("kind", .str source.kind), ("digest", .str source.digest),
    ("byteStart", natural source.byteStart), ("byteEnd", natural source.byteEnd),
    ("priority", natural source.priority)]

structure AuthorizationOverlayV1 where
  policyDigest : JsString
  grantDigest : JsString
  quotaDigest : JsString
  allowed : Bool
  deriving DecidableEq

def AuthorizationOverlayV1.toJson (overlay : AuthorizationOverlayV1) : JsValue :=
  object [("policyDigest", .str overlay.policyDigest), ("grantDigest", .str overlay.grantDigest),
    ("quotaDigest", .str overlay.quotaDigest),
    ("result", .str (if overlay.allowed then js "allowed" else js "denied"))]

structure ContextManifestCoreV1 where
  workspaceId : JsString
  runId : JsString
  attemptId : JsString
  generation : Nat
  forkPinDigest : JsString
  sourceObservationCursor : CompositeCursorV1
  sourceContextVersion : ContextVersionV1
  authorizationObservationCursor : ObservationCursorV1
  authorizationContextVersion : ContextVersionV1
  authorizationOverlayV1 : AuthorizationOverlayV1
  canonicalRevision : Nat
  canonicalStateHash : JsString
  sources : List SourceDescriptorV1
  rendererVersion : JsString
  omissions : List JsString
  selectedBytes : Nat
  byteBudget : Nat
  tokenizerMetadata : JsValue
  renderedOutputDigest : JsString

def ContextManifestCoreV1.toJson (core : ContextManifestCoreV1) : JsValue :=
  object [("schemaVersion", .str (js "1")), ("workspaceId", .str core.workspaceId),
    ("runId", .str core.runId), ("attemptId", .str core.attemptId),
    ("generation", natural core.generation), ("forkPinDigest", .str core.forkPinDigest),
    ("sourceObservationCursor", core.sourceObservationCursor.toJson),
    ("sourceContextVersion", core.sourceContextVersion.toJson),
    ("authorizationObservationCursor", core.authorizationObservationCursor.toJson),
    ("authorizationContextVersion", core.authorizationContextVersion.toJson),
    ("authorizationOverlayV1", core.authorizationOverlayV1.toJson),
    ("canonicalRevision", natural core.canonicalRevision),
    ("canonicalStateHash", .str core.canonicalStateHash),
    ("canonicalizerVersion", .str (js "jcs-v1")), ("hashVersion", .str (js "sha256-v1")),
    ("sources", .arr (core.sources.map SourceDescriptorV1.toJson)),
    ("rendererVersion", .str core.rendererVersion), ("omissions", texts core.omissions),
    ("selectedBytes", natural core.selectedBytes), ("byteBudget", natural core.byteBudget),
    ("tokenizerMetadata", core.tokenizerMetadata),
    ("renderedOutputDigest", .str core.renderedOutputDigest)]

structure AttemptContextBindingV1 where
  attemptId : JsString
  generation : Nat
  forkPinDigest : JsString
  contextManifestCoreDigest : JsString
  sourceObservationCursor : CompositeCursorV1
  sourceContextVersion : ContextVersionV1
  authorizationObservationCursor : ObservationCursorV1
  authorizationContextVersion : ContextVersionV1
  providerIdempotencyKey : JsString
  allowedProducerPrincipalId : JsString
  allowedProducerGrantDigest : JsString
  deriving DecidableEq

def AttemptContextBindingV1.toJson (binding : AttemptContextBindingV1) : JsValue :=
  object [("schemaVersion", .str (js "1")), ("attemptId", .str binding.attemptId),
    ("generation", natural binding.generation), ("forkPinDigest", .str binding.forkPinDigest),
    ("contextManifestCoreDigest", .str binding.contextManifestCoreDigest),
    ("sourceObservationCursor", binding.sourceObservationCursor.toJson),
    ("sourceContextVersion", binding.sourceContextVersion.toJson),
    ("authorizationObservationCursor", binding.authorizationObservationCursor.toJson),
    ("authorizationContextVersion", binding.authorizationContextVersion.toJson),
    ("providerIdempotencyKey", .str binding.providerIdempotencyKey),
    ("expectedReceiptSchemaVersion", .str (js "1")),
    ("allowedProducerPrincipalId", .str binding.allowedProducerPrincipalId),
    ("allowedProducerGrantDigest", .str binding.allowedProducerGrantDigest)]

section Seals

variable [Engine]

/-- `canonicalJson(left) !== canonicalJson(right)` refuses with `code`. -/
def sameCanonicalJson (left right : JsValue) (code : DomainError) : Except DomainError Unit := do
  let first ← canonicalJson left
  let second ← canonicalJson right
  ensure (first = second) code

/-- By source task, then by edge, both as `localeCompare` orders them. -/
def dependencyBefore (left right : DependencyOutcomeV1) : Prop :=
  let bySource := Engine.localeCompare left.sourceTaskId right.sourceTaskId
  (if bySource = 0 then Engine.localeCompare left.edgeId right.edgeId else bySource) ≤ 0

instance (left right : DependencyOutcomeV1) : Decidable (dependencyBefore left right) :=
  inferInstanceAs (Decidable ((if Engine.localeCompare left.sourceTaskId right.sourceTaskId = 0
    then Engine.localeCompare left.edgeId right.edgeId
    else Engine.localeCompare left.sourceTaskId right.sourceTaskId) ≤ 0))

def sealDependencyJoinSnapshot (core : DependencyJoinSnapshotCoreV1) :
    Except DomainError JsString := do
  let dependencies := core.dependencies.insertionSort dependencyBefore
  ensure ((dependencies.map DependencyOutcomeV1.edgeId).Nodup ∧ ∀ item ∈ dependencies,
    1 ≤ item.taskResolutionEventSequence ∧ item.taskResolutionDigest ≠ []) .invalidDependencySnapshot
  let normalized := { core with
    dependencies := dependencies,
    reasonCodes := core.reasonCodes.dedup.insertionSort (· ≤ ·) }
  domainDigest (js "horseness.dependency-join-snapshot-core.v1") normalized.toJson

def validateForkPinCore (core : ForkPinCoreV1) : Except DomainError Unit := do
  ensure (1 ≤ core.pinVersion ∧ core.forkId ≠ [] ∧ core.workspaceId ≠ [] ∧ core.runId ≠ [])
    .invalidEnvelope
  ensure (core.sourceContextVersion.isComposite = true) .contextVersionMismatch
  sameCanonicalJson core.sourceContextVersion.observationCursor.toJson
    core.sourceObservationCursor.toJson .contextVersionMismatch
  -- No parent goes with no ancestry, a parent with its own digest last.
  ensure (core.ancestry.Nodup ∧ core.ancestry.getLast? = core.parentForkPinDigest) .invalidEnvelope
  ensure (core.refreshesForkPinDigest ≠ none →
    core.parentForkPinDigest = core.refreshesForkPinDigest) .invalidEnvelope
  ensure (core.pinVersion = 1 → core.refreshesForkPinDigest = none) .invalidEnvelope

def sealForkPin (core : ForkPinCoreV1) : Except DomainError SealedForkPinV1 := do
  validateForkPinCore core
  let forkPinDigest ← domainDigest (js "horseness.fork-pin-core.v1") core.toJson
  return ⟨core, forkPinDigest, digestId (js "fpk_") forkPinDigest⟩

def verifyForkPin (pin : SealedForkPinV1) : Except DomainError Unit := do
  let sealed ← sealForkPin pin.core
  ensure (sealed.forkPinDigest = pin.forkPinDigest ∧ sealed.forkPinId = pin.forkPinId)
    .forkPinAuthenticationFailed

def validateManifest (core : ContextManifestCoreV1) : Except DomainError Unit := do
  ensure (1 ≤ core.generation ∧ core.selectedBytes ≤ core.byteBudget) .invalidContextManifest
  ensure (core.sourceContextVersion.isComposite = true) .contextVersionMismatch
  sameCanonicalJson core.sourceContextVersion.observationCursor.toJson
    core.sourceObservationCursor.toJson .contextVersionMismatch
  sameCanonicalJson core.authorizationContextVersion.observationCursor.toJson
    core.authorizationObservationCursor.toJson .contextVersionMismatch
  ensure (∀ source ∈ core.sources, source.byteStart ≤ source.byteEnd ∧
    source.byteEnd ≤ core.selectedBytes) .invalidContextSource

def contextManifestCoreDigest (core : ContextManifestCoreV1) : Except DomainError JsString := do
  validateManifest core
  domainDigest (js "horseness.context-manifest-core.v1") core.toJson

def attemptContextBindingDigest (binding : AttemptContextBindingV1) :
    Except DomainError JsString := do
  ensure (1 ≤ binding.generation ∧ binding.providerIdempotencyKey ≠ [] ∧
    binding.sourceContextVersion.isComposite = true) .invalidContextBinding
  sameCanonicalJson binding.sourceContextVersion.observationCursor.toJson
    binding.sourceObservationCursor.toJson .invalidContextBinding
  sameCanonicalJson binding.authorizationContextVersion.observationCursor.toJson
    binding.authorizationObservationCursor.toJson .invalidContextBinding
  domainDigest (js "horseness.attempt-context-binding.v1") binding.toJson

end Seals

end Horseness.ForkContext
