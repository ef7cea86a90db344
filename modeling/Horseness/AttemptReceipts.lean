import Horseness.Tasks

/-!
Attempt receipts as workers seal them. The digest covers the core with its
evidence in digest order; the identifier is derived from the digest.
-/

namespace Horseness.AttemptReceipts

open FallibleRuns Records ScriptText JsonValues ScriptEngine Canonical Cursors Tasks

structure ReceiptEvidenceV1 where
  digest : JsString
  mediaType : JsString
  size : Nat
  deriving DecidableEq

def ReceiptEvidenceV1.toJson (evidence : ReceiptEvidenceV1) : JsValue :=
  object [("digest", .str evidence.digest), ("mediaType", .str evidence.mediaType),
    ("size", natural evidence.size)]

structure AttemptReceiptCoreV1 where
  workspaceId : JsString
  runId : JsString
  taskId : JsString
  attemptId : JsString
  generation : Nat
  attemptContextBindingDigest : JsString
  contextManifestCoreDigest : JsString
  forkPinDigest : JsString
  providerId : JsString
  providerOperationId : JsString
  providerIdempotencyKeyDigest : JsString
  producerPrincipalId : JsString
  producerGrantDigest : JsString
  adapterId : JsString
  adapterVersion : JsString
  hostId : JsString
  hostVersion : JsString
  outcome : AttemptTerminalState
  startedAt : JsString
  finishedAt : JsString
  outputDigest : Option JsString
  evidence : List ReceiptEvidenceV1
  provenance : JsValue
  nonce : JsString

structure AttemptReceiptEnvelopeV1 extends AttemptReceiptCoreV1 where
  receiptId : JsString
  receiptDigest : JsString

def AttemptReceiptCoreV1.toJson (core : AttemptReceiptCoreV1) : JsValue :=
  object [("schemaVersion", .str (js "1")), ("workspaceId", .str core.workspaceId),
    ("runId", .str core.runId), ("taskId", .str core.taskId), ("attemptId", .str core.attemptId),
    ("generation", natural core.generation),
    ("attemptContextBindingDigest", .str core.attemptContextBindingDigest),
    ("contextManifestCoreDigest", .str core.contextManifestCoreDigest),
    ("forkPinDigest", .str core.forkPinDigest), ("providerId", .str core.providerId),
    ("providerOperationId", .str core.providerOperationId),
    ("providerIdempotencyKeyDigest", .str core.providerIdempotencyKeyDigest),
    ("producerPrincipalId", .str core.producerPrincipalId),
    ("producerGrantDigest", .str core.producerGrantDigest), ("adapterId", .str core.adapterId),
    ("adapterVersion", .str core.adapterVersion), ("hostId", .str core.hostId),
    ("hostVersion", .str core.hostVersion), ("outcome", .str core.outcome.text),
    ("startedAt", .str core.startedAt), ("finishedAt", .str core.finishedAt),
    ("outputDigest", nullable .str core.outputDigest),
    ("evidence", .arr (core.evidence.map ReceiptEvidenceV1.toJson)),
    ("provenance", core.provenance), ("nonce", .str core.nonce)]

def AttemptReceiptCoreV1.requiredTexts (core : AttemptReceiptCoreV1) : List JsString :=
  [core.workspaceId, core.runId, core.taskId, core.attemptId, core.attemptContextBindingDigest,
    core.contextManifestCoreDigest, core.forkPinDigest, core.providerId, core.providerOperationId,
    core.providerIdempotencyKeyDigest, core.producerPrincipalId, core.producerGrantDigest,
    core.adapterId, core.adapterVersion, core.hostId, core.hostVersion, core.nonce]

def isObject : JsValue → Bool
  | .obj _ _ => true
  | _ => false

def receiptText (value : JsString) : Except DomainError Unit := nonEmpty value .invalidEnvelope

section Seal

variable [Engine]

def validateAttemptReceiptCore (core : AttemptReceiptCoreV1) : Except DomainError Unit := do
  core.requiredTexts.forM receiptText
  positiveCheck core.generation .invalidEnvelope
  ensure (canonicalTimestamp core.startedAt = true) .invalidEnvelope
  ensure (canonicalTimestamp core.finishedAt = true) .invalidEnvelope
  ensure (¬ core.finishedAt < core.startedAt) .invalidEnvelope
  if core.outcome = .succeeded then ensure (core.outputDigest.getD [] ≠ []) .invalidEnvelope
  else ensure (core.outputDigest = none) .invalidEnvelope
  ensure ((core.evidence.map ReceiptEvidenceV1.digest).Nodup ∧ ∀ evidence ∈ core.evidence,
    evidence.digest ≠ [] ∧ evidence.mediaType ≠ [] ∧ evidence.size ≤ maxSafeInteger)
    .invalidEnvelope
  assertJson core.provenance
  ensure (isObject core.provenance = true) .invalidEnvelope

def sealAttemptReceipt (core : AttemptReceiptCoreV1) :
    Except DomainError AttemptReceiptEnvelopeV1 := do
  validateAttemptReceiptCore core
  let ordered := core.evidence.insertionSort
    (fun left right => Engine.localeCompare left.digest right.digest ≤ 0)
  let normalized := { core with evidence := ordered }
  let receiptDigest ← domainDigest (js "horseness.attempt-receipt.v1") normalized.toJson
  return ⟨normalized, digestId (js "rcp_") receiptDigest, receiptDigest⟩

def verifyAttemptReceipt (receipt : AttemptReceiptEnvelopeV1) : Except DomainError Unit := do
  receiptText receipt.receiptId
  receiptText receipt.receiptDigest
  validateAttemptReceiptCore receipt.toAttemptReceiptCoreV1
  let expected ← sealAttemptReceipt receipt.toAttemptReceiptCoreV1
  ensure (expected.receiptDigest = receipt.receiptDigest ∧ expected.receiptId = receipt.receiptId)
    .receiptMismatch

end Seal

section Provenance

structure TaskExecutionReceiptProvenanceV1 where
  profileDigest : JsString
  observedHostId : Option JsString
  observedHostVersion : Option JsString
  observedProviderId : Option JsString
  observedModelId : Option JsString
  nativeSessionId : Option JsString
  exitCode : Option Int
  deriving DecidableEq

def closed (value : JsValue) (keys : List JsString) (code : DomainError) :
    Except DomainError (JsString → Option JsValue) :=
  match value with
  | .obj .object fields => do
      ensure ((distinct fields).length = keys.length ∧
        ∀ key ∈ keys, (findEntry key fields).isSome = true) code
      return fun name => findEntry name fields
  | _ => .error code

/-- A string that `trim` does not empty. -/
def textField : Option JsValue → Except DomainError JsString
  | some (.str value) => do
      ensure (blank value = false) .executionInvalid
      return value
  | _ => .error .executionInvalid

def nullableTextField : Option JsValue → Except DomainError (Option JsString)
  | some .null => .ok none
  | value => do
      let found ← textField value
      return some found

def nullableSafeInteger : Option JsValue → Except DomainError (Option Int)
  | some .null => .ok none
  | some (.num .negativeZero) => .ok (some 0)
  | some (.num (.finite value)) => do
      ensure (value.den = 1 ∧ value.num.natAbs ≤ maxSafeInteger) .executionInvalid
      return some value.num
  | _ => .error .executionInvalid

def provenanceKeys : List JsString :=
  [js "profileDigest", js "observedHostId", js "observedHostVersion", js "observedProviderId",
    js "observedModelId", js "nativeSessionId", js "exitCode"]

def parseTaskExecutionReceiptProvenanceV1 (value : JsValue) :
    Except DomainError TaskExecutionReceiptProvenanceV1 := do
  let field ← closed value provenanceKeys .executionInvalid
  let profileDigest ← textField (field (js "profileDigest"))
  let observedHostId ← nullableTextField (field (js "observedHostId"))
  let observedHostVersion ← nullableTextField (field (js "observedHostVersion"))
  let observedProviderId ← nullableTextField (field (js "observedProviderId"))
  let observedModelId ← nullableTextField (field (js "observedModelId"))
  let nativeSessionId ← nullableTextField (field (js "nativeSessionId"))
  let exitCode ← nullableSafeInteger (field (js "exitCode"))
  return ⟨profileDigest, observedHostId, observedHostVersion, observedProviderId, observedModelId,
    nativeSessionId, exitCode⟩

end Provenance

end Horseness.AttemptReceipts
