import Horseness.EventPayloads

/-!
Sealed event envelopes and the verification of a stream: one stream's identity, numbers
without gaps, each envelope naming the hash of the one before it.
-/

namespace Horseness.EventChains

open FallibleRuns ScriptText JsonValues ScriptEngine Canonical Cursors EventPayloads

inductive StreamKind where
  | workspace
  | run
  deriving DecidableEq

def StreamKind.text : StreamKind → JsString
  | .workspace => js "workspace"
  | .run => js "run"

structure EventEnvelopeV1 where
  streamKind : StreamKind
  workspaceId : JsString
  streamId : JsString
  sequence : Nat
  eventId : JsString
  eventType : JsString
  principalId : JsString
  causationId : JsString
  correlationId : JsString
  idempotencyKey : JsString
  priorEnvelopeHash : Option JsString
  payloadHash : JsString
  payload : DomainEventPayloadV1

def EventEnvelopeV1.toJson (envelope : EventEnvelopeV1) : JsValue :=
  object [("schemaVersion", .str (js "1")), ("streamKind", .str envelope.streamKind.text),
    ("workspaceId", .str envelope.workspaceId), ("streamId", .str envelope.streamId),
    ("sequence", natural envelope.sequence), ("eventId", .str envelope.eventId),
    ("eventType", .str envelope.eventType), ("principalId", .str envelope.principalId),
    ("causationId", .str envelope.causationId), ("correlationId", .str envelope.correlationId),
    ("idempotencyKey", .str envelope.idempotencyKey),
    ("priorEnvelopeHash", nullable .str envelope.priorEnvelopeHash),
    ("payloadHash", .str envelope.payloadHash), ("payload", envelope.payload.toJson)]

structure HashedEventEnvelopeV1 where
  envelope : EventEnvelopeV1
  envelopeHash : JsString

variable [Engine]

def sealEventEnvelope (envelope : EventEnvelopeV1) : Except DomainError HashedEventEnvelopeV1 := do
  let payloadHash ← domainDigest (js "horseness.event-payload.v1") envelope.payload.toJson
  let full := { envelope with payloadHash := payloadHash }
  let envelopeHash ← domainDigest (js "horseness.event-envelope.v1") full.toJson
  return ⟨full, envelopeHash⟩

/-- How far a chain is verified: the number of its events and the last envelope's hash. -/
structure ChainPosition where
  count : Nat
  prior : Option JsString

def envelopeTexts (envelope : EventEnvelopeV1) : List JsString :=
  [envelope.eventId, envelope.eventType, envelope.principalId, envelope.causationId,
    envelope.correlationId, envelope.idempotencyKey]

/-- Only an unsupported type is told apart; every other refusal is a malformed event. -/
def payloadRefusal (error : DomainError) : DomainError :=
  if error = .unsupportedEventType then error else .malformedEvent

/-- One round of the loop, with the identity of the first envelope. -/
def verifyEvent (first : EventEnvelopeV1) (position : ChainPosition) (item : HashedEventEnvelopeV1) :
    Except DomainError ChainPosition := do
  let envelope := item.envelope
  ensure (envelope.streamKind = first.streamKind ∧ envelope.workspaceId = first.workspaceId ∧
    envelope.streamId = first.streamId) .eventIdentityInvalid
  ensure (envelope.sequence ≤ maxSafeInteger ∧ envelope.sequence = position.count + 1 ∧
    envelope.priorEnvelopeHash = position.prior) .eventChainInvalid
  (envelopeTexts envelope).forM (nonEmpty · .eventEnvelopeInvalid)
  let payloadHash ← domainDigest (js "horseness.event-payload.v1") envelope.payload.toJson
  ensure (payloadHash = envelope.payloadHash) .eventPayloadHashInvalid
  let envelopeHash ← domainDigest (js "horseness.event-envelope.v1") envelope.toJson
  ensure (envelopeHash = item.envelopeHash) .eventEnvelopeHashInvalid
  (parseDomainEventPayloadV1 envelope.payload).mapError payloadRefusal
  ensure (envelope.payload.eventType = envelope.eventType) .eventPayloadInvalid
  return ⟨position.count + 1, some item.envelopeHash⟩

def genesisType : StreamKind → JsString
  | .workspace => js "WorkspaceCreatedV1"
  | .run => js "RunCreatedV1"

def verifyEventChain (events : List HashedEventEnvelopeV1) : Except DomainError Unit := do
  let head ← required events.head? .eventChainEmpty
  let first := head.envelope
  ensure (first.streamKind = .workspace → first.streamId = first.workspaceId)
    .eventIdentityInvalid
  let _ ← events.foldlM (verifyEvent first) ⟨0, none⟩
  ensure (first.eventType = genesisType first.streamKind ∧ first.priorEnvelopeHash = none ∧
    first.sequence = 1) .invalidGenesis

end Horseness.EventChains
