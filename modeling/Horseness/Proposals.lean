import Horseness.ForkContext
import Horseness.Delta

/-!
Sealed proposals: the operations on a document with everything that they were derived from.
A seal orders what stands for sets and is the digest of the core; verifying one seals again.
-/

namespace Horseness.Proposals

open FallibleRuns Records ScriptText JsonValues ScriptEngine Canonical Cursors ForkContext Delta

structure EvidenceClaim where
  digest : JsString
  claim : JsString
  deriving DecidableEq

structure ProposalEnvelopeCoreV1 where
  workspaceId : JsString
  runId : JsString
  authorPrincipalId : JsString
  authorGrantDigest : JsString
  attemptId : JsString
  receiptDigests : List JsString
  forkPinDigest : JsString
  deltaAuthorityScopeDigest : JsString
  baseRevision : Nat
  baseStateHash : JsString
  proposalSealingObservationCursor : CompositeCursorV1
  proposalSealingContextVersion : ContextVersionV1
  operations : List JsValue
  evidenceClaims : List EvidenceClaim
  pinnedPolicyDigest : JsString
  currentPolicyDigest : JsString
  nonce : JsString
  predecessorProposalDigest : Option JsString
  predecessorReason : Option JsString

structure ProposalEnvelopeV1 where
  core : ProposalEnvelopeCoreV1
  proposalDigest : JsString
  proposalId : JsString

def EvidenceClaim.toJson (item : EvidenceClaim) : JsValue :=
  object [("digest", .str item.digest), ("claim", .str item.claim)]

def ProposalEnvelopeCoreV1.toJson (core : ProposalEnvelopeCoreV1) : JsValue :=
  object [("schemaVersion", .str (js "1")), ("workspaceId", .str core.workspaceId),
    ("runId", .str core.runId), ("authorPrincipalId", .str core.authorPrincipalId),
    ("authorGrantDigest", .str core.authorGrantDigest), ("attemptId", .str core.attemptId),
    ("receiptDigests", texts core.receiptDigests), ("forkPinDigest", .str core.forkPinDigest),
    ("deltaAuthorityScopeDigest", .str core.deltaAuthorityScopeDigest),
    ("baseRevision", natural core.baseRevision), ("baseStateHash", .str core.baseStateHash),
    ("canonicalizerVersion", .str (js "jcs-v1")), ("hashVersion", .str (js "sha256-v1")),
    ("proposalSealingObservationCursor", core.proposalSealingObservationCursor.toJson),
    ("proposalSealingContextVersion", core.proposalSealingContextVersion.toJson),
    ("operations", .arr core.operations),
    ("evidenceClaims", .arr (core.evidenceClaims.map EvidenceClaim.toJson)),
    ("pinnedPolicyDigest", .str core.pinnedPolicyDigest),
    ("currentPolicyDigest", .str core.currentPolicyDigest), ("nonce", .str core.nonce),
    ("predecessorProposalDigest", nullable .str core.predecessorProposalDigest),
    ("predecessorReason", nullable .str core.predecessorReason)]

section Checks

def ProposalEnvelopeCoreV1.requiredTexts (core : ProposalEnvelopeCoreV1) : List JsString :=
  [core.workspaceId, core.runId, core.authorPrincipalId, core.authorGrantDigest, core.attemptId,
    core.forkPinDigest, core.deltaAuthorityScopeDigest, core.baseStateHash,
    core.pinnedPolicyDigest, core.currentPolicyDigest, core.nonce]

def envelopeText (value : JsString) : Except DomainError Unit := nonEmpty value .invalidEnvelope

/-- The tag and the path of an operation that has its own fields and no others. -/
def proposalOperation (operation : JsValue) : Except DomainError (OperationTag × JsString) := do
  match operation with
  | .obj .object fields => do
      let tag ← required ((textField (js "op") fields).bind operationTag) .invalidEnvelope
      ensure ((sortFields fields).map Prod.fst = requiredKeys tag) .invalidEnvelope
      let path ← required (textField (js "path") fields) .invalidEnvelope
      envelopeText path
      let _ ← validatePointer path
      let digest ← required (textField (digestKey tag) fields) .invalidEnvelope
      envelopeText digest
      if tag = .add ∨ tag = .replace then do
        let value ← required (findEntry (js "value") fields) .invalidEnvelope
        assertJson value
      return (tag, path)
  | _ => .error .invalidEnvelope

def operationPath (operation : JsValue) : JsString :=
  match operation with
  | .obj _ fields => (textField (js "path") fields).getD []
  | _ => []

variable [Engine]

def validateCompositeCursor (cursor : CompositeCursorV1) : Except DomainError Unit :=
  (parseObservationCursorV1 (.composite cursor)).mapError fun _ => .invalidEnvelope

def validateProposalCore (core : ProposalEnvelopeCoreV1) : Except DomainError Unit := do
  core.requiredTexts.forM envelopeText
  naturalCheck core.baseRevision .invalidEnvelope
  ensure ((∀ digest ∈ core.receiptDigests, digest ≠ []) ∧ core.receiptDigests.Nodup)
    .invalidEnvelope
  (parseContextVersionV1 core.proposalSealingContextVersion).mapError fun _ => .invalidEnvelope
  ensure (core.proposalSealingContextVersion.isComposite = true) .invalidEnvelope
  validateCompositeCursor core.proposalSealingObservationCursor
  ensure (core.proposalSealingObservationCursor.workspaceId = core.workspaceId ∧
    core.proposalSealingObservationCursor.runId = core.runId) .invalidEnvelope
  -- Equal cursors have equal epochs, and the context's epochs are its cursor's.
  sameCanonicalJson core.proposalSealingContextVersion.observationCursor.toJson
    core.proposalSealingObservationCursor.toJson .invalidEnvelope
  core.operations.forM fun operation => do
    let _ ← proposalOperation operation
    return ()
  ensure ((∀ item ∈ core.evidenceClaims, item.digest ≠ [] ∧ item.claim ≠ []) ∧
    (core.evidenceClaims.map EvidenceClaim.digest).Nodup ∧
    (core.evidenceClaims.map EvidenceClaim.claim).Nodup) .invalidEnvelope
  core.predecessorProposalDigest.toList.forM envelopeText
  core.predecessorReason.toList.forM envelopeText
  ensure (core.predecessorProposalDigest = none ↔ core.predecessorReason = none) .invalidEnvelope

/-- By digest, then by claim, both as `localeCompare` orders them. -/
def claimBefore (left right : EvidenceClaim) : Prop :=
  let byDigest := Engine.localeCompare left.digest right.digest
  (if byDigest = 0 then Engine.localeCompare left.claim right.claim else byDigest) ≤ 0

instance (left right : EvidenceClaim) : Decidable (claimBefore left right) :=
  inferInstanceAs (Decidable ((if Engine.localeCompare left.digest right.digest = 0
    then Engine.localeCompare left.claim right.claim
    else Engine.localeCompare left.digest right.digest) ≤ 0))

def sealProposal (core : ProposalEnvelopeCoreV1) : Except DomainError ProposalEnvelopeV1 := do
  validateProposalCore core
  let normalized := { core with
    receiptDigests := core.receiptDigests.insertionSort (· ≤ ·)
    evidenceClaims := core.evidenceClaims.insertionSort claimBefore }
  let proposalDigest ← domainDigest (js "horseness.proposal.v1") normalized.toJson
  return ⟨normalized, proposalDigest, digestId (js "prp_") proposalDigest⟩

def verifyProposal (envelope : ProposalEnvelopeV1) : Except DomainError Unit := do
  envelopeText envelope.proposalDigest
  envelopeText envelope.proposalId
  validateProposalCore envelope.core
  let expected ← sealProposal envelope.core
  ensure (expected.proposalDigest = envelope.proposalDigest ∧
    expected.proposalId = envelope.proposalId) .proposalIdMismatch

end Checks

section Facts

variable [Engine] {envelope : ProposalEnvelopeV1}

/-- What a verified proposal is known by. -/
structure Verified (envelope : ProposalEnvelopeV1) : Prop where
  core : validateProposalCore envelope.core = .ok ()
  digest : ∃ normalized : ProposalEnvelopeCoreV1,
    domainDigest (js "horseness.proposal.v1") normalized.toJson = .ok envelope.proposalDigest ∧
      normalized.workspaceId = envelope.core.workspaceId ∧ normalized.runId = envelope.core.runId
  identity : envelope.proposalId = digestId (js "prp_") envelope.proposalDigest
  named : envelope.proposalDigest ≠ []

theorem verified_proposal (verified : verifyProposal envelope = .ok ()) : Verified envelope := by
  simp only [verifyProposal, sealProposal, envelopeText, nonEmpty, bind_ok_iff, ensure_ok_iff,
    pure_ok_iff] at verified
  obtain ⟨_, named, _, _, _, valid, _, ⟨_, _, digest, digested, rfl⟩, same, identity⟩ := verified
  have same : digest = envelope.proposalDigest := same
  subst same
  exact ⟨valid, ⟨_, digested, rfl, rfl⟩, identity.symm, named⟩

theorem core_texts {core : ProposalEnvelopeCoreV1} (valid : validateProposalCore core = .ok ()) :
    ∀ text ∈ core.requiredTexts, text ≠ [] := by
  simp only [validateProposalCore, bind_ok_iff] at valid
  obtain ⟨_, filled, _⟩ := valid
  rw [List.forM_eq_forM, forM_ok_iff] at filled
  exact fun text member => (ensure_ok_iff _ _ _).mp (filled text member)

theorem core_revision {core : ProposalEnvelopeCoreV1} {code : DomainError}
    (valid : validateProposalCore core = .ok ()) : naturalCheck core.baseRevision code = .ok () := by
  simp only [validateProposalCore, naturalCheck, bind_ok_iff, ensure_ok_iff] at valid
  obtain ⟨_, _, _, small, _⟩ := valid
  exact (ensure_ok_iff _ _ _).mpr small

theorem core_cursor {core : ProposalEnvelopeCoreV1} (valid : validateProposalCore core = .ok ()) :
    parseObservationCursorV1 (.composite core.proposalSealingObservationCursor) = .ok () := by
  simp only [validateProposalCore, validateCompositeCursor, bind_ok_iff, map_error_ok_iff] at valid
  obtain ⟨_, _, _, _, _, _, _, _, _, _, _, parsed, _⟩ := valid
  exact parsed

-- Every operation of a valid core has a valid pointer as its path.
theorem core_pointer {core : ProposalEnvelopeCoreV1} (valid : validateProposalCore core = .ok ())
    {operation : JsValue} (member : operation ∈ core.operations) :
    ∃ tokens, validatePointer (operationPath operation) = .ok tokens := by
  simp only [validateProposalCore, bind_ok_iff] at valid
  obtain ⟨_, _, _, _, _, _, _, _, _, _, _, _, _, _, _, _, _, checked, _⟩ := valid
  rw [List.forM_eq_forM, forM_ok_iff] at checked
  have accepted := checked operation member
  simp only [bind_ok_iff, pure_ok_iff] at accepted
  obtain ⟨_, read, _⟩ := accepted
  cases operation with
  | obj proto fields =>
      cases proto with
      | object =>
          simp only [proposalOperation, bind_ok_iff, required_ok_iff] at read
          obtain ⟨_, _, _, _, path, found, _, _, tokens, pointer, _⟩ := read
          exact ⟨tokens, by rw [operationPath, found]; exact pointer⟩
      | _ => cases read
  | _ => cases read

end Facts

end Horseness.Proposals
