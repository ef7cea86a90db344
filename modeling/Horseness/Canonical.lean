import Horseness.FallibleRuns
import Horseness.ScriptEngine

/-!
Canonical JSON, domain-separated digests and digest identifiers. The text that is
hashed is a domain, a NUL and the canonical JSON of the value.
-/

namespace Horseness.Canonical

open FallibleRuns ScriptText JsonValues JsonText JsonRoundTrip ScriptEngine

/-- The codes of `DomainError`. `syntaxError` is the one error of `JSON.parse`. -/
inductive DomainError where
  | syntaxError
  | invalidUnicode
  | invalidJsonValue
  | executionInvalid
  | planInvalid
  | cursorInvalid
  | resultCursorIncompatible
  | contextVersionInvalid
  | contextCursorIncompatible
  | contextVersionMismatch
  | invalidEnvelope
  | invalidDependencySnapshot
  | forkPinAuthenticationFailed
  | invalidContextManifest
  | invalidContextSource
  | invalidContextBinding
  | contextBytesMismatch
  | executionProfileMismatch
  | receiptMismatch
  | receiptPreHandoff
  | receiptConflict
  | illegalTaskTransition
  | invalidAttemptGeneration
  | invalidAttemptState
  | invalidEventSequence
  | invalidProviderHandle
  | illegalDispatchTransition
  | unknownOutcome
  | abortPostHandoff
  | taskResolutionMismatch
  | invalidDependency
  | dependencyCycle
  | taskNotFound
  | taskNotDraft
  | taskNotReady
  | taskCancelled
  | planNotFound
  | planSourceChanged
  | planStale
  | planAlreadyAdopted
  | planOutcomeConflict
  | workflowAlreadyRunning
  | workflowGraphChanged
  | workflowStopped
  | workflowAuthorizationExpired
  | authorizationDenied
  | invalidPointer
  | eventChainEmpty
  | eventVersionUnsupported
  | eventIdentityInvalid
  | eventChainInvalid
  | eventEnvelopeInvalid
  | eventPayloadHashInvalid
  | eventEnvelopeHashInvalid
  | eventPayloadInvalid
  | unsupportedEventType
  | malformedEvent
  | invalidGenesis
  | eventSequenceInvalid
  | aggregateIdentityMismatch
  | staleBase
  | taskIdentityConflict
  | proposalIdentityConflict
  | proposalNotSubmitted
  | duplicateProposalTransition
  | illegalAdmissionTransition
  | receiptIdentityConflict
  | duplicateReceiptTransition
  | duplicateTaskTransition
  | admissionQuotaInconsistent
  | duplicateAdmissionTransition
  | admissionIdentityConflict
  | quotaIdentityConflict
  | policyAuthorityUnavailable
  | policyDenied
  | quotaAuthorityUnavailable
  | quotaDenied
  | executionWorkspaceBusy
  | executionAlreadyStarted
  | operationIdReused
  | modelRequired
  | executionPreflightFailed
  | planNotReady
  | artifactMismatch
  | proposalIdMismatch
  | unsupportedSchemaVersion
  | unsupportedCanonicalizer
  | unsupportedHash
  | testFailed
  | addParentChanged
  | addTargetExists
  | pathMissing
  | valueDigestMismatch
  | arrayIndexRange
  | rootAddForbidden
  | rootRemoveForbidden
  | duplicateWriteTarget
  | overlappingWriteTarget
  | scopeEscape
  | evidenceMismatch
  | finalDocumentUnchanged
  | policyInputInvalid
  | policyClockInvalid
  | policyCursorInvalid
  | policyApprovalInvalid
  | policySubjectInvalid
  | policyEvidenceInvalid
  | policyRuleInvalid
  | policyDocumentInvalid
  | policyLineageInvalid
  | policyRuleOrderInvalid
  | policyDigestMismatch
  | policyVersionUnsupported
  | policyKindUnsupported
  | authorityStateMissing
  | authorityStateSubstituted
  | forkPinMismatch
  | policySubstituted
  | authorityIdentifierMismatch
  | roleForbidden
  | capabilityScopeMismatch
  | crossWorkspaceDenied
  | grantStale
  | grantSubstituted
  | userPresenceRequired
  | recoveryQuorumRequired
  | stackExhausted
  deriving DecidableEq, Repr

def assertValidUnicode (text : JsString) : Except DomainError Unit :=
  ensure (validUnicode text = true) .invalidUnicode

mutual

/-- Accept what JSON can hold. Values here have no cycles, symbols or accessors. -/
def assertJson : JsValue → Except DomainError Unit
  | .null => .ok ()
  | .bool _ => .ok ()
  | .num (.finite _) => .ok ()
  | .num .negativeZero => .ok ()
  | .num .nan => .error .invalidJsonValue
  | .num (.infinite _) => .error .invalidJsonValue
  | .str text => assertValidUnicode text
  | .arr items => assertItems items
  | .obj .foreign _ => .error .invalidJsonValue
  | .obj .object fields => assertFields fields
  | .obj .null fields => assertFields fields
termination_by structural value => value

def assertItems : List JsValue → Except DomainError Unit
  | [] => .ok ()
  | item :: rest => do
      assertJson item
      assertItems rest
termination_by structural items => items

def assertFields : List (JsString × JsValue) → Except DomainError Unit
  | [] => .ok ()
  | (name, value) :: rest => do
      assertValidUnicode name
      assertJson value
      assertFields rest
termination_by structural fields => fields

end

section Digests

variable [Engine]

def canonicalJson (value : JsValue) : Except DomainError JsString := do
  assertJson value
  return serialize value

def domainDigest (domain : JsString) (value : JsValue) : Except DomainError JsString := do
  let text ← canonicalJson value
  return Engine.sha256Hex (domain ++ 0 :: text)

def jsonValueDigest (value : JsValue) : Except DomainError JsString :=
  domainDigest (js "horseness.json-value.v1") value

def deepClone (value : JsValue) : Except DomainError JsValue := do
  let text ← canonicalJson value
  required (parse text) .syntaxError

end Digests

section Identifiers

def base32Alphabet : JsString := js "abcdefghijklmnopqrstuvwxyz234567"

def base32Unit (accumulator : BitVec 32) : UInt16 :=
  base32Alphabet.getD (accumulator &&& 31#32).toNat 0

/-- The inner loop: emit a character for every five bits that are ready. -/
def drainBits (accumulator : BitVec 32) : Nat → JsString × Nat
  | bits + 5 =>
      let later := drainBits accumulator bits
      (base32Unit (accumulator >>> bits) :: later.1, later.2)
  | bits => ([], bits)

def base32Loop : List Nat → Nat → BitVec 32 → JsString
  | [], bits, accumulator =>
      if 0 < bits then [base32Unit (accumulator <<< (5 - bits))] else []
  | byte :: rest, bits, accumulator =>
      let shifted := (accumulator <<< 8) ||| BitVec.ofNat 32 byte
      let drained := drainBits shifted (bits + 8)
      drained.1 ++ base32Loop rest drained.2 shifted

def lowercaseBase32NoPadding (bytes : List Nat) : JsString := base32Loop bytes 0 0#32

def digestId (start digest : JsString) : JsString :=
  start ++ lowercaseBase32NoPadding (hexBytes digest)

end Identifiers

theorem assert_items_ok_iff (items : List JsValue) (done : Unit) :
    assertItems items = .ok done ↔ ∀ item ∈ items, assertJson item = .ok () := by
  induction items with
  | nil => simp [assertItems]
  | cons item rest ih =>
      rw [assertItems, check_ok_iff, List.forall_mem_cons, ← ih]

theorem assert_fields_ok_iff (fields : List (JsString × JsValue)) (done : Unit) :
    assertFields fields = .ok done ↔
      ∀ entry ∈ fields, validUnicode entry.1 = true ∧ assertJson entry.2 = .ok () := by
  induction fields with
  | nil => simp [assertFields]
  | cons entry rest ih =>
      simp only [assertFields, assertValidUnicode, check_ok_iff, ensure_ok_iff,
        List.forall_mem_cons, ← ih, and_assoc]

theorem assert_arr_ok_iff (items : List JsValue) (done : Unit) :
    assertJson (.arr items) = .ok done ↔ ∀ item ∈ items, assertJson item = .ok () := by
  rw [assertJson, assert_items_ok_iff]

theorem assert_obj_ok_iff (proto : JsProto) (fields : List (JsString × JsValue)) (done : Unit) :
    assertJson (.obj proto fields) = .ok done ↔ proto ≠ .foreign ∧
      ∀ entry ∈ fields, validUnicode entry.1 = true ∧ assertJson entry.2 = .ok () := by
  cases proto <;> simp [assertJson, assert_fields_ok_iff]

theorem assert_str_ok_iff (text : JsString) (done : Unit) :
    assertJson (.str text) = .ok done ↔ validUnicode text = true := by
  simp [assertJson, assertValidUnicode]

theorem assert_normalize (value : JsValue) :
    assertJson value = .ok () → assertJson (normalize value) = .ok () := by
  refine value_induction (fun value => assertJson value = .ok () →
    assertJson (normalize value) = .ok ()) id (fun _ => id) ?_ (fun _ => id) ?_ ?_ value
  · intro number
    cases number <;> simp [assertJson, JsonValues.normalize, JsNumber.normalize]
  · intro items ih valid
    rw [assert_arr_ok_iff] at valid
    rw [JsonValues.normalize, normalize_items, assert_arr_ok_iff, List.forall_mem_map]
    exact fun item member => ih item member (valid item member)
  · intro proto fields ih valid
    rw [assert_obj_ok_iff] at valid
    rw [JsonValues.normalize, assert_obj_ok_iff]
    refine ⟨by decide, fun entry member => ?_⟩
    rw [normalize_fields] at member
    obtain ⟨old, origin, rfl⟩ := List.mem_map.mp (sort_subset _ member)
    exact ⟨(valid.2 old origin).1, ih old origin (valid.2 old origin).2⟩

section Laws

variable [Engine]

theorem canonical_ok_iff (value : JsValue) (text : JsString) :
    canonicalJson value = .ok text ↔ assertJson value = .ok () ∧ serialize value = text := by
  rw [canonicalJson, check_ok_iff, pure_ok_iff]

theorem canonical_eq_iff {left right : JsValue} {text other : JsString}
    (first : canonicalJson left = .ok text) (second : canonicalJson right = .ok other) :
    text = other ↔ meaning left = meaning right := by
  rw [← ((canonical_ok_iff left text).mp first).2, ← ((canonical_ok_iff right other).mp second).2,
    serialize_eq_iff]

theorem digest_ok_iff (domain : JsString) (value : JsValue) (digest : JsString) :
    domainDigest domain value = .ok digest ↔ assertJson value = .ok () ∧
      Engine.sha256Hex (domain ++ 0 :: serialize value) = digest := by
  simp only [domainDigest, bind_ok_iff, canonical_ok_iff, pure_ok_iff]
  constructor
  · rintro ⟨_, ⟨valid, rfl⟩, same⟩
    exact ⟨valid, same⟩
  · rintro ⟨valid, same⟩
    exact ⟨_, ⟨valid, rfl⟩, same⟩

theorem clone_ok_iff (value copy : JsValue) :
    deepClone value = .ok copy ↔ assertJson value = .ok () ∧ copy = normalize value := by
  simp only [deepClone, bind_ok_iff, canonical_ok_iff, required_ok_iff]
  constructor
  · rintro ⟨text, ⟨valid, rfl⟩, read⟩
    rw [parse_serialize] at read
    exact ⟨valid, (Option.some.inj read).symm⟩
  · rintro ⟨valid, rfl⟩
    exact ⟨_, ⟨valid, rfl⟩, parse_serialize value⟩

theorem digest_clone (domain : JsString) {value copy : JsValue}
    (cloned : deepClone value = .ok copy) : domainDigest domain copy = domainDigest domain value := by
  obtain ⟨valid, rfl⟩ := (clone_ok_iff value copy).mp cloned
  have normal := assert_normalize value valid
  rw [(digest_ok_iff domain (normalize value) _).mpr ⟨normal, rfl⟩,
    (digest_ok_iff domain value _).mpr ⟨valid, rfl⟩, serialize_normalize]

end Laws

end Horseness.Canonical
