import Horseness.Cursors
import Horseness.Delta

/-!
Policy documents: rules about actions, paths and versions, sealed by the digest of their
core. A slot holds a document or the fixed absence of a policy. Lists that stand for sets
are in the order of their UTF-8 bytes, without repetition.
-/

namespace Horseness.PolicyDocuments

open FallibleRuns ScriptText JsonValues JsonText ScriptEngine Canonical Cursors Delta

section Order

/-- `compareUtf8(left, right) < 0`. -/
def utf8Before (left right : JsString) : Prop := utf8 left < utf8 right

instance (left right : JsString) : Decidable (utf8Before left right) :=
  inferInstanceAs (Decidable (utf8 left < utf8 right))

def increasing (items : List JsString) : Prop := items.IsChain utf8Before

instance (items : List JsString) : Decidable (increasing items) :=
  inferInstanceAs (Decidable (items.IsChain utf8Before))

theorem increasing_pairwise {items : List JsString} (ordered : increasing items) :
    items.Pairwise utf8Before :=
  @List.IsChain.pairwise _ utf8Before items ⟨List.lt_trans⟩
    ordered

theorem increasing_nodup {items : List JsString} (ordered : increasing items) : items.Nodup := by
  refine (increasing_pairwise ordered).imp ?_
  rintro left right before rfl
  exact List.lt_irrefl (utf8 left) before

end Order

section Documents

inductive PolicyEffectV1 where
  | accepted
  | rejected
  | quarantined
  | approvalRequired
  deriving DecidableEq

def PolicyEffectV1.text : PolicyEffectV1 → JsString
  | .accepted => js "accepted"
  | .rejected => js "rejected"
  | .quarantined => js "quarantined"
  | .approvalRequired => js "approval_required"

structure PolicySubjectV1 where
  action : Option JsString
  pathPrefix : Option JsString
  version : Option JsString
  deriving DecidableEq

structure EvidenceRequirementV1 where
  evidenceId : JsString
  digest : JsString
  path : JsString
  version : JsString
  deriving DecidableEq

structure PolicyRuleV1 where
  ruleId : JsString
  subject : PolicySubjectV1
  effect : PolicyEffectV1
  constraints : List JsString
  evidence : List EvidenceRequirementV1
  deriving DecidableEq

structure PolicyDocumentCoreV1 where
  policyId : JsString
  revision : Nat
  predecessorDigest : Option JsString
  rules : List PolicyRuleV1
  deriving DecidableEq

structure PolicyDocumentV1 where
  core : PolicyDocumentCoreV1
  policyDigest : JsString
  deriving DecidableEq

inductive PolicySlotV1 where
  | document (document : PolicyDocumentV1)
  | noPolicy
  deriving DecidableEq

def PolicySubjectV1.toJson (subject : PolicySubjectV1) : JsValue :=
  object [("action", nullable .str subject.action),
    ("pathPrefix", nullable .str subject.pathPrefix), ("version", nullable .str subject.version)]

def EvidenceRequirementV1.toJson (requirement : EvidenceRequirementV1) : JsValue :=
  object [("evidenceId", .str requirement.evidenceId), ("digest", .str requirement.digest),
    ("path", .str requirement.path), ("version", .str requirement.version)]

def PolicyRuleV1.toJson (rule : PolicyRuleV1) : JsValue :=
  object [("ruleId", .str rule.ruleId), ("subject", rule.subject.toJson),
    ("effect", .str rule.effect.text), ("constraints", texts rule.constraints),
    ("evidence", .arr (rule.evidence.map EvidenceRequirementV1.toJson))]

def PolicyDocumentCoreV1.toJson (core : PolicyDocumentCoreV1) : JsValue :=
  object [("schemaVersion", .str (js "1")), ("kind", .str (js "policy")),
    ("policyId", .str core.policyId), ("revision", natural core.revision),
    ("predecessorDigest", nullable .str core.predecessorDigest),
    ("rules", .arr (core.rules.map PolicyRuleV1.toJson))]

def noPolicyJson : JsValue :=
  object [("schemaVersion", .str (js "1")), ("kind", .str (js "no-policy")), ("rules", .arr [])]

def PolicySlotV1.toJson : PolicySlotV1 → JsValue
  | .document policy => object [("core", policy.core.toJson),
      ("policyDigest", .str policy.policyDigest)]
  | .noPolicy => noPolicyJson

end Documents

section Checks

def nullableText (value : Option JsString) (code : DomainError) : Except DomainError Unit :=
  value.toList.forM (nonEmpty · code)

def sortedUnique (values : List JsString) (code : DomainError) : Except DomainError Unit :=
  ensure ((∀ value ∈ values, value ≠ []) ∧ increasing values) code

def pointerText (path : JsString) (code : DomainError) : Except DomainError Unit := do
  let _ ← (validatePointer path).mapError fun _ => code
  return ()

def canonicalPointer (value : JsString) (code : DomainError) : Except DomainError Unit := do
  pointerText value code
  let _ ← (canonicalScope ⟨js "policy", js "policy", js "policy", [value]⟩).mapError fun _ => code
  return ()

def validateSubject (subject : PolicySubjectV1) : Except DomainError Unit := do
  nullableText subject.action .policySubjectInvalid
  nullableText subject.version .policySubjectInvalid
  subject.pathPrefix.toList.forM (canonicalPointer · .policySubjectInvalid)

def validateEvidence (requirement : EvidenceRequirementV1) : Except DomainError Unit := do
  nonEmpty requirement.evidenceId .policyEvidenceInvalid
  nonEmpty requirement.digest .policyEvidenceInvalid
  canonicalPointer requirement.path .policyEvidenceInvalid
  nonEmpty requirement.version .policyEvidenceInvalid

def orderedIds (ids : List JsString) (code : DomainError) : Except DomainError Unit :=
  ensure (ids.Nodup ∧ increasing ids) code

def validateRule (rule : PolicyRuleV1) : Except DomainError Unit := do
  nonEmpty rule.ruleId .policyRuleInvalid
  validateSubject rule.subject
  sortedUnique rule.constraints .policyRuleInvalid
  rule.evidence.forM validateEvidence
  orderedIds (rule.evidence.map EvidenceRequirementV1.evidenceId) .policyRuleInvalid

def parsePolicyDocumentCoreV1 (core : PolicyDocumentCoreV1) : Except DomainError Unit := do
  nonEmpty core.policyId .policyDocumentInvalid
  naturalCheck core.revision .policyDocumentInvalid
  nullableText core.predecessorDigest .policyDocumentInvalid
  ensure (core.revision = 0 ↔ core.predecessorDigest = none) .policyLineageInvalid
  core.rules.forM validateRule
  orderedIds (core.rules.map PolicyRuleV1.ruleId) .policyRuleOrderInvalid

end Checks

section Seals

variable [Engine]

def noPolicyDigest : JsString :=
  Engine.sha256Hex (js "horseness.policy.v1" ++ 0 :: serialize noPolicyJson)

def policyDocumentDigest (core : PolicyDocumentCoreV1) : Except DomainError JsString := do
  parsePolicyDocumentCoreV1 core
  domainDigest (js "horseness.policy.v1") core.toJson

def parsePolicyDocumentV1 (document : PolicyDocumentV1) : Except DomainError Unit := do
  parsePolicyDocumentCoreV1 document.core
  nonEmpty document.policyDigest .policyDocumentInvalid
  let digest ← policyDocumentDigest document.core
  ensure (document.policyDigest = digest) .policyDigestMismatch

def parsePolicySlotV1 : PolicySlotV1 → Except DomainError Unit
  | .document document => parsePolicyDocumentV1 document
  | .noPolicy => .ok ()

def policySlotDigest : PolicySlotV1 → Except DomainError JsString
  | .document document => do
      parsePolicyDocumentV1 document
      return document.policyDigest
  | .noPolicy => .ok noPolicyDigest

theorem no_policy_digest : domainDigest (js "horseness.policy.v1") noPolicyJson = .ok noPolicyDigest :=
  (digest_ok_iff _ _ _).mpr ⟨by rfl, rfl⟩

theorem slot_digest_iff (slot : PolicySlotV1) :
    (∃ digest, policySlotDigest slot = .ok digest) ↔ parsePolicySlotV1 slot = .ok () := by
  cases slot with
  | noPolicy => simp [policySlotDigest, parsePolicySlotV1]
  | document document =>
      simp only [policySlotDigest, parsePolicySlotV1, bind_ok_iff, pure_ok_iff]
      constructor
      · rintro ⟨_, _, parsed, _⟩
        exact parsed
      · exact fun parsed => ⟨_, (), parsed, rfl⟩

theorem slot_digest_sealed {slot : PolicySlotV1} {digest : JsString}
    (digested : policySlotDigest slot = .ok digest) :
    (∃ document, slot = .document document ∧
      domainDigest (js "horseness.policy.v1") document.core.toJson = .ok digest) ∨
    (slot = .noPolicy ∧ domainDigest (js "horseness.policy.v1") noPolicyJson = .ok digest) := by
  cases slot with
  | noPolicy =>
      obtain rfl := Except.ok.inj digested
      exact Or.inr ⟨rfl, no_policy_digest⟩
  | document document =>
      simp only [policySlotDigest, parsePolicyDocumentV1, policyDocumentDigest, bind_ok_iff,
        ensure_ok_iff, pure_ok_iff] at digested
      obtain ⟨_, ⟨_, _, _, _, sealed, ⟨_, _, hashed⟩, same⟩, rfl⟩ := digested
      exact Or.inl ⟨document, rfl, by rw [same, hashed]⟩

end Seals

end Horseness.PolicyDocuments
