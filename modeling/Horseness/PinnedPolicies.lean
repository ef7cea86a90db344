import Mathlib.Data.Rat.Defs
import Horseness.DispatchAuthority
import Horseness.PolicyEvaluation
import Horseness.ServiceRequests

/-!
The policy of an attempt, from its rendering to its launch. Preparation writes it as a chunk of the
context, in normal form, and pins the digest it has; a launch reads it back from the bytes of that
chunk and compares digests.
-/

namespace Horseness.PinnedPolicies

open FallibleRuns Records ScriptText JsonValues JsonText JsonRoundTrip ScriptEngine Canonical
  Cursors DispatchAuthority IdealDigests Utf8Text NormalForms WellFormedText PolicyDocuments
  PolicyEvaluation ForkContext TaskPlans ExecutionEvents ExecutionStore ServiceViews ServiceCommands

section Reading

def record (value : JsValue) (keys : List String) (code : DomainError) :
    Except DomainError (String → Option JsValue) :=
  match value with
  | .obj .object fields => do
      ensure (exactKeys keys fields) code
      return fun name => findEntry (js name) fields
  | _ => .error code

def text (value : Option JsValue) (code : DomainError) : Except DomainError JsString :=
  match value with
  | some (.str found) => do
      nonEmpty found code
      return found
  | _ => .error code

def nullableText (value : Option JsValue) (code : DomainError) :
    Except DomainError (Option JsString) :=
  match value with
  | some .null => .ok none
  | _ => do
      let found ← text value code
      return some found

def natural (value : Option JsValue) (code : DomainError) : Except DomainError Nat :=
  match value with
  | some (.num .negativeZero) => .ok 0
  | some (.num (.finite number)) => do
      ensure (number.den = 1 ∧ 0 ≤ number.num) code
      naturalCheck number.num.toNat code
      return number.num.toNat
  | _ => .error code

def items {Item : Type} (value : Option JsValue) (item : JsValue → Except DomainError Item)
    (code : DomainError) : Except DomainError (List Item) :=
  match value with
  | some (.arr values) => values.mapM item
  | _ => .error code

def sortedUnique (value : Option JsValue) (code : DomainError) : Except DomainError (List JsString) := do
  let values ← items value (fun item => text (some item) code) code
  PolicyDocuments.sortedUnique values code
  return values

def canonicalPointer (value : Option JsValue) (code : DomainError) : Except DomainError JsString :=
  match value with
  | some (.str path) => do
      PolicyDocuments.canonicalPointer path code
      return path
  | _ => .error code

def validateSubject (value : JsValue) : Except DomainError PolicySubjectV1 := do
  let item ← record value ["action", "pathPrefix", "version"] .policySubjectInvalid
  let action ← nullableText (item "action") .policySubjectInvalid
  let version ← nullableText (item "version") .policySubjectInvalid
  match item "pathPrefix" with
  | some .null => return ⟨action, none, version⟩
  | found => do
      let path ← canonicalPointer found .policySubjectInvalid
      return ⟨action, some path, version⟩

def validateEvidence (value : JsValue) : Except DomainError EvidenceRequirementV1 := do
  let item ← record value evidenceKeys .policyEvidenceInvalid
  let evidenceId ← text (item "evidenceId") .policyEvidenceInvalid
  let digest ← text (item "digest") .policyEvidenceInvalid
  let path ← canonicalPointer (item "path") .policyEvidenceInvalid
  let version ← text (item "version") .policyEvidenceInvalid
  return ⟨evidenceId, digest, path, version⟩

def effects : List PolicyEffectV1 := [.accepted, .rejected, .quarantined, .approvalRequired]

def effectOf (value : Option JsValue) : Option PolicyEffectV1 :=
  match value with
  | some (.str name) => effects.find? fun effect => effect.text = name
  | _ => none

def validateRule (value : JsValue) : Except DomainError PolicyRuleV1 := do
  let item ← record value ["ruleId", "subject", "effect", "constraints", "evidence"]
    .policyRuleInvalid
  let ruleId ← text (item "ruleId") .policyRuleInvalid
  let subject ← validateSubject ((item "subject").getD .null)
  let effect ← required (effectOf (item "effect")) .policyRuleInvalid
  let constraints ← sortedUnique (item "constraints") .policyRuleInvalid
  let evidence ← items (item "evidence") validateEvidence .policyRuleInvalid
  orderedIds (evidence.map EvidenceRequirementV1.evidenceId) .policyRuleInvalid
  return ⟨ruleId, subject, effect, constraints, evidence⟩

def parsePolicyDocumentCore (value : JsValue) : Except DomainError PolicyDocumentCoreV1 := do
  let core ← record value
    ["schemaVersion", "kind", "policyId", "revision", "predecessorDigest", "rules"]
    .policyDocumentInvalid
  ensure (textOf (core "schemaVersion") = some (js "1")) .policyVersionUnsupported
  ensure (textOf (core "kind") = some (js "policy")) .policyKindUnsupported
  let policyId ← text (core "policyId") .policyDocumentInvalid
  let revision ← natural (core "revision") .policyDocumentInvalid
  let predecessorDigest ← nullableText (core "predecessorDigest") .policyDocumentInvalid
  ensure (revision = 0 ↔ predecessorDigest = none) .policyLineageInvalid
  let rules ← items (core "rules") validateRule .policyDocumentInvalid
  orderedIds (rules.map PolicyRuleV1.ruleId) .policyRuleOrderInvalid
  return ⟨policyId, revision, predecessorDigest, rules⟩

def emptyList : Option JsValue → Bool
  | some (.arr []) => true
  | _ => false

def parseNoPolicy (value : JsValue) : Except DomainError Unit := do
  let item ← record value ["schemaVersion", "kind", "rules"] .policyDocumentInvalid
  ensure (textOf (item "schemaVersion") = some (js "1")) .policyVersionUnsupported
  ensure (textOf (item "kind") = some (js "no-policy") ∧ emptyList (item "rules") = true)
    .policyKindUnsupported

variable [Engine]

def parsePolicyDocument (value : JsValue) : Except DomainError PolicyDocumentV1 := do
  let document ← record value ["core", "policyDigest"] .policyDocumentInvalid
  let core ← parsePolicyDocumentCore ((document "core").getD .null)
  let policyDigest ← text (document "policyDigest") .policyDocumentInvalid
  let digest ← policyDocumentDigest core
  ensure (policyDigest = digest) .policyDigestMismatch
  return ⟨core, policyDigest⟩

/-- `parsePolicySlotV1` of a value of which nothing is known. -/
def parsePolicySlot (value : JsValue) : Except DomainError PolicySlotV1 :=
  if textOf (property "kind" value) = some (js "no-policy") then do
    parseNoPolicy value
    return .noPolicy
  else do
    let document ← parsePolicyDocument value
    return .document document

/-- What `runAttempt` reads from the bytes of a stored context, and refuses to launch without. -/
def readPinnedPolicy (original : List Nat) (prepared : TaskExecutionPreparedDataV1) :
    Except DomainError PolicySlotV1 := do
  let descriptor ← required
    (prepared.manifest.sources.find? fun source => source.kind = js "pinned-policy")
    .policyAuthorityUnavailable
  let bytes := (original.take descriptor.byteEnd).drop descriptor.byteStart
  let value ← required (parse (decodeUtf8 bytes)) .syntaxError
  let pinned ← parsePolicySlot value
  let digest ← policySlotDigest pinned
  ensure (digest = prepared.forkPin.core.pinnedPolicyDigest) .policyAuthorityUnavailable
  return pinned

end Reading

section Shapes

variable {fields : List (JsString × JsValue)} {keys : List String} {code : DomainError}

theorem record_ok {value : JsValue} {lookup : String → Option JsValue}
    (opened : record value keys code = .ok lookup) : ∃ fields, value = .obj .object fields ∧
      exactKeys keys fields ∧ lookup = fun name => findEntry (js name) fields := by
  unfold record at opened
  split at opened
  · next fields =>
      rw [check_ok_iff, ensure_ok_iff, pure_ok_iff] at opened
      exact ⟨fields, rfl, opened.1, opened.2.symm⟩
  · cases opened

def Spells (value : Option JsValue) (written : JsValue) : Prop :=
  ∃ found, value = some found ∧ meaning found = meaning written

theorem text_ok {value : Option JsValue} {found : JsString} (read : text value code = .ok found) :
    Spells value (.str found) := by
  unfold text at read
  split at read
  · rw [check_ok_iff, pure_ok_iff] at read
    exact ⟨_, rfl, by rw [read.2]⟩
  · cases read

theorem nullable_text_ok {value : Option JsValue} {found : Option JsString}
    (read : nullableText value code = .ok found) : Spells value (nullable .str found) := by
  unfold nullableText at read
  split at read
  · obtain rfl := Except.ok.inj read
    exact ⟨.null, rfl, rfl⟩
  · simp only [bind_ok_iff, pure_ok_iff] at read
    obtain ⟨_, inner, rfl⟩ := read
    exact text_ok inner

theorem natural_ok {value : Option JsValue} {found : Nat} (read : natural value code = .ok found) :
    Spells value (JsonValues.natural found) := by
  unfold natural at read
  split at read
  · obtain rfl := Except.ok.inj read
    exact ⟨_, rfl, rfl⟩
  · next number =>
      simp only [bind_ok_iff, ensure_ok_iff, pure_ok_iff] at read
      obtain ⟨_, ⟨whole, low⟩, _, _, rfl⟩ := read
      refine ⟨_, rfl, ?_⟩
      have numerator : ((number.num.toNat : Int) : Rat) = number := by
        rw [Int.toNat_of_nonneg low]
        exact (Rat.den_eq_one_iff number).mp whole
      have same : (number.num.toNat : Rat) = number := by exact_mod_cast numerator
      rw [JsonValues.natural, same]
  · cases read

theorem pointer_ok {value : Option JsValue} {found : JsString}
    (read : canonicalPointer value code = .ok found) : Spells value (.str found) := by
  unfold canonicalPointer at read
  split at read
  · rw [check_ok_iff, pure_ok_iff] at read
    exact ⟨_, rfl, by rw [read.2]⟩
  · cases read

theorem items_ok {Item : Type} {value : Option JsValue} {item : JsValue → Except DomainError Item}
    {write : Item → JsValue} {found : List Item} (read : items value item code = .ok found)
    (each : ∀ value result, item value = .ok result → meaning value = meaning (write result)) :
    Spells value (.arr (found.map write)) := by
  unfold items at read
  split at read
  · next values =>
      refine ⟨_, rfl, ?_⟩
      rw [mapM_ok_iff] at read
      have same : values.map meaning = (found.map write).map meaning := by
        induction read with
        | nil => rfl
        | cons first _ ih => simp only [List.map_cons, each _ _ first, ih]
      simp only [meaning, meaning_items, same]
  · cases read

theorem sorted_unique_ok {value : Option JsValue} {found : List JsString}
    (read : sortedUnique value code = .ok found) : Spells value (texts found) := by
  simp only [sortedUnique, bind_ok_iff, pure_ok_iff] at read
  obtain ⟨values, inner, _, _, rfl⟩ := read
  apply items_ok inner
  intro value result item
  obtain ⟨other, same, spelled⟩ := text_ok item
  rw [Option.some.inj same, spelled]

-- A record with the names of a literal denotes it, if each property does.
theorem record_meaning {literal : List (String × JsValue)} (exact : exactKeys keys fields)
    (named : literal.map Prod.fst = keys) (unique : (keys.map js).Nodup)
    (same : ∀ field ∈ literal, Spells (findEntry (js field.1) fields) field.2) :
    meaning (.obj .object fields) = meaning (object literal) := by
  subst named
  simp only [object, meaning, JsonTree.obj.injEq, meaning_fields]
  funext name
  have distinctNames : ((literal.map fun field => (js field.1, field.2)).map Prod.fst).Nodup := by
    simpa [List.map_map, Function.comp_def] using unique
  by_cases listed : ∃ field ∈ literal, js field.1 = name
  · obtain ⟨field, member, rfl⟩ := listed
    obtain ⟨found, here, spelled⟩ := same field member
    have there := member_find (js field.1) field.2 _ distinctNames
      (List.mem_map.mpr ⟨field, member, rfl⟩)
    rw [here, there, Option.map_some, Option.map_some, spelled]
  · have absentRight : findEntry name (literal.map fun field => (js field.1, field.2)) = none := by
      rw [Option.eq_none_iff_forall_ne_some]
      intro value found
      obtain ⟨field, member, shape⟩ := List.mem_map.mp (find_member name value _ found)
      exact listed ⟨field, member, (Prod.mk.inj shape).1⟩
    have absentLeft : findEntry name fields = none := by
      rw [Option.eq_none_iff_forall_ne_some]
      intro value found
      have sorted := find_member name value _ ((find_sort name fields).trans found)
      have named : name ∈ (sortFields fields).map Prod.fst := List.mem_map.mpr ⟨_, sorted, rfl⟩
      rw [show (sortFields fields).map Prod.fst = _ from exact, List.mem_insertionSort,
        List.mem_map] at named
      obtain ⟨key, member, rfl⟩ := named
      obtain ⟨field, listedField, rfl⟩ := List.mem_map.mp member
      exact listed ⟨field, listedField, rfl⟩
    rw [absentLeft, absentRight]

end Shapes

section Denotations

theorem subject_meaning {value : JsValue} {subject : PolicySubjectV1}
    (read : validateSubject value = .ok subject) : meaning value = meaning subject.toJson := by
  simp only [validateSubject, bind_ok_iff] at read
  obtain ⟨_, opened, action, first, version, second, read⟩ := read
  obtain ⟨fields, rfl, exact, rfl⟩ := record_ok opened
  have path : Spells (findEntry (js "pathPrefix") fields) (nullable .str subject.pathPrefix) ∧
      subject.action = action ∧ subject.version = version := by
    split at read
    · next absent =>
        obtain rfl := (pure_ok_iff _ _).mp read
        exact ⟨⟨_, absent, rfl⟩, rfl, rfl⟩
    · simp only [bind_ok_iff, pure_ok_iff] at read
      obtain ⟨_, pointed, rfl⟩ := read
      exact ⟨pointer_ok pointed, rfl, rfl⟩
  obtain ⟨third, rfl, rfl⟩ := path
  apply record_meaning exact rfl (by decide : (["action", "pathPrefix", "version"].map js).Nodup)
  simp only [List.mem_cons, List.not_mem_nil, or_false, forall_eq_or_imp, forall_eq]
  exact ⟨nullable_text_ok first, third, nullable_text_ok second⟩

theorem evidence_meaning (value : JsValue) (requirement : EvidenceRequirementV1)
    (read : validateEvidence value = .ok requirement) :
    meaning value = meaning requirement.toJson := by
  simp only [validateEvidence, bind_ok_iff, pure_ok_iff] at read
  obtain ⟨_, opened, evidenceId, first, digest, second, path, third, version, fourth, rfl⟩ := read
  obtain ⟨fields, rfl, exact, rfl⟩ := record_ok opened
  apply record_meaning exact rfl (by decide : (evidenceKeys.map js).Nodup)
  simp only [List.mem_cons, List.not_mem_nil, or_false, forall_eq_or_imp, forall_eq]
  exact ⟨text_ok first, text_ok second, pointer_ok third, text_ok fourth⟩

theorem effect_meaning {value : Option JsValue} {effect : PolicyEffectV1}
    (read : effectOf value = some effect) : Spells value (.str effect.text) := by
  unfold effectOf at read
  split at read
  · next name =>
      have same := List.find?_some read
      exact ⟨_, rfl, by rw [of_decide_eq_true same]⟩
  · cases read

theorem rule_meaning (value : JsValue) (rule : PolicyRuleV1)
    (read : validateRule value = .ok rule) : meaning value = meaning rule.toJson := by
  simp only [validateRule, bind_ok_iff, required_ok_iff, pure_ok_iff] at read
  obtain ⟨_, opened, ruleId, first, subject, second, effect, third, constraints, fourth, evidence,
    fifth, _, _, rfl⟩ := read
  obtain ⟨fields, rfl, exact, rfl⟩ := record_ok opened
  have given : Spells (findEntry (js "subject") fields) subject.toJson := by
    cases found : findEntry (js "subject") fields with
    | none =>
        simp only [found] at second
        cases second
    | some inner =>
        simp only [found] at second
        exact ⟨inner, rfl, subject_meaning second⟩
  apply record_meaning exact rfl (by decide : (["ruleId", "subject", "effect", "constraints", "evidence"].map js).Nodup)
  simp only [List.mem_cons, List.not_mem_nil, or_false, forall_eq_or_imp, forall_eq]
  exact ⟨text_ok first, given, effect_meaning third, sorted_unique_ok fourth,
    items_ok fifth evidence_meaning⟩

theorem literal_meaning {value : Option JsValue} {name : JsString} (read : textOf value = some name) :
    Spells value (.str name) := by
  unfold textOf at read
  split at read
  · obtain rfl := Option.some.inj read
    exact ⟨_, rfl, rfl⟩
  · cases read

theorem core_meaning {value : JsValue} {core : PolicyDocumentCoreV1}
    (read : parsePolicyDocumentCore value = .ok core) : meaning value = meaning core.toJson := by
  simp only [parsePolicyDocumentCore, bind_ok_iff, ensure_ok_iff, pure_ok_iff] at read
  obtain ⟨_, opened, _, schema, _, kind, policyId, first, revision, second, predecessor, third, _, _,
    rules, fourth, _, _, rfl⟩ := read
  obtain ⟨fields, rfl, exact, rfl⟩ := record_ok opened
  apply record_meaning exact rfl (by decide : (["schemaVersion", "kind", "policyId", "revision", "predecessorDigest", "rules"].map js).Nodup)
  simp only [List.mem_cons, List.not_mem_nil, or_false, forall_eq_or_imp, forall_eq]
  exact ⟨literal_meaning schema, literal_meaning kind, text_ok first, natural_ok second,
    nullable_text_ok third, items_ok fourth rule_meaning⟩

theorem no_policy_meaning {value : JsValue} (read : parseNoPolicy value = .ok ()) :
    meaning value = meaning noPolicyJson := by
  simp only [parseNoPolicy, bind_ok_iff, ensure_ok_iff] at read
  obtain ⟨_, opened, _, schema, kind, empty⟩ := read
  obtain ⟨fields, rfl, exact, rfl⟩ := record_ok opened
  have rules : Spells (findEntry (js "rules") fields) (.arr []) := by
    unfold emptyList at empty
    split at empty
    · next found => exact ⟨_, found, rfl⟩
    · cases empty
  apply record_meaning exact rfl (by decide : (["schemaVersion", "kind", "rules"].map js).Nodup)
  simp only [List.mem_cons, List.not_mem_nil, or_false, forall_eq_or_imp, forall_eq]
  exact ⟨literal_meaning schema, literal_meaning kind, rules⟩

theorem slot_meaning [Engine] {value : JsValue} {slot : PolicySlotV1}
    (read : parsePolicySlot value = .ok slot) : meaning value = meaning slot.toJson := by
  unfold parsePolicySlot at read
  split at read
  · simp only [bind_ok_iff, pure_ok_iff] at read
    obtain ⟨_, parsed, rfl⟩ := read
    exact no_policy_meaning parsed
  · simp only [parsePolicyDocument, bind_ok_iff, ensure_ok_iff, pure_ok_iff] at read
    obtain ⟨_, ⟨_, opened, core, first, policyDigest, second, _, _, _, _, rfl⟩, rfl⟩ := read
    obtain ⟨fields, rfl, exact, rfl⟩ := record_ok opened
    have given : Spells (findEntry (js "core") fields) core.toJson := by
      cases found : findEntry (js "core") fields with
      | none =>
          simp only [found] at first
          cases first
      | some inner =>
          simp only [found] at first
          exact ⟨inner, rfl, core_meaning first⟩
    apply record_meaning exact rfl (by decide : (["core", "policyDigest"].map js).Nodup)
    simp only [List.mem_cons, List.not_mem_nil, or_false, forall_eq_or_imp, forall_eq]
    exact ⟨given, text_ok second⟩

end Denotations

section Written

variable {code : DomainError}

theorem exact_literal {literal : List (String × JsValue)}
    (unique : ((literal.map Prod.fst).map js).Nodup) :
    exactKeys (literal.map Prod.fst) (literal.map fun field => (js field.1, field.2)) := by
  have names : (literal.map fun field => (js field.1, field.2)).map Prod.fst =
      (literal.map Prod.fst).map js := by simp [Function.comp_def]
  have members : ∀ name, name ∈ (sortFields (literal.map fun field => (js field.1, field.2))).map
      Prod.fst ↔ name ∈ ((literal.map Prod.fst).map js).insertionSort (· ≤ ·) := by
    intro name
    rw [List.mem_insertionSort, ← names]
    constructor
    · intro member
      obtain ⟨entry, sorted, rfl⟩ := List.mem_map.mp member
      exact List.mem_map_of_mem (sort_subset _ sorted)
    · intro member
      obtain ⟨entry, given, rfl⟩ := List.mem_map.mp member
      have found := member_find entry.1 entry.2 _ (names ▸ unique) given
      exact List.mem_map.mpr ⟨entry, find_member _ _ _ ((find_sort entry.1 _).trans found), rfl⟩
  have order : ((sortFields (literal.map fun field => (js field.1, field.2))).map Prod.fst).Perm
      (((literal.map Prod.fst).map js).insertionSort (· ≤ ·)) := by
    apply (List.perm_ext_iff_of_nodup (sort_unique _) _).mpr members
    exact (List.perm_insertionSort _ _).nodup_iff.mpr unique
  refine order.eq_of_pairwise ?_ (List.pairwise_map.mpr (sort_ordered _)) ?_
  · rintro left right - - lower upper
    exact List.le_antisymm lower upper
  · exact @List.pairwise_insertionSort _ (fun left right : JsString => left ≤ right) _
      ⟨fun left right => List.le_total left right⟩
      ⟨fun _ _ _ first second => List.le_trans first second⟩ _

theorem record_written (literal : List (String × JsValue)) (code : DomainError)
    (unique : ((literal.map Prod.fst).map js).Nodup) : ∃ lookup,
    record (JsonValues.normalize (object literal)) (literal.map Prod.fst) code = .ok lookup ∧
      ∀ field ∈ literal, lookup field.1 = some (JsonValues.normalize field.2) := by
  have exact : exactKeys (literal.map Prod.fst)
      (sortFields (normalizeFields (literal.map fun field => (js field.1, field.2)))) := by
    have given := exact_literal unique
    unfold exactKeys at given ⊢
    rw [sort_sorted, normalize_fields, sort_map, List.map_map]
    exact given
  refine ⟨fun name => findEntry (js name)
    (sortFields (normalizeFields (literal.map fun field => (js field.1, field.2)))), ?_, ?_⟩
  · simp only [object, JsonValues.normalize, record]
    rw [(ensure_ok_iff _ code ()).mpr exact]
    rfl
  · intro field member
    have distinctNames : ((literal.map fun field => (js field.1, field.2)).map Prod.fst).Nodup := by
      simpa [List.map_map, Function.comp_def] using unique
    have found := member_find (js field.1) field.2 _ distinctNames
      (List.mem_map.mpr ⟨field, member, rfl⟩)
    simp only [find_normalized, found, Option.map_some]

theorem text_written {found : JsString} (filled : nonEmpty found code = .ok ()) :
    text (some (.str found)) code = .ok found := by
  simp only [text, filled]
  rfl

theorem nullable_written {found : Option JsString}
    (filled : PolicyDocuments.nullableText found code = .ok ()) :
    nullableText (some (JsonValues.normalize (nullable .str found))) code = .ok found := by
  cases found with
  | none => rfl
  | some name =>
      have given : nonEmpty name code = .ok () := by
        rw [PolicyDocuments.nullableText, List.forM_eq_forM, forM_ok_iff] at filled
        exact filled name (by simp)
      have read := text_written given
      rw [nullable, JsonValues.normalize, nullableText, read]
      · rfl
      · simp

theorem pointer_written {path : JsString}
    (pointed : PolicyDocuments.canonicalPointer path code = .ok ()) :
    canonicalPointer (some (.str path)) code = .ok path := by
  simp only [canonicalPointer, pointed]
  rfl

theorem items_written {Item : Type} {item : JsValue → Except DomainError Item}
    {write : Item → JsValue} {found : List Item}
    (each : ∀ entry ∈ found, item (JsonValues.normalize (write entry)) = .ok entry) :
    items (some (JsonValues.normalize (.arr (found.map write)))) item code = .ok found := by
  rw [JsonValues.normalize, normalize_items, items, List.map_map]
  induction found with
  | nil => rfl
  | cons entry rest ih =>
      rw [List.map_cons, List.mapM_cons, ih fun other member => each other (List.mem_cons_of_mem _ member)]
      rw [Function.comp_apply, each entry List.mem_cons_self]
      rfl

theorem sorted_written {found : List JsString}
    (sorted : PolicyDocuments.sortedUnique found code = .ok ()) :
    sortedUnique (some (JsonValues.normalize (texts found))) code = .ok found := by
  have filled : ∀ entry ∈ found, nonEmpty entry code = .ok () := by
    rw [PolicyDocuments.sortedUnique, ensure_ok_iff] at sorted
    intro entry member
    rw [nonEmpty, ensure_ok_iff]
    exact sorted.1 entry member
  have read : items (some (JsonValues.normalize (texts found))) (fun item => text (some item) code)
      code = .ok found := by
    apply items_written
    intro entry member
    exact text_written (filled entry member)
  rw [sortedUnique, read, ok_bind, sorted]
  rfl

theorem subject_written {subject : PolicySubjectV1}
    (valid : PolicyDocuments.validateSubject subject = .ok ()) :
    validateSubject (JsonValues.normalize subject.toJson) = .ok subject := by
  simp only [PolicyDocuments.validateSubject, check_ok_iff] at valid
  obtain ⟨action, version, pointed⟩ := valid
  obtain ⟨lookup, opened, each⟩ := record_written [("action", nullable .str subject.action),
    ("pathPrefix", nullable .str subject.pathPrefix), ("version", nullable .str subject.version)]
    .policySubjectInvalid (by decide : (["action", "pathPrefix", "version"].map js).Nodup)
  simp only [List.mem_cons, List.not_mem_nil, or_false, forall_eq_or_imp, forall_eq] at each
  obtain ⟨first, second, third⟩ := each
  rw [validateSubject, PolicySubjectV1.toJson]
  rw [show record (JsonValues.normalize (object _)) ["action", "pathPrefix", "version"] _ = _ from
    opened, ok_bind, first, nullable_written action, ok_bind, third, nullable_written version,
    ok_bind, second]
  cases path : subject.pathPrefix with
  | none => simp [nullable, JsonValues.normalize, ← path]
  | some prefix' =>
      have given : PolicyDocuments.canonicalPointer prefix' .policySubjectInvalid = .ok () := by
        rw [path, List.forM_eq_forM, forM_ok_iff] at pointed
        exact pointed prefix' (by simp)
      simp [nullable, JsonValues.normalize, pointer_written given, ← path]

theorem evidence_written {requirement : EvidenceRequirementV1}
    (valid : PolicyDocuments.validateEvidence requirement = .ok ()) :
    validateEvidence (JsonValues.normalize requirement.toJson) = .ok requirement := by
  simp only [PolicyDocuments.validateEvidence, check_ok_iff] at valid
  obtain ⟨evidenceId, digest, path, version⟩ := valid
  obtain ⟨lookup, opened, each⟩ := record_written [("evidenceId", .str requirement.evidenceId),
    ("digest", .str requirement.digest), ("path", .str requirement.path),
    ("version", .str requirement.version)] .policyEvidenceInvalid
    (by decide : (evidenceKeys.map js).Nodup)
  simp only [List.mem_cons, List.not_mem_nil, or_false, forall_eq_or_imp, forall_eq,
    JsonValues.normalize] at each
  obtain ⟨first, second, third, fourth⟩ := each
  rw [validateEvidence, EvidenceRequirementV1.toJson,
    show record (JsonValues.normalize (object _)) evidenceKeys _ = _ from opened, ok_bind, first,
    text_written evidenceId, ok_bind, second, text_written digest, ok_bind, third,
    pointer_written path, ok_bind, fourth, text_written version]
  rfl

theorem effect_written (effect : PolicyEffectV1) : effectOf (some (.str effect.text)) = some effect := by
  cases effect <;> decide

theorem rule_written {rule : PolicyRuleV1} (valid : PolicyDocuments.validateRule rule = .ok ()) :
    validateRule (JsonValues.normalize rule.toJson) = .ok rule := by
  simp only [PolicyDocuments.validateRule, check_ok_iff, List.forM_eq_forM] at valid
  obtain ⟨ruleId, subject, constraints, evidence, order⟩ := valid
  obtain ⟨lookup, opened, each⟩ := record_written [("ruleId", .str rule.ruleId),
    ("subject", rule.subject.toJson), ("effect", .str rule.effect.text),
    ("constraints", texts rule.constraints),
    ("evidence", .arr (rule.evidence.map EvidenceRequirementV1.toJson))] .policyRuleInvalid
    (by decide : (["ruleId", "subject", "effect", "constraints", "evidence"].map js).Nodup)
  simp only [List.mem_cons, List.not_mem_nil, or_false, forall_eq_or_imp, forall_eq] at each
  obtain ⟨first, second, third, fourth, fifth⟩ := each
  have items : items (lookup "evidence") validateEvidence .policyRuleInvalid = .ok rule.evidence := by
    rw [fifth]
    apply items_written
    intro requirement member
    exact evidence_written ((forM_ok_iff _ _ ()).mp evidence requirement member)
  have effect : effectOf (lookup "effect") = some rule.effect := by
    rw [third, JsonValues.normalize]
    exact effect_written rule.effect
  rw [validateRule, PolicyRuleV1.toJson, show record (JsonValues.normalize (object _))
    ["ruleId", "subject", "effect", "constraints", "evidence"] _ = _ from opened, ok_bind, first,
    JsonValues.normalize, text_written ruleId, ok_bind, second, Option.getD_some,
    subject_written subject, ok_bind, effect, required, ok_bind, fourth, sorted_written constraints,
    ok_bind, items, ok_bind, order]
  rfl

theorem natural_written {value : Nat} (small : naturalCheck value code = .ok ()) :
    natural (some (JsonValues.natural value)) code = .ok value := by
  rw [JsonValues.natural, natural, show ((value : Rat).num.toNat) = value from rfl, small,
    (ensure_ok_iff _ code ()).mpr ⟨rfl, Int.natCast_nonneg value⟩]
  rfl

theorem core_written {core : PolicyDocumentCoreV1} (valid : parsePolicyDocumentCoreV1 core = .ok ()) :
    parsePolicyDocumentCore (JsonValues.normalize core.toJson) = .ok core := by
  simp only [parsePolicyDocumentCoreV1, check_ok_iff, List.forM_eq_forM] at valid
  obtain ⟨policyId, revision, predecessor, lineage, rules, order⟩ := valid
  obtain ⟨lookup, opened, each⟩ := record_written [("schemaVersion", .str (js "1")),
    ("kind", .str (js "policy")), ("policyId", .str core.policyId),
    ("revision", JsonValues.natural core.revision),
    ("predecessorDigest", nullable .str core.predecessorDigest),
    ("rules", .arr (core.rules.map PolicyRuleV1.toJson))] .policyDocumentInvalid
    (by decide : (["schemaVersion", "kind", "policyId", "revision", "predecessorDigest",
      "rules"].map js).Nodup)
  simp only [List.mem_cons, List.not_mem_nil, or_false, forall_eq_or_imp, forall_eq] at each
  obtain ⟨first, second, third, fourth, fifth, sixth⟩ := each
  have items : items (lookup "rules") validateRule .policyDocumentInvalid = .ok core.rules := by
    rw [sixth]
    apply items_written
    intro rule member
    exact rule_written ((forM_ok_iff _ _ ()).mp rules rule member)
  have schema : textOf (lookup "schemaVersion") = some (js "1") := by rw [first]; rfl
  have kind : textOf (lookup "kind") = some (js "policy") := by rw [second]; rfl
  rw [parsePolicyDocumentCore, PolicyDocumentCoreV1.toJson, show record (JsonValues.normalize (object _))
    ["schemaVersion", "kind", "policyId", "revision", "predecessorDigest", "rules"] _ = _ from opened,
    ok_bind, (ensure_ok_iff _ _ ()).mpr schema, ok_bind, (ensure_ok_iff _ _ ()).mpr kind, ok_bind,
    third, JsonValues.normalize, text_written policyId, ok_bind, fourth,
    show JsonValues.normalize (JsonValues.natural core.revision) = JsonValues.natural core.revision from rfl,
    natural_written revision, ok_bind, fifth, nullable_written predecessor, ok_bind, lineage, ok_bind,
    items, ok_bind, order]
  rfl

theorem slot_written [Engine] {slot : PolicySlotV1} (valid : parsePolicySlotV1 slot = .ok ()) :
    parsePolicySlot (JsonValues.normalize slot.toJson) = .ok slot := by
  cases slot with
  | noPolicy => rfl
  | document document =>
      simp only [parsePolicySlotV1, parsePolicyDocumentV1, bind_ok_iff, ensure_ok_iff] at valid
      obtain ⟨_, core, _, filled, digest, hashed, sealed⟩ := valid
      obtain ⟨lookup, opened, each⟩ := record_written [("core", document.core.toJson),
        ("policyDigest", .str document.policyDigest)] .policyDocumentInvalid
        (by decide : (["core", "policyDigest"].map js).Nodup)
      simp only [List.mem_cons, List.not_mem_nil, or_false, forall_eq_or_imp, forall_eq] at each
      obtain ⟨first, second⟩ := each
      have kind : textOf (property "kind" (JsonValues.normalize (PolicySlotV1.document document).toJson)) ≠
          some (js "no-policy") := by
        rw [property_normalize]
        intro same
        cases same
      have parsed : parsePolicyDocument (JsonValues.normalize (PolicySlotV1.document document).toJson) =
          .ok document := by
        rw [parsePolicyDocument, PolicySlotV1.toJson, show record (JsonValues.normalize (object _))
          ["core", "policyDigest"] _ = _ from opened, ok_bind, first, Option.getD_some,
          core_written core, ok_bind, second, JsonValues.normalize, text_written filled, ok_bind,
          hashed, ok_bind, (ensure_ok_iff _ _ ()).mpr sealed]
        rfl
      rw [parsePolicySlot, if_neg kind, parsed]
      rfl

end Written

section Rendering

variable [Engine]

def Ends (text : JsString) : Prop := ∃ body, text = body ++ js "\n"

theorem normal_ends (law : NormalForm Engine.normalizeNFC) (body : JsString) :
    Engine.normalizeNFC (body ++ js "\n") = Engine.normalizeNFC body ++ js "\n" := by
  rw [show js "\n" = [10] from rfl, law.boundary body 10 [] rfl, law.plain [10] (List.all_eq_true.mp rfl)]

omit [Engine] in
theorem utf8_lines (lines : List JsString) (rest : JsString) (each : ∀ line ∈ lines, Ends line) :
    utf8 (lines.flatten ++ rest) = (lines.map utf8).flatten ++ utf8 rest := by
  induction lines with
  | nil => rfl
  | cons line later ih =>
      obtain ⟨body, shape⟩ := each line List.mem_cons_self
      have whole : ∀ unit ∈ line.getLast?, highSurrogate unit = false := by
        intro unit ends
        rw [shape, show js "\n" = [10] from rfl, List.getLast?_concat] at ends
        obtain rfl : (10 : UInt16) = unit := Option.some.inj ends
        rfl
      rw [List.flatten_cons, List.append_assoc, utf8_append _ _ whole,
        ih fun other member => each other (List.mem_cons_of_mem line member)]
      simp

theorem describe_cons {profileDigest kind text : JsString} {rest : List (JsString × JsString)}
    {priority offset : Nat} {sources : List SourceDescriptorV1}
    (described : describeChunks profileDigest priority offset ((kind, text) :: rest) = .ok sources) :
    ∃ digest later, (if kind = js "execution-profile" then .ok profileDigest
        else contextSourceDigest text) = Except.ok digest ∧
      describeChunks profileDigest (priority + 1) (offset + byteLength text) rest = .ok later ∧
      sources = ⟨kind, digest, offset, offset + byteLength text, priority⟩ :: later := by
  simp only [describeChunks] at described
  split at described
  · next profile =>
      obtain ⟨digest, made, later⟩ := bind_ok_iff.mp described
      obtain ⟨tail, rest, same⟩ := bind_ok_iff.mp later
      exact ⟨digest, tail, by rw [if_pos profile]; exact made, rest, ((pure_ok_iff _ _).mp same).symm⟩
  · next other =>
      obtain ⟨digest, made, later⟩ := bind_ok_iff.mp described
      obtain ⟨tail, rest, same⟩ := bind_ok_iff.mp later
      exact ⟨digest, tail, by rw [if_neg other]; exact made, rest, ((pure_ok_iff _ _).mp same).symm⟩

theorem described_chunk {profileDigest kind text : JsString} {front back : List (JsString × JsString)}
    {priority offset : Nat} {sources : List SourceDescriptorV1}
    (described : describeChunks profileDigest priority offset (front ++ (kind, text) :: back) =
      .ok sources) (fresh : ∀ chunk ∈ front, chunk.1 ≠ kind) :
    ∃ descriptor, sources.find? (fun source => source.kind = kind) = some descriptor ∧
      descriptor.byteStart = offset + (front.map fun chunk => byteLength chunk.2).sum ∧
      descriptor.byteEnd = descriptor.byteStart + byteLength text := by
  induction front generalizing priority offset sources with
  | nil =>
      obtain ⟨digest, later, _, _, rfl⟩ := describe_cons described
      exact ⟨⟨kind, digest, offset, offset + byteLength text, priority⟩, by simp, by simp, rfl⟩
  | cons chunk rest ih =>
      obtain ⟨digest, later, _, tail, rfl⟩ := describe_cons described
      obtain ⟨descriptor, found, starts, ends⟩ :=
        ih tail fun other member => fresh other (List.mem_cons_of_mem chunk member)
      refine ⟨descriptor, ?_, ?_, ends⟩
      · rw [List.find?_cons_of_neg (by simpa using fresh chunk List.mem_cons_self)]
        exact found
      · rw [starts, List.map_cons, List.sum_cons]
        omega

omit [Engine] in
theorem system_ends : Ends systemText := by
  have last : systemText.dropLast ++ js "\n" = systemText := by
    rw [systemText, js_chars]
    decide +kernel
  exact ⟨_, last.symm⟩

theorem chunks_shape {w : Surroundings} {view : ExecutionView} {profile : TaskExecutionProfileV1}
    {task : TaskContractV2} {outcomes : List DependencyOutcomeV1} {policy : PolicySelection}
    {chunks : List (JsString × JsString)}
    (made : contextChunks w view profile task outcomes policy = .ok chunks) :
    ∃ front, chunks = front ++ [(js "pinned-policy", policy.policyText ++ js "\n")] ∧
      ∀ chunk ∈ front, chunk.1 ≠ js "pinned-policy" ∧ Ends chunk.2 := by
  simp only [contextChunks, bind_ok_iff, pure_ok_iff] at made
  obtain ⟨_, _, _, ⟨first, _, rfl⟩, _, ⟨second, _, rfl⟩, _, ⟨third, _, rfl⟩, _, ⟨fourth, _, rfl⟩,
    rfl⟩ := made
  refine ⟨[(js "system", systemText), (js "execution-profile", first ++ js "\n"),
    (js "task", second ++ js "\n"), (js "canonical", third ++ js "\n"),
    (js "dependency", fourth ++ js "\n")], rfl, ?_⟩
  simp only [List.mem_cons, List.not_mem_nil, or_false, forall_eq_or_imp, forall_eq]
  exact ⟨⟨by decide, system_ends⟩, ⟨by decide, first, rfl⟩, ⟨by decide, second, rfl⟩,
    ⟨by decide, third, rfl⟩, by decide, fourth, rfl⟩

end Rendering


section RoundTrip

variable [Engine] {w : Surroundings} {process : Process} {view : ExecutionView}
  {authorization : TaskWorkflowAuthorizationV1} {task : TaskContractV2}
  {attemptId profileDigest : JsString} {outcomes : List DependencyOutcomeV1}
  {policy : PolicySelection} {producer : JsString × JsString}
  {prepared : TaskExecutionPreparedDataV1} {publications : List JsString} {slot : PolicySlotV1}

/-- `checkPolicy` gives out a slot as its canonical JSON and its digest. -/
structure Selects (policy : PolicySelection) (slot : PolicySlotV1) : Prop where
  digest : policySlotDigest slot = .ok policy.policyDigest
  text : canonicalJson slot.toJson = .ok policy.policyText

theorem policy_bytes (law : NormalForm Engine.normalizeNFC)
    (made : newAttempt w process view authorization task attemptId profileDigest outcomes policy
      producer = .ok (prepared, publications)) :
    ∃ descriptor, prepared.manifest.sources.find? (fun source => source.kind = js "pinned-policy") =
        some descriptor ∧
      ((utf8 prepared.renderedContext).take descriptor.byteEnd).drop descriptor.byteStart =
        utf8 (Engine.normalizeNFC policy.policyText ++ js "\n") ∧
      prepared.forkPin.core.pinnedPolicyDigest = policy.policyDigest := by
  simp only [newAttempt, bind_ok_iff, map_error_ok_iff, ensure_ok_iff, pure_ok_iff] at made
  obtain ⟨_, _, _, _, _, _, pin, pinned, chunks, rendered, sources, described, made⟩ := made
  obtain ⟨_, _, _, _, _, _, _, _, _, _, _, _, _, _, _, _, _, _, same⟩ := made
  obtain ⟨rfl, -⟩ := Prod.mk.inj same
  obtain ⟨front, rfl, shaped⟩ := chunks_shape rendered
  simp only [sealForkPin, bind_ok_iff, pure_ok_iff] at pinned
  obtain ⟨_, _, _, _, rfl⟩ := pinned
  rw [List.map_append, List.map_singleton, normal_ends law] at described
  obtain ⟨descriptor, found, starts, ends⟩ := described_chunk described (by
    intro chunk member
    obtain ⟨source, old, rfl⟩ := List.mem_map.mp member
    exact (shaped source old).1)
  refine ⟨descriptor, found, ?_, rfl⟩
  let lines := front.map fun chunk => Engine.normalizeNFC chunk.2
  have each : ∀ line ∈ lines, Ends line := by
    intro line member
    obtain ⟨chunk, old, rfl⟩ := List.mem_map.mp member
    obtain ⟨body, shape⟩ := (shaped chunk old).2
    exact ⟨Engine.normalizeNFC body, by rw [shape, normal_ends law]⟩
  have whole : utf8 (List.map Prod.snd (List.map (fun chunk => (chunk.1, Engine.normalizeNFC chunk.2))
      (front ++ [(js "pinned-policy", policy.policyText ++ js "\n")]))).flatten =
      (lines.map utf8).flatten ++ utf8 (Engine.normalizeNFC policy.policyText ++ js "\n") := by
    have split := utf8_lines lines (Engine.normalizeNFC policy.policyText ++ js "\n") each
    rw [← split, ← normal_ends law]
    simp [lines, Function.comp_def]
  have before : descriptor.byteStart = (lines.map utf8).flatten.length := by
    rw [starts, List.length_flatten]
    simp [lines, byteLength, Function.comp_def]
  rw [whole, ends, before, List.take_append, List.drop_append]
  simp [byteLength]

omit [Engine] in
theorem plain_object {literal : List (String × JsValue)}
    (names : (literal.map Prod.fst).all (fun name => (js name).all ascii) = true)
    (each : ∀ field ∈ literal, PlainNames field.2) : PlainNames (object literal) := by
  constructor
  · intro entry member unit inside
    obtain ⟨field, old, rfl⟩ := List.mem_map.mp member
    have name := List.all_eq_true.mp names field.1 (List.mem_map_of_mem old)
    exact List.all_eq_true.mp name unit inside
  · intro entry member
    obtain ⟨field, old, rfl⟩ := List.mem_map.mp member
    exact each field old

omit [Engine] in
theorem plain_nullable (text : Option JsString) : PlainNames (nullable .str text) := by
  cases text with
  | none => exact .null
  | some text => exact .str text

omit [Engine] in
theorem plain_items {Item : Type} {write : Item → JsValue} (items : List Item)
    (each : ∀ item, PlainNames (write item)) : PlainNames (.arr (items.map write)) := by
  constructor
  intro value member
  obtain ⟨item, -, rfl⟩ := List.mem_map.mp member
  exact each item

omit [Engine] in
theorem evidence_plain (requirement : EvidenceRequirementV1) : PlainNames requirement.toJson := by
  apply plain_object rfl
  simp only [List.mem_cons, List.not_mem_nil, or_false, forall_eq_or_imp, forall_eq]
  exact ⟨.str _, .str _, .str _, .str _⟩

omit [Engine] in
theorem subject_plain (subject : PolicySubjectV1) : PlainNames subject.toJson := by
  apply plain_object rfl
  simp only [List.mem_cons, List.not_mem_nil, or_false, forall_eq_or_imp, forall_eq]
  exact ⟨plain_nullable _, plain_nullable _, plain_nullable _⟩

omit [Engine] in
theorem rule_plain (rule : PolicyRuleV1) : PlainNames rule.toJson := by
  apply plain_object rfl
  simp only [List.mem_cons, List.not_mem_nil, or_false, forall_eq_or_imp, forall_eq]
  exact ⟨.str _, subject_plain _, .str _, plain_items _ .str, plain_items _ evidence_plain⟩

omit [Engine] in
theorem core_plain (core : PolicyDocumentCoreV1) : PlainNames core.toJson := by
  apply plain_object rfl
  simp only [List.mem_cons, List.not_mem_nil, or_false, forall_eq_or_imp, forall_eq]
  exact ⟨.str _, .str _, .str _, .num _, plain_nullable _, plain_items _ rule_plain⟩

omit [Engine] in
theorem slot_plain (slot : PolicySlotV1) : PlainNames slot.toJson := by
  cases slot with
  | document document =>
      apply plain_object rfl
      simp only [List.mem_cons, List.not_mem_nil, or_false, forall_eq_or_imp, forall_eq]
      exact ⟨core_plain _, .str _⟩
  | noPolicy =>
      apply plain_object rfl
      simp only [List.mem_cons, List.not_mem_nil, or_false, forall_eq_or_imp, forall_eq]
      exact ⟨.str _, .str _, .arr [] (by simp)⟩

-- The kind of a document is not that of the fixed absence of a policy.
theorem kinds_apart (ideal : Function.Injective Engine.sha256Hex) {core : PolicyDocumentCoreV1}
    {digest : JsString} (first : domainDigest (js "horseness.policy.v1") core.toJson = .ok digest)
    (second : domainDigest (js "horseness.policy.v1") noPolicyJson = .ok digest) : False := by
  have same := digest_meaning ideal first second
  simp only [PolicyDocumentCoreV1.toJson, noPolicyJson, object, meaning, JsonTree.obj.injEq] at same
  have kind := congrFun same (js "kind")
  have policy : some (JsonTree.str (js "policy")) = some (JsonTree.str (js "no-policy")) := kind
  exact absurd (JsonTree.str.inj (Option.some.inj policy)) (by decide)

theorem digest_writes (ideal : Function.Injective Engine.sha256Hex) {left right : PolicySlotV1}
    {digest : JsString} (first : policySlotDigest left = .ok digest)
    (second : policySlotDigest right = .ok digest) :
    serialize left.toJson = serialize right.toJson := by
  rcases slot_digest_sealed first with ⟨document, rfl, hashed⟩ | ⟨rfl, hashed⟩
  · rcases slot_digest_sealed second with ⟨other, rfl, again⟩ | ⟨rfl, again⟩
    · have same := digest_meaning ideal hashed again
      have named : document.policyDigest = other.policyDigest := by
        simp only [policySlotDigest, bind_ok_iff, pure_ok_iff] at first second
        obtain ⟨_, _, rfl⟩ := first
        obtain ⟨_, _, given⟩ := second
        exact given.symm
      rw [serialize_eq_iff]
      simp only [PolicySlotV1.toJson, object, List.map_cons, List.map_nil, meaning, meaningFields, same,
        named]
    · exact (kinds_apart ideal hashed again).elim
  · rcases slot_digest_sealed second with ⟨other, rfl, again⟩ | ⟨rfl, again⟩
    · exact (kinds_apart ideal again hashed).elim
    · rfl

/-- A launch reads the pinned policy back exactly when normal form leaves the policy's text as it
was digested. -/
theorem pinned_policy_read_iff (law : NormalForm Engine.normalizeNFC)
    (ideal : Function.Injective Engine.sha256Hex) (selected : Selects policy slot)
    (made : newAttempt w process view authorization task attemptId profileDigest outcomes policy
      producer = .ok (prepared, publications)) :
    (∃ pinned, readPinnedPolicy (utf8 prepared.renderedContext) prepared = .ok pinned) ↔
      Engine.normalizeNFC policy.policyText = policy.policyText := by
  obtain ⟨descriptor, found, bytes, pinnedDigest⟩ := policy_bytes law made
  obtain ⟨valid, text⟩ := (canonical_ok_iff _ _).mp selected.text
  have readable : decodeUtf8 (utf8 (Engine.normalizeNFC policy.policyText ++ js "\n")) =
      Engine.normalizeNFC policy.policyText ++ js "\n" := by
    apply decode_utf8
    rw [← text]
    exact valid_append (law.valid _ (serialize_valid _ valid)) (by decide)
  simp only [readPinnedPolicy, found, required, ok_bind, bytes, readable, pinnedDigest]
  constructor
  · rintro ⟨pinned, read⟩
    simp only [bind_ok_iff, ensure_ok_iff, pure_ok_iff] at read
    obtain ⟨value, parsed, other, reread, digest, digested, _, rfl, rfl⟩ := read
    rw [← text] at parsed ⊢
    have spelled : parse (Engine.normalizeNFC (serialize slot.toJson) ++ js "\n") = some value :=
      (required_ok_iff _ _ _).mp parsed
    -- what was read is written as the normalised text, and one digest has one writing
    calc Engine.normalizeNFC (serialize slot.toJson)
        = serialize value := (parse_normal law (slot_plain slot) spelled).symm
      _ = serialize other.toJson := (serialize_eq_iff _ _).mpr (slot_meaning reread)
      _ = serialize slot.toJson := digest_writes ideal digested selected.digest
  · intro kept
    have accepted := (slot_digest_iff slot).mp ⟨_, selected.digest⟩
    have parsed : parse (Engine.normalizeNFC policy.policyText ++ js "\n") =
        some (JsonValues.normalize slot.toJson) := by
      rw [kept, ← text]
      exact parse_line slot.toJson
    refine ⟨slot, ?_⟩
    simp only [bind_ok_iff, ensure_ok_iff, pure_ok_iff]
    exact ⟨_, by rw [parsed], slot, slot_written accepted, _, selected.digest, (), rfl, rfl⟩

end RoundTrip

section Recorded

open RecordedRuns ServiceRequests

def composeAcute : JsString → JsString
  | [] => []
  | unit :: rest =>
      match rest with
      | [] => [unit]
      | next :: tail =>
          if unit = 0x65 ∧ next = 0x301 then 0xE9 :: composeAcute tail
          else unit :: composeAcute (next :: tail)

example : composeAcute [0x63, 0x61, 0x66, 0x65, 0x301] = [0x63, 0x61, 0x66, 0xE9] := by decide +kernel

@[reducible] def composingEngine : Engine := { shortEngine with normalizeNFC := composeAcute }

def policyDigests : List (JsString × JsString) :=
  [(js "horseness.policy.v1" ++ 0 :: js "\x7b\"kind\":\"no-policy\",\"rules\":[],\"schemaVersion\":\"1\"\x7d",
    js "4923eb38d35bf7aeae966f02e7071e9bcd2d673851f8436545176365c3bc36de")]

@[reducible] def policyEngine : Engine :=
  { recordedEngine with sha256Hex := tableDigest policyDigests }

theorem policy_ideal : Function.Injective policyEngine.sha256Hex :=
  table_injective (table_of_digests (by decide +kernel) (by decide +kernel))

def steadyProfile : TaskExecutionProfileV1 := { sampleProfile with timeoutMs := 1000 }

def steadyAuthorization : TaskWorkflowAuthorizationV1 :=
  { workflowId := js "wf"
    operationKind := .dispatch
    requestDigest := js "d"
    planningSource := none
    parentWorkflowId := none
    workspaceId := js "w"
    runId := js "r"
    targetTaskId := js "t"
    targetContractDigest := js "d"
    issuerPrincipalId := js "u"
    issuerGrantDigest := js "g"
    expiresAt := secondLater
    executionProfile := steadyProfile
    plannerProfile := none
    autoPlan := false
    graphDigest := none
    planDigest := none }

def accentedCore : PolicyDocumentCoreV1 :=
  ⟨js "p", 0, none, [⟨js "r", ⟨none, none, none⟩, .accepted, [js "e" ++ [0x301]], []⟩]⟩

variable [Engine]

def steadySurroundings : Surroundings where
  clock := startOfYear
  observe _ := none
  reference _ := none
  producer _ := .ok (js "u", js "g")
  current _ := true
  checkPolicy _ _ _ := .error .policyAuthorityUnavailable
  checkPinnedPolicy _ _ := .ok ()
  storedContext _ := .ok ()
  storedReceipt _ := .ok ()
  suppliedObjects _ _ _ := .ok ()
  planOutput _ := .ok []
  output _ := .ok []
  publish _ := .ok ()
  admitted := .ok ()
  issuable _ := .ok ()

def begunView : Except DomainError ExecutionView := do
  let event ← createRunGenesis ⟨js "w", 1, js "h", 0, js "r"⟩ (object []) (js "u") (js "c")
  let stream ← beginStream event
  viewOf {
    workspaceId := js "w"
    workspace := ⟨1, js "h", [js "e"], ⟨js "w", js "u", js "g", js "m", noPolicyDigest, .empty, .empty,
      0, 1⟩⟩
    runs := Record.empty.set (js "r") stream
    commands := []
    consumed := []
    issuances := .empty } (js "r")

def selection (slot : PolicySlotV1) : Except DomainError PolicySelection := do
  return ⟨← policySlotDigest slot, ← canonicalJson slot.toJson, js "q"⟩

def accentedSlot : Except DomainError PolicySlotV1 := do
  return .document ⟨accentedCore, ← policyDocumentDigest accentedCore⟩

def rendering (view : ExecutionView) (policy : PolicySelection) :
    Except Failure (TaskExecutionPreparedDataV1 × List JsString) :=
  newAttempt steadySurroundings ⟨js "b", js "1"⟩ view steadyAuthorization (sampleTask (js "t"))
    (js "a") (js "d") [] policy (js "u", js "g")

end Recorded

/-- The attempt without a policy is rendered. -/
instance plain_rendered : Fact (endsIn (fun view => endsIn (fun policy =>
      endsIn (fun _ => true) (@rendering policyEngine view policy))
    (@selection policyEngine .noPolicy)) (@begunView policyEngine) = true) := ⟨by decide +kernel⟩

/-- So is the attempt under the accented policy, which is not read back. -/
instance accented_rendered : Fact (endsIn (fun slot => endsIn (fun view => endsIn (fun policy =>
      endsIn (fun made : TaskExecutionPreparedDataV1 × List JsString => failsWith
          .policyDigestMismatch (@readPinnedPolicy composingEngine (utf8 made.1.renderedContext) made.1))
        (@rendering composingEngine view policy)) (@selection composingEngine slot))
    (@begunView composingEngine)) (@accentedSlot composingEngine) = true) := ⟨by decide +kernel⟩

section Plain

attribute [local instance] policyEngine

/-- Text that is in normal form is read back. -/
theorem plain_policy_read : ∃ view policy prepared publications, begunView = .ok view ∧
    selection .noPolicy = .ok policy ∧ rendering view policy = .ok (prepared, publications) ∧
      ∃ pinned, readPinnedPolicy (utf8 prepared.renderedContext) prepared = .ok pinned := by
  rcases ends_in_exists plain_rendered.out with ⟨view, begun, holds⟩
  rcases ends_in_exists holds with ⟨policy, selected, holds⟩
  rcases ends_in_exists holds with ⟨⟨prepared, publications⟩, made, _⟩
  refine ⟨view, policy, prepared, publications, begun, selected, made, ?_⟩
  simp only [selection, bind_ok_iff, pure_ok_iff] at selected
  rcases selected with ⟨_, digest, _, text, rfl⟩
  exact (pinned_policy_read_iff unchanged_normal policy_ideal ⟨digest, text⟩ made).mpr rfl

end Plain

section Accented

attribute [local instance] composingEngine

/-- The accent is composed after the policy was digested, and the attempt cannot be launched. -/
theorem accented_policy_unread : ¬ ∀ (slot : PolicySlotV1) (policy : PolicySelection)
    (view : ExecutionView) (prepared : TaskExecutionPreparedDataV1) (publications : List JsString),
    parsePolicySlotV1 slot = .ok () → Selects policy slot →
      rendering view policy = .ok (prepared, publications) →
      ∃ pinned, readPinnedPolicy (utf8 prepared.renderedContext) prepared = .ok pinned := by
  intro claim
  rcases ends_in_exists accented_rendered.out with ⟨slot, _, holds⟩
  rcases ends_in_exists holds with ⟨view, _, holds⟩
  rcases ends_in_exists holds with ⟨policy, selected, holds⟩
  rcases ends_in_exists holds with ⟨⟨prepared, publications⟩, made, refused⟩
  simp only [selection, bind_ok_iff, pure_ok_iff] at selected
  rcases selected with ⟨_, digest, _, text, rfl⟩
  rcases claim slot _ view prepared publications ((slot_digest_iff slot).mp ⟨_, digest⟩)
    ⟨digest, text⟩ made with ⟨pinned, read⟩
  rw [fails_with_eq refused] at read
  cases read

end Accented

end Horseness.PinnedPolicies
