import Horseness.RuleSeverity
import Horseness.AdmissionInputs
import Horseness.DeltaReference

/-!
When an evaluation accepts. Its explanations decide alone: nothing but accepted ones remain, and
an approval stands in for those that require one. Cursors are compared by their canonical JSON,
which texts that are no Unicode do not have.
-/

namespace Horseness.AdmissionAcceptance

open FallibleRuns ScriptText JsonValues ScriptEngine Canonical Cursors PolicyDocuments
  PolicyEvaluation Delta RuleSeverity AdmissionInputs RecordedRuns

section Cursors

variable [Engine]

def readable (cursor : CompositeCursorV1) : Prop :=
  ∀ text ∈ [cursor.workspaceId, cursor.workspaceEnvelopeHash, cursor.runId,
    cursor.runEnvelopeHash], validUnicode text = true

instance (cursor : CompositeCursorV1) : Decidable (readable cursor) :=
  inferInstanceAs (Decidable (∀ text ∈ _, _))

omit [Engine] in
theorem readable_iff (cursor : CompositeCursorV1) :
    readable cursor ↔ assertJson cursor.toJson = .ok () := by
  have names : ∀ name ∈ ["schemaVersion", "kind", "workspaceId", "workspaceSequence",
      "workspaceEnvelopeHash", "workspaceContextEpoch", "runId", "runSequence",
      "runEnvelopeHash", "runContextEpoch", "1", "composite"], validUnicode (js name) = true := by
    decide +kernel
  have numbers : ∀ value, assertJson (natural value) = .ok () := fun _ => rfl
  simp only [List.forall_mem_cons] at names
  simp only [CompositeCursorV1.toJson, object, assert_obj_ok_iff, readable, List.map_cons,
    List.map_nil, List.forall_mem_cons, assert_str_ok_iff, numbers, names]
  simp

theorem same_cursor_ok_iff {left right : CompositeCursorV1} {answer : Bool} :
    sameCursor (.composite left) (.composite right) = .ok answer ↔
      readable left ∧ readable right ∧ answer = decide (left = right) := by
  simp only [sameCursor, sameJson, ObservationCursorV1.toJson, bind_ok_iff, pure_ok_iff]
  constructor
  · rintro ⟨first, one, second, other, rfl⟩
    refine ⟨(readable_iff _).2 ((canonical_ok_iff _ _).1 one).1,
      (readable_iff _).2 ((canonical_ok_iff _ _).1 other).1, ?_⟩
    rw [decide_eq_decide, canonical_eq_iff one other]
    exact ⟨composite_injective, fun same => by rw [same]⟩
  · rintro ⟨first, second, rfl⟩
    have one := (canonical_ok_iff left.toJson _).2 ⟨(readable_iff _).1 first, rfl⟩
    have other := (canonical_ok_iff right.toJson _).2 ⟨(readable_iff _).1 second, rfl⟩
    refine ⟨_, one, _, other, ?_⟩
    rw [decide_eq_decide, canonical_eq_iff one other]
    exact ⟨composite_injective, fun same => by rw [same]⟩

/-- One stream is observed no further than another: at the same event, or before it. -/
def StreamNotAfter (leftSequence : Nat) (leftHash : JsString) (leftEpoch : Nat)
    (rightSequence : Nat) (rightHash : JsString) (rightEpoch : Nat) : Prop :=
  leftSequence = rightSequence ∧ leftHash = rightHash ∧ leftEpoch = rightEpoch ∨
    leftSequence < rightSequence ∧ leftEpoch ≤ rightEpoch

def NotAfter (left right : CompositeCursorV1) : Prop :=
  left.workspaceId = right.workspaceId ∧ left.runId = right.runId ∧
    StreamNotAfter left.workspaceSequence left.workspaceEnvelopeHash left.workspaceContextEpoch
      right.workspaceSequence right.workspaceEnvelopeHash right.workspaceContextEpoch ∧
    StreamNotAfter left.runSequence left.runEnvelopeHash left.runContextEpoch
      right.runSequence right.runEnvelopeHash right.runContextEpoch

omit [Engine] in
theorem component_not_after_iff {leftSequence leftEpoch rightSequence rightEpoch : Nat}
    {leftHash rightHash : JsString} :
    cursorComponentNotAfter leftSequence leftHash leftEpoch rightSequence rightHash rightEpoch =
      true ↔ StreamNotAfter leftSequence leftHash leftEpoch rightSequence rightHash rightEpoch := by
  rw [cursorComponentNotAfter, StreamNotAfter]
  split
  · constructor
    · exact fun later => by cases later
    · omega
  · split
    · rename_i same
      simp [same]
    · simp
      omega

omit [Engine] in
theorem cursor_not_after_iff {left right : CompositeCursorV1} :
    cursorNotAfter left right = true ↔ NotAfter left right := by
  simp [cursorNotAfter, NotAfter, component_not_after_iff, and_assoc]

end Cursors

section Answers

variable [Engine] {input : AdmissionEvaluationInputV1} {subject : RuleEvaluationInputV1}

theorem parsed_subject (parsed : parseAdmissionEvaluationInputV1 input = .ok subject) :
    parsePolicySlotV1 input.pinnedPolicy = .ok () ∧ parsePolicySlotV1 input.currentPolicy = .ok () ∧
      (∀ path ∈ subject.paths, ∃ tokens, validatePointer path = .ok tokens) ∧
      ∃ cursor, input.evaluationClock.observationCursor = .composite cursor := by
  simp only [parseAdmissionEvaluationInputV1, validatePolicySubject, policyPaths,
    validateEvaluationClock, composite, bind_ok_iff, pure_ok_iff, ensure_ok_iff] at parsed
  rcases parsed with ⟨_, _, _, _, _, ⟨_, _, _, _, _, ⟨_, _, _, pointers, _⟩, _, pinned, _, current,
    presented, _, _, _, rfl⟩, _, _, _, ⟨_, _, _, _, kind⟩, _, _, _, _, rfl⟩
  refine ⟨pinned, current, fun path member => ?_, ?_⟩
  · rw [List.forM_eq_forM, forM_ok_iff] at pointers
    have spelled := pointers path member
    rw [pointerText, bind_ok_iff] at spelled
    rcases spelled with ⟨tokens, pointer, _⟩
    exact ⟨tokens, (map_error_ok_iff _ _ _).1 pointer⟩
  · cases clock : input.evaluationClock.observationCursor with
    | composite cursor => exact ⟨cursor, rfl⟩
    | _ => simp [clock, ObservationCursorV1.isComposite] at kind

omit [Engine] in
theorem anyM_answers {Item Failure : Type} {check : Item → Except Failure Bool}
    {items : List Item} (answered : ∀ item ∈ items, ∃ answer, check item = .ok answer) :
    ∃ answer, items.anyM check = .ok answer := by
  induction items with
  | nil => exact ⟨false, rfl⟩
  | cons item rest ih =>
      rcases answered item List.mem_cons_self with ⟨answer, here⟩
      rcases ih fun later member => answered later (List.mem_cons_of_mem item member) with
        ⟨found, later⟩
      rw [List.anyM, here]
      cases answer with
      | true => exact ⟨true, rfl⟩
      | false => exact ⟨found, later⟩

theorem applies_answers {document : PolicySlotV1} {rule : PolicyRuleV1}
    (sealed : parsePolicySlotV1 document = .ok ()) (member : rule ∈ rulesOf document)
    (pointers : ∀ path ∈ subject.paths, ∃ tokens, validatePointer path = .ok tokens) :
    ∃ answer, applies rule subject = .ok answer := by
  rw [applies]
  split
  · cases document with
    | noPolicy => cases member
    | document policy =>
        simp only [parsePolicySlotV1, parsePolicyDocumentV1, parsePolicyDocumentCoreV1,
          bind_ok_iff] at sealed
        rcases sealed with ⟨_, ⟨_, _, _, _, _, _, _, _, _, rules, _⟩, _⟩
        rw [List.forM_eq_forM, forM_ok_iff] at rules
        have checked := rules rule member
        simp only [validateRule, validateSubject, bind_ok_iff] at checked
        rcases checked with ⟨_, _, _, ⟨_, _, _, _, roots⟩, _⟩
        cases named : rule.subject.pathPrefix with
        | none => exact ⟨true, rfl⟩
        | some root =>
            rw [named, List.forM_eq_forM, forM_ok_iff] at roots
            have spelled := roots root (Option.mem_toList.2 rfl)
            simp only [canonicalPointer, pointerText, bind_ok_iff] at spelled
            rcases spelled with ⟨_, ⟨above, pointer, _⟩, _⟩
            refine anyM_answers fun path inside => ?_
            rcases pointers path inside with ⟨tokens, spelled⟩
            refine DeltaReference.scope_answers spelled fun other member => ?_
            rw [List.mem_singleton.1 member]
            exact ⟨above, (map_error_ok_iff _ _ _).1 pointer⟩
  · exact ⟨false, rfl⟩

theorem document_answers {document : PolicySlotV1}
    (sealed : parsePolicySlotV1 document = .ok ())
    (pointers : ∀ path ∈ subject.paths, ∃ tokens, validatePointer path = .ok tokens) :
    ∃ evaluated, evaluateDocument document subject = .ok evaluated := by
  rcases (slot_digest_iff document).2 sealed with ⟨digest, digested⟩
  cases document with
  | noPolicy => exact ⟨_, by rw [evaluateDocument, sealed, digested]; rfl⟩
  | document policy =>
      have filtered := (filterM_ok_iff (applies · subject) policy.core.rules _).2
        ⟨fun rule member => applies_answers sealed member pointers, rfl⟩
      rw [evaluateDocument, sealed, digested]
      simp only [ok_bind, filtered]
      split
      · exact ⟨_, rfl⟩
      · exact ⟨_, rfl⟩

end Answers

section Findings

variable [Engine] {input : AdmissionEvaluationInputV1}

/-- The authority snapshots agree with the evaluation. -/
structure Observed (input : AdmissionEvaluationInputV1) : Prop where
  fresh : .composite input.snapshots.evaluationObservationCursor =
    input.evaluationClock.observationCursor
  readable : readable input.snapshots.evaluationObservationCursor
  ordered : NotAfter input.snapshots.issueObservationCursor
    input.snapshots.evaluationObservationCursor
  grant : input.snapshots.expectedGrantDigest = input.snapshots.observedGrantDigest
  quota : input.snapshots.expectedQuotaDigest = input.snapshots.observedQuotaDigest
  available : input.snapshots.quotaAvailable = true

omit [Engine] in
theorem finding_nil_iff {digest subject code : JsString} {failed : Bool} {result : PolicyEffectV1} :
    snapshotFinding digest failed subject result code = [] ↔ failed = false := by
  cases failed <;> simp [snapshotFinding]

theorem snapshot_none_iff {cursor : CompositeCursorV1}
    (sealed : parsePolicySlotV1 input.currentPolicy = .ok ())
    (clock : input.evaluationClock.observationCursor = .composite cursor) :
    snapshotDecision input = .ok none ↔ Observed input := by
  rcases (slot_digest_iff input.currentPolicy).2 sealed with ⟨digest, digested⟩
  simp only [snapshotDecision, digested, clock, ok_bind, bind_ok_iff, same_cursor_ok_iff]
  constructor
  · rintro ⟨_, ⟨readable, _, rfl⟩, decided⟩
    split at decided
    · rename_i quiet
      simp only [List.append_eq_nil_iff, finding_nil_iff, Bool.not_eq_false', decide_eq_true_eq,
        cursor_not_after_iff, decide_eq_false_iff_not, not_not] at quiet
      exact ⟨by rw [clock, quiet.1.1.1.1], readable, quiet.1.1.1.2, quiet.1.1.2, quiet.1.2, quiet.2⟩
    · cases decided
  · intro observed
    have fresh : input.snapshots.evaluationObservationCursor = cursor :=
      ObservationCursorV1.composite.inj (observed.fresh.trans clock)
    refine ⟨true, ⟨observed.readable, fresh ▸ observed.readable, by simp [fresh]⟩, ?_⟩
    rw [if_pos]
    · rfl
    · simp only [List.append_eq_nil_iff, finding_nil_iff, Bool.not_eq_false',
        cursor_not_after_iff, decide_eq_false_iff_not, not_not]
      exact ⟨⟨⟨⟨trivial, observed.ordered⟩, observed.grant⟩, observed.quota⟩, observed.available⟩

theorem snapshot_severe {finding : PolicyDecisionV1}
    (found : snapshotDecision input = .ok (some finding)) :
    rank .quarantined ≤ rank finding.result := by
  simp only [snapshotDecision, bind_ok_iff] at found
  rcases found with ⟨digest, _, fresh, _, decided⟩
  split at decided
  · cases decided
  · obtain rfl := Option.some.inj ((pure_ok_iff _ _).1 decided)
    simp only [decision, normalizeDecision]
    split
    · decide
    · decide

end Findings

section Approvals

variable [Engine] {input : AdmissionEvaluationInputV1} {approval : ApprovalBindingV1}

/-- The approval is of this proposal under these policies, by another who is authenticated, for
this moment. -/
structure Approves (input : AdmissionEvaluationInputV1) (approval : ApprovalBindingV1) : Prop where
  proposal : approval.proposalDigest = input.proposalDigest
  base : approval.baseRevision = input.baseRevision ∧ approval.baseStateHash = input.baseStateHash
  pinnedPolicy : policySlotDigest input.pinnedPolicy = .ok approval.pinnedPolicyDigest
  currentPolicy : policySlotDigest input.currentPolicy = .ok approval.currentPolicyDigest
  approver : approval.approverPrincipalId = input.snapshots.authenticatedApproverPrincipalId
  other : approval.approverPrincipalId ≠ input.proposalAuthorPrincipalId
  grant : approval.approverGrantDigest = input.snapshots.observedGrantDigest
  action : approval.allowedAction = input.action
  issued : approval.issueObservationCursor = input.snapshots.issueObservationCursor
  evaluated : approval.evaluationObservationCursor = input.snapshots.evaluationObservationCursor
  current : ∃ issuedAt ∈ Engine.dateParse approval.issuedAt,
    ∃ now ∈ Engine.dateParse input.evaluationClock.authorityTime,
    ∃ expiresAt ∈ Engine.dateParse approval.expiresAt, issuedAt ≤ now ∧ now < expiresAt

theorem not_before_iff {left right : JsString} :
    notBefore left right = true ↔ ∃ later ∈ Engine.dateParse left,
      ∃ earlier ∈ Engine.dateParse right, earlier ≤ later := by
  rw [notBefore]
  cases Engine.dateParse left <;> cases Engine.dateParse right <;> simp

-- Of an approval the cursors are compared last, so that only then they have to be Unicode.
theorem approval_valid_iff (pinned : parsePolicySlotV1 input.pinnedPolicy = .ok ())
    (current : parsePolicySlotV1 input.currentPolicy = .ok ()) (observed : Observed input) :
    approvalValid input approval = .ok true ↔
      Approves input approval ∧ readable input.snapshots.issueObservationCursor := by
  rcases (slot_digest_iff input.pinnedPolicy).2 pinned with ⟨first, first_eq⟩
  rcases (slot_digest_iff input.currentPolicy).2 current with ⟨second, second_eq⟩
  simp only [approvalValid, first_eq, second_eq, ok_bind]
  split
  · rename_i unnamed
    constructor
    · exact fun never => by cases never
    · rintro ⟨approves, _⟩
      refine absurd ⟨approves.proposal, approves.base.1, approves.base.2, ?_, ?_,
        approves.approver, approves.other, approves.grant, approves.action⟩ unnamed
      · exact (Except.ok.inj (first_eq.symm.trans approves.pinnedPolicy)).symm
      · exact (Except.ok.inj (second_eq.symm.trans approves.currentPolicy)).symm
  · rename_i named
    rw [not_not] at named
    rcases named with ⟨proposal, revision, state, pinned, current, approver, other, grant, action⟩
    simp only [bind_ok_iff, same_cursor_ok_iff]
    constructor
    · rintro ⟨_, ⟨_, readable, rfl⟩, later⟩
      by_cases issued : approval.issueObservationCursor = input.snapshots.issueObservationCursor
      · simp only [issued, decide_true, not_true, if_false, bind_ok_iff, pure_ok_iff,
          same_cursor_ok_iff, Bool.and_eq_true] at later
        rcases later with ⟨_, ⟨_, _, rfl⟩, ⟨⟨evaluated, _⟩, reached⟩, before⟩
        rcases not_before_iff.1 reached with ⟨now, parsed, issuedAt, earlier, reached⟩
        refine ⟨⟨proposal, ⟨revision, state⟩, by rw [first_eq, pinned], by rw [second_eq, current],
          approver, other, grant, action, issued, of_decide_eq_true evaluated, ?_⟩, readable⟩
        rw [parsed] at before
        cases expires : Engine.dateParse approval.expiresAt with
        | none => simp [expires] at before
        | some expiresAt =>
            rw [expires] at before
            exact ⟨issuedAt, earlier, now, parsed, expiresAt, rfl, reached, of_decide_eq_true before⟩
      · simp [issued] at later
    · rintro ⟨approves, readable⟩
      rcases approves.current with ⟨issuedAt, earlier, now, parsed, expiresAt, later, reached, before⟩
      have ordered := cursor_not_after_iff.2 observed.ordered
      refine ⟨_, ⟨approves.issued ▸ readable, readable, rfl⟩, ?_⟩
      simp only [approves.issued, decide_true, not_true, if_false, bind_ok_iff, pure_ok_iff,
        same_cursor_ok_iff, Bool.and_eq_true]
      refine ⟨true, ⟨approves.evaluated ▸ observed.readable, observed.readable,
        by simp [approves.evaluated]⟩, ⟨⟨rfl, by rw [approves.evaluated, ordered]⟩,
          not_before_iff.2 ⟨now, parsed, issuedAt, earlier, reached⟩⟩, ?_⟩
      rw [Option.mem_def.1 parsed, Option.mem_def.1 later]
      exact decide_eq_true before

theorem approval_accepted_iff {combined : PolicyDecisionV1}
    (weighed : combined.result = .approvalRequired → Weighed combined) :
    (∃ decided, approvalDecision input combined = .ok decided ∧ decided.result = .accepted) ↔
      combined.result = .accepted ∨ combined.result = .approvalRequired ∧
        ∃ approval ∈ input.approval, approvalValid input approval = .ok true := by
  rw [approvalDecision]
  cases input.approval with
  | none => simp [pure, Except.pure, normalizeDecision]
  | some approval =>
      by_cases required : combined.result = .approvalRequired
      · have mild : ∀ explanation ∈ combined.explanations,
            (approveExplanation explanation).result = .accepted := by
          intro explanation member
          have bounded := (weighed required (rank .approvalRequired)).1 (by rw [required])
            explanation member
          rw [approveExplanation]
          cases result : explanation.result <;> rw [result] at bounded <;>
            first | rfl | exact absurd bounded (by decide) | simp [result]
        have clean : ∀ result, result ≠ .accepted → (combined.explanations.map
            approveExplanation).any (fun item => decide (item.result = result)) = false := by
          intro result other
          rw [List.any_eq_false]
          intro item member
          rcases List.mem_map.1 member with ⟨explanation, origin, rfl⟩
          rw [mild explanation origin, decide_eq_true_eq]
          exact Ne.symm other
        simp only [required, ne_eq, not_true, if_false, bind_ok_iff]
        constructor
        · rintro ⟨decided, ⟨valid, validated, decides⟩, accepted⟩
          cases valid with
          | true => exact .inr ⟨trivial, approval, rfl, validated⟩
          | false =>
              obtain rfl := (pure_ok_iff _ _).1 decides
              exact absurd (required.symm.trans accepted) (by decide)
        · rintro (impossible | ⟨_, other, found, validated⟩)
          · cases impossible
          · cases found
            refine ⟨_, ⟨true, validated, rfl⟩, ?_⟩
            simp [decision, normalizeDecision, clean .rejected (by decide),
              clean .quarantined (by decide)]
      · simp [required, pure, Except.pure, normalizeDecision]

end Approvals

section Acceptance

variable [Engine] {input : AdmissionEvaluationInputV1} {subject : RuleEvaluationInputV1}

/-- No precondition failed, the snapshots agree, the evidence of every rule that applies is met
and its effect mild enough, and where one requires an approval there is one. -/
structure Acceptable (input : AdmissionEvaluationInputV1) (subject : RuleEvaluationInputV1) :
    Prop where
  unconflicted : input.preconditionConflict = none
  observed : Observed input
  rules : ∀ document ∈ [input.pinnedPolicy, input.currentPolicy], ∀ rule,
    Applying document subject rule →
      (∀ requirement ∈ rule.evidence, Met subject.evidence requirement) ∧
        (rule.effect = .accepted ∨ rule.effect = .approvalRequired)
  approved : (∃ document ∈ [input.pinnedPolicy, input.currentPolicy], ∃ rule,
    Applying document subject rule ∧ rule.effect = .approvalRequired) →
      readable input.snapshots.issueObservationCursor ∧
        ∃ approval ∈ input.approval, Approves input approval

omit [Engine] in
theorem outcome_within_iff {evidence : List PresentedEvidenceV1} {rule : PolicyRuleV1}
    {bound : Nat} (low : bound < rank .quarantined) :
    rank (ruleOutcome (evidenceById evidence) rule).1 ≤ bound ↔
      (∀ requirement ∈ rule.evidence, Met evidence requirement) ∧ rank rule.effect ≤ bound := by
  rw [outcome_result, ← first_unmet_none_iff]
  cases firstUnmet evidence rule with
  | none => simp
  | some requirement =>
      have severe : ∀ flag : Bool, ¬rank (if flag then PolicyEffectV1.rejected
          else .quarantined) ≤ bound := by
        intro flag within
        have least : rank .quarantined ≤ rank (if flag then PolicyEffectV1.rejected
          else .quarantined) := by cases flag <;> decide
        omega
      simp [severe]

-- Both policies together are as severe as the severest outcome of a rule that applies.
theorem policies_within_iff {pinned current : PolicyDecisionV1}
    (first : evaluateDocument input.pinnedPolicy subject = .ok pinned)
    (second : evaluateDocument input.currentPolicy subject = .ok current) (bound : Nat) :
    rank (normalizeDecision (combinePolicyDecisions pinned current)).result ≤ bound ↔
      ∀ document ∈ [input.pinnedPolicy, input.currentPolicy], ∀ rule,
        Applying document subject rule →
          rank (ruleOutcome (evidenceById subject.evidence) rule).1 ≤ bound := by
  rw [normalizeDecision, combine_within_iff, (evaluated_outcomes first).2,
    (evaluated_outcomes second).2]
  simp

omit [Engine] in
theorem effect_mild_iff {effect : PolicyEffectV1} :
    rank effect ≤ rank .approvalRequired ↔ effect = .accepted ∨ effect = .approvalRequired := by
  cases effect <;> decide

/-- An input that parses is accepted exactly when it is acceptable. -/
theorem evaluation_accepted_iff (parsed : parseAdmissionEvaluationInputV1 input = .ok subject) :
    (∃ evaluation, evaluateAdmission input = .ok evaluation ∧ evaluation.result = .accepted) ↔
      Acceptable input subject := by
  rcases parsed_subject parsed with ⟨pinnedSealed, currentSealed, pointers, cursor, clock⟩
  rcases (slot_digest_iff input.pinnedPolicy).2 pinnedSealed with ⟨pinnedDigest, firstDigest⟩
  rcases (slot_digest_iff input.currentPolicy).2 currentSealed with ⟨currentDigest, secondDigest⟩
  rcases document_answers pinnedSealed pointers with ⟨pinned, first⟩
  rcases document_answers currentSealed pointers with ⟨current, second⟩
  have within := policies_within_iff first second
  have weighed := normalize_weighed (combine_weighed (evaluated_outcomes first).1
    (evaluated_outcomes second).1)
  set policies := normalizeDecision (combinePolicyDecisions pinned current) with policies_eq
  -- What is accepted by both policies, or up to an approval.
  have mild : policies.result = .accepted ∨ policies.result = .approvalRequired ↔
      ∀ document ∈ [input.pinnedPolicy, input.currentPolicy], ∀ rule,
        Applying document subject rule →
          (∀ requirement ∈ rule.evidence, Met subject.evidence requirement) ∧
            (rule.effect = .accepted ∨ rule.effect = .approvalRequired) := by
    rw [← effect_mild_iff, within]
    simp only [outcome_within_iff (by decide : rank .approvalRequired < rank .quarantined),
      effect_mild_iff]
  simp only [evaluateAdmission, parsed, firstDigest, secondDigest, ok_bind]
  cases conflict : input.preconditionConflict with
  | some reason =>
      constructor
      · rintro ⟨evaluation, evaluates, accepted⟩
        obtain rfl := (pure_ok_iff _ _).1 evaluates
        cases accepted
      · exact fun acceptable => by cases conflict.symm.trans acceptable.unconflicted
  | none =>
      simp only [first, second, ok_bind, ← policies_eq, bind_ok_iff, pure_ok_iff]
      constructor
      · rintro ⟨_, ⟨snapshot, found, combined, decides, rfl⟩, accepted⟩
        have decided : combined.result = .accepted := by
          cases result : combined.result <;> rw [result] at accepted <;> first | rfl | cases accepted
        cases snapshot with
        | some finding =>
            have severe := snapshot_severe found
            have outside : ¬rank (normalizeDecision
                (combinePolicyDecisions policies finding)).result ≤ rank .approvalRequired := by
              rw [normalizeDecision, combine_within_iff]
              exact fun within => absurd (severe.trans within.2) (by decide)
            rw [effect_mild_iff, not_or] at outside
            rcases (approval_accepted_iff fun required => absurd required outside.2).1
              ⟨combined, decides, decided⟩ with plain | ⟨required, _⟩
            · exact absurd plain outside.1
            · exact absurd required outside.2
        | none =>
            have observed := (snapshot_none_iff currentSealed clock).1 found
            rcases (approval_accepted_iff fun _ => weighed).1 ⟨combined, decides, decided⟩ with
              plain | ⟨required, approval, given, valid⟩
            · refine ⟨conflict, observed, mild.1 (.inl plain), ?_⟩
              rintro ⟨document, member, rule, applying, effect⟩
              have low := (within (rank .accepted)).1 (by rw [plain]) document member rule applying
              rw [outcome_within_iff (by decide), effect] at low
              exact absurd low.2 (by decide)
            · have approves := (approval_valid_iff pinnedSealed currentSealed observed).1 valid
              exact ⟨conflict, observed, mild.1 (.inr required),
                fun _ => ⟨approves.2, approval, given, approves.1⟩⟩
      · intro acceptable
        have quiet := (snapshot_none_iff currentSealed clock).2 acceptable.observed
        suffices decided : ∃ decided, approvalDecision input policies = .ok decided ∧
            decided.result = .accepted by
          rcases decided with ⟨combined, decides, accepted⟩
          exact ⟨_, ⟨none, quiet, combined, decides, rfl⟩, by rw [accepted]; rfl⟩
        rw [approval_accepted_iff fun _ => weighed]
        refine (mild.2 acceptable.rules).imp id fun required => ⟨required, ?_⟩
        have demanded : ∃ document ∈ [input.pinnedPolicy, input.currentPolicy], ∃ rule,
            Applying document subject rule ∧ rule.effect = .approvalRequired := by
          by_contra absent
          have low : rank policies.result ≤ rank .accepted := by
            refine (within _).2 fun document member rule applying => ?_
            have kept := acceptable.rules document member rule applying
            refine (outcome_within_iff (by decide)).2 ⟨kept.1, ?_⟩
            rcases kept.2 with effect | effect
            · rw [effect]
            · exact absurd ⟨document, member, rule, applying, effect⟩ absent
          rw [required] at low
          exact absurd low (by decide)
        rcases acceptable.approved demanded with ⟨readable, approval, given, approves⟩
        exact ⟨approval, given,
          (approval_valid_iff pinnedSealed currentSealed acceptable.observed).2 ⟨approves, readable⟩⟩

end Acceptance

section Recorded

def askingPolicy : PolicySlotV1 :=
  .document ⟨⟨js "p", 0, none,
      [⟨js "ask", ⟨none, none, none⟩, .approvalRequired, [], []⟩]⟩,
    js "ca6df9b2d18e3c8403eede7a7f44feb45da784a4bdf6ebc945582f47265aa521"⟩

def acceptanceDigests : List (JsString × JsString) :=
  [(js "horseness.policy.v1" ++ 0 :: js "\x7b\"kind\":\"policy\",\"policyId\":\"p\",\"predecessorDigest\":null,\"revision\":0,\"rules\":[\x7b\"constraints\":[],\"effect\":\"approval_required\",\"evidence\":[],\"ruleId\":\"ask\",\"subject\":\x7b\"action\":null,\"pathPrefix\":null,\"version\":null\x7d\x7d],\"schemaVersion\":\"1\"\x7d",
      js "ca6df9b2d18e3c8403eede7a7f44feb45da784a4bdf6ebc945582f47265aa521"),
    (js "horseness.policy.v1" ++ 0 :: js "\x7b\"kind\":\"no-policy\",\"rules\":[],\"schemaVersion\":\"1\"\x7d",
      js "4923eb38d35bf7aeae966f02e7071e9bcd2d673851f8436545176365c3bc36de")]

@[reducible] def acceptanceEngine : Engine :=
  { recordedEngine with
    sha256Hex := IdealDigests.tableDigest acceptanceDigests
    dateParse := fun text =>
      ((js "2026-01-01T00:00:00Z", 1767225600000) ::
        (js "2026-01-01T00:00:01Z", 1767225601000) :: recordedTimes).lookup text }

attribute [local instance] acceptanceEngine

def sampleCursor (runId : JsString) : CompositeCursorV1 where
  workspaceId := js "w"
  workspaceSequence := 1
  workspaceEnvelopeHash := js "h"
  workspaceContextEpoch := 0
  runId := runId
  runSequence := 1
  runEnvelopeHash := js "g"
  runContextEpoch := 0

def sampleInput (runId : JsString) (pinned : PolicySlotV1) (approval : Option ApprovalBindingV1) :
    AdmissionEvaluationInputV1 where
  proposalDigest := js "proposal"
  proposalAuthorPrincipalId := js "author"
  baseRevision := 0
  baseStateHash := js "state"
  action := js "apply"
  paths := [js "/title"]
  version := js "1"
  pinnedPolicy := pinned
  currentPolicy := .noPolicy
  evidence := []
  snapshots := ⟨sampleCursor runId, sampleCursor runId, js "grant", js "grant", js "quota",
    js "quota", true, js "approver"⟩
  evaluationClock := ⟨js "2026-01-01T00:00:00Z", .composite (sampleCursor runId)⟩
  approval := approval
  preconditionConflict := none

def sampleApproval : ApprovalBindingV1 where
  approvalId := js "approval"
  proposalDigest := js "proposal"
  baseRevision := 0
  baseStateHash := js "state"
  pinnedPolicyDigest := js "ca6df9b2d18e3c8403eede7a7f44feb45da784a4bdf6ebc945582f47265aa521"
  currentPolicyDigest := noPolicyDigest
  approverPrincipalId := js "approver"
  approverGrantDigest := js "grant"
  allowedAction := js "apply"
  issueObservationCursor := sampleCursor (js "r")
  evaluationObservationCursor := sampleCursor (js "r")
  issuedAt := js "2026-01-01T00:00:00Z"
  expiresAt := js "2026-01-01T00:00:01Z"

/-- An approval of another principal makes the proposal acceptable that asks for one. -/
theorem approved_input_acceptable : ∃ subject,
    parseAdmissionEvaluationInputV1 (sampleInput (js "r") askingPolicy (some sampleApproval)) =
      .ok subject ∧
    Acceptable (sampleInput (js "r") askingPolicy (some sampleApproval)) subject := by
  have computed : endsIn (fun _ => true) (parseAdmissionEvaluationInputV1
        (sampleInput (js "r") askingPolicy (some sampleApproval))) = true ∧
      endsIn (fun evaluation => evaluation.result = .accepted) (evaluateAdmission
        (sampleInput (js "r") askingPolicy (some sampleApproval))) = true := by decide +kernel
  rcases ends_in_exists computed.1 with ⟨subject, parsed, _⟩
  rcases ends_in_exists computed.2 with ⟨evaluation, evaluates, accepted⟩
  exact ⟨subject, parsed,
    (evaluation_accepted_iff parsed).1 ⟨evaluation, evaluates, of_decide_eq_true accepted⟩⟩

/-- A run whose identifier is a lone surrogate: nothing stands in the way, and the comparison of
its cursors refuses the evaluation. -/
theorem lone_surrogate_refused : ∃ subject,
    parseAdmissionEvaluationInputV1 (sampleInput [0xD800] .noPolicy none) = .ok subject ∧
    (sampleInput [0xD800] .noPolicy none).preconditionConflict = none ∧
    .composite (sampleInput [0xD800] .noPolicy none).snapshots.evaluationObservationCursor =
      (sampleInput [0xD800] .noPolicy none).evaluationClock.observationCursor ∧
    NotAfter (sampleInput [0xD800] .noPolicy none).snapshots.issueObservationCursor
      (sampleInput [0xD800] .noPolicy none).snapshots.evaluationObservationCursor ∧
    (sampleInput [0xD800] .noPolicy none).snapshots.expectedGrantDigest =
      (sampleInput [0xD800] .noPolicy none).snapshots.observedGrantDigest ∧
    (sampleInput [0xD800] .noPolicy none).snapshots.expectedQuotaDigest =
      (sampleInput [0xD800] .noPolicy none).snapshots.observedQuotaDigest ∧
    (sampleInput [0xD800] .noPolicy none).snapshots.quotaAvailable = true ∧
    (∀ document ∈ [(sampleInput [0xD800] .noPolicy none).pinnedPolicy,
      (sampleInput [0xD800] .noPolicy none).currentPolicy], rulesOf document = []) ∧
    evaluateAdmission (sampleInput [0xD800] .noPolicy none) = .error .invalidUnicode := by
  have computed : endsIn (fun _ => true)
        (parseAdmissionEvaluationInputV1 (sampleInput [0xD800] .noPolicy none)) = true ∧
      failsWith .invalidUnicode (evaluateAdmission (sampleInput [0xD800] .noPolicy none)) = true := by
    decide +kernel
  rcases ends_in_exists computed.1 with ⟨subject, parsed, _⟩
  refine ⟨subject, parsed, rfl, rfl, ⟨rfl, rfl, .inl ⟨rfl, rfl, rfl⟩, .inl ⟨rfl, rfl, rfl⟩⟩, rfl,
    rfl, rfl, ?_, fails_with_eq computed.2⟩
  decide

end Recorded

end Horseness.AdmissionAcceptance
