import Horseness.PolicyEvaluation
import Horseness.IdealDigests

/-!
How severe a decision is. The result of every decision is the severest of its explanations, and
a rule whose evidence is not met is explained by the first requirement that fails.
-/

namespace Horseness.RuleSeverity

open FallibleRuns ScriptText ScriptEngine PolicyDocuments PolicyEvaluation RecordedRuns

section Ranks

theorem rank_injective : Function.Injective rank := by
  intro left right same
  cases left <;> cases right <;> first | rfl | cases same

theorem rank_le_rejected (effect : PolicyEffectV1) : rank effect ≤ rank .rejected := by
  cases effect <;> decide

theorem rank_le_quarantined_iff {effect : PolicyEffectV1} :
    rank effect ≤ rank .quarantined ↔ effect ≠ .rejected := by
  cases effect <;> decide

-- The severest outcome is within a bound exactly when all of them are.
theorem severest_le_iff (outcomes : List PolicyEffectV1) (bound : Nat) :
    rank (severest outcomes) ≤ bound ↔ ∀ outcome ∈ outcomes, rank outcome ≤ bound := by
  have folded : ∀ start : PolicyEffectV1, rank (outcomes.foldl (fun most current =>
      if rank most < rank current then current else most) start) ≤ bound ↔
        rank start ≤ bound ∧ ∀ outcome ∈ outcomes, rank outcome ≤ bound := by
    induction outcomes with
    | nil => simp
    | cons outcome rest ih =>
        intro start
        rw [List.foldl_cons, ih, List.forall_mem_cons]
        by_cases worse : rank start < rank outcome
        · rw [if_pos worse]
          constructor
          · exact fun within => ⟨by omega, within⟩
          · exact fun within => within.2
        · rw [if_neg worse]
          constructor
          · exact fun within => ⟨within.1, by omega, within.2⟩
          · exact fun within => ⟨within.1, within.2.2⟩
  rw [severest, folded]
  simp [rank]

def Weighed (decision : PolicyDecisionV1) : Prop :=
  ∀ bound, rank decision.result ≤ bound ↔
    ∀ explanation ∈ decision.explanations, rank explanation.result ≤ bound

theorem mem_sort_iff (items : List AdmissionExplanationV1) (item : AdmissionExplanationV1) :
    item ∈ sortExplanations items ↔ item ∈ items := List.mem_insertionSort _

theorem normalize_weighed {value : PolicyDecisionV1} (weighed : Weighed value) :
    Weighed (normalizeDecision value) := by
  intro bound
  rw [normalizeDecision, weighed bound]
  simp only [mem_sort_iff]

theorem combine_within_iff [Engine] {pinned current : PolicyDecisionV1} {bound : Nat} :
    rank (combinePolicyDecisions pinned current).result ≤ bound ↔
      rank pinned.result ≤ bound ∧ rank current.result ≤ bound := by
  by_cases stricter : rank current.result ≤ rank pinned.result
  · simp only [combinePolicyDecisions, if_pos stricter]
    omega
  · simp only [combinePolicyDecisions, if_neg stricter]
    omega

theorem combine_weighed [Engine] {pinned current : PolicyDecisionV1} (first : Weighed pinned)
    (second : Weighed current) : Weighed (combinePolicyDecisions pinned current) := by
  intro bound
  rw [combine_within_iff, first bound, second bound]
  simp only [combinePolicyDecisions, List.mem_insertionSort, List.mem_append]
  constructor
  · rintro ⟨left, right⟩ item (member | member)
    · exact left item member
    · exact right item member
  · exact fun all => ⟨fun item member => all item (.inl member),
      fun item member => all item (.inr member)⟩

end Ranks

section Requirements

variable {evidence : List PresentedEvidenceV1} {rule : PolicyRuleV1}

def presented (evidence : List PresentedEvidenceV1) (requirement : EvidenceRequirementV1) :
    Option PresentedEvidenceV1 := (evidenceById evidence).get requirement.evidenceId

def Met (evidence : List PresentedEvidenceV1) (requirement : EvidenceRequirementV1) : Prop :=
  ∃ item ∈ presented evidence requirement, item.digest = requirement.digest ∧
    item.path = requirement.path ∧ item.version = requirement.version

instance (evidence : List PresentedEvidenceV1) : DecidablePred (Met evidence) := fun requirement =>
  inferInstanceAs (Decidable (∃ item ∈ presented evidence requirement, _))

def firstUnmet (evidence : List PresentedEvidenceV1) (rule : PolicyRuleV1) :
    Option EvidenceRequirementV1 :=
  rule.evidence.find? fun requirement => ¬Met evidence requirement

theorem failure_none_iff (requirement : EvidenceRequirementV1) :
    requirementFailure (evidenceById evidence) requirement = none ↔ Met evidence requirement := by
  simp only [requirementFailure, Met, presented]
  cases (evidenceById evidence).get requirement.evidenceId with
  | none => simp
  | some item =>
      simp only [Option.mem_def, Option.some.injEq, exists_eq_left']
      split
      · simp_all
      · split
        · simp_all
        · split <;> simp_all

-- What is missing is quarantined, what is substituted is rejected.
theorem failure_result {requirement : EvidenceRequirementV1} {failure : PolicyEffectV1 × JsString}
    (failed : requirementFailure (evidenceById evidence) requirement = some failure) :
    failure.1 = if (presented evidence requirement).isSome then .rejected else .quarantined := by
  simp only [requirementFailure] at failed
  split at failed
  · rename_i absent
    rw [presented, absent, ← Option.some.inj failed]
    rfl
  · rename_i item found
    rw [presented, found, Option.isSome_some, if_pos rfl]
    repeat' split at failed
    · rw [← Option.some.inj failed]
    · rw [← Option.some.inj failed]
    · rw [← Option.some.inj failed]
    · cases failed

theorem first_unmet_none_iff :
    firstUnmet evidence rule = none ↔ ∀ requirement ∈ rule.evidence, Met evidence requirement := by
  simp [firstUnmet]

-- The first requirement that is not met decides; a rule whose are all met has its effect.
theorem outcome_result : (ruleOutcome (evidenceById evidence) rule).1 =
    match firstUnmet evidence rule with
    | none => rule.effect
    | some requirement =>
        if (presented evidence requirement).isSome then .rejected else .quarantined := by
  simp only [ruleOutcome, firstUnmet]
  induction rule.evidence with
  | nil => rfl
  | cons requirement rest ih =>
      by_cases met : Met evidence requirement
      · have quiet := (failure_none_iff requirement).2 met
        simp only [List.findSome?_cons, quiet, List.find?_cons, met, not_true, decide_false]
        exact ih
      · cases failed : requirementFailure (evidenceById evidence) requirement with
        | none => exact absurd ((failure_none_iff requirement).1 failed) met
        | some failure =>
            simp only [List.findSome?_cons, failed, List.find?_cons, met, not_false_eq_true,
              decide_true, Option.getD_some]
            exact failure_result failed

/-- A rule rejects by its effect, where its evidence is met, and by other evidence than the first
requirement asks for that is not met. -/
def Rejects (evidence : List PresentedEvidenceV1) (rule : PolicyRuleV1) : Prop :=
  firstUnmet evidence rule = none ∧ rule.effect = .rejected ∨
    ∃ requirement ∈ firstUnmet evidence rule, (presented evidence requirement).isSome = true

instance (evidence : List PresentedEvidenceV1) : DecidablePred (Rejects evidence) := fun rule =>
  inferInstanceAs (Decidable (_ ∨ ∃ requirement ∈ firstUnmet evidence rule, _))

theorem outcome_rejected_iff :
    (ruleOutcome (evidenceById evidence) rule).1 = .rejected ↔ Rejects evidence rule := by
  rw [outcome_result, Rejects]
  cases firstUnmet evidence rule with
  | none => simp
  | some requirement => cases found : (presented evidence requirement).isSome <;> simp [found]

theorem outcome_floor (milder : rule.effect ≠ .rejected) :
    rank rule.effect ≤ rank (ruleOutcome (evidenceById evidence) rule).1 := by
  rw [outcome_result]
  split
  · exact Nat.le_refl _
  · split
    · exact rank_le_rejected _
    · exact rank_le_quarantined_iff.2 milder

end Requirements

section Documents

variable [Engine] {document : PolicySlotV1} {input : RuleEvaluationInputV1}
  {evaluated : PolicyDecisionV1}

def rulesOf : PolicySlotV1 → List PolicyRuleV1
  | .document policy => policy.core.rules
  | .noPolicy => []

def Applying (document : PolicySlotV1) (input : RuleEvaluationInputV1) (rule : PolicyRuleV1) :
    Prop := rule ∈ rulesOf document ∧ applies rule input = .ok true

omit [Engine] in
theorem decision_weighed {result : PolicyEffectV1} {constraints : List JsString}
    {explanations : List AdmissionExplanationV1} (weighed : ∀ bound, rank result ≤ bound ↔
      ∀ explanation ∈ explanations, rank explanation.result ≤ bound) :
    Weighed (decision result constraints explanations) := normalize_weighed weighed

-- A document is evaluated to the severest outcome of the rules that apply.
theorem evaluated_outcomes (evaluates : evaluateDocument document input = .ok evaluated) :
    Weighed evaluated ∧ ∀ bound, rank evaluated.result ≤ bound ↔
      ∀ rule, Applying document input rule →
        rank (ruleOutcome (evidenceById input.evidence) rule).1 ≤ bound := by
  simp only [evaluateDocument, bind_ok_iff] at evaluates
  rcases evaluates with ⟨_, _, digest, _, evaluates⟩
  cases document with
  | noPolicy =>
      obtain rfl := (pure_ok_iff _ _).1 evaluates
      refine ⟨decision_weighed (by simp), fun bound => ?_⟩
      simp [decision, normalizeDecision, Applying, rulesOf, rank]
  | document policy =>
      rcases bind_ok_iff.1 evaluates with ⟨kept, filtered, evaluates⟩
      rcases (filterM_ok_iff _ _ _).1 filtered with ⟨asked, kept_eq⟩
      have members : ∀ rule, rule ∈ kept ↔ Applying (.document policy) input rule := by
        intro rule
        rw [kept_eq, List.mem_filter, Applying, rulesOf]
        refine and_congr_right fun member => ?_
        rcases asked rule member with ⟨answer, asked⟩
        simp [asked, endsIn]
      simp only [← members]
      split at evaluates
      · rename_i empty
        obtain rfl := (pure_ok_iff _ _).1 evaluates
        refine ⟨decision_weighed (by simp), fun bound => ?_⟩
        simp [decision, normalizeDecision, rank, empty]
      · obtain rfl := (pure_ok_iff _ _).1 evaluates
        refine ⟨decision_weighed fun bound => ?_, fun bound => ?_⟩
        · rw [severest_le_iff]
          simp [ruleExplanation]
        · rw [decision, normalizeDecision, severest_le_iff]
          simp

/-- Where a rule that rejects applies, some rule is to reject on the evidence that is presented. -/
def RejectionKept (document : PolicySlotV1) (input : RuleEvaluationInputV1) : Prop :=
  (∃ rule, Applying document input rule ∧ rule.effect = .rejected) →
    ∃ rule, Applying document input rule ∧ Rejects input.evidence rule

end Documents

section Recorded

def ticketRule : PolicyRuleV1 :=
  ⟨js "deny", ⟨none, none, none⟩, .rejected, [], [⟨js "ticket", js "d", js "/ticket", js "1"⟩]⟩

def ticketPolicy : PolicySlotV1 :=
  .document ⟨⟨js "p", 0, none, [ticketRule]⟩,
    js "1d840d8407c579df8bd3f03400c800d6b47246c807c14be6741f0d1df3f7dfb8"⟩

def ticketDigests : List (JsString × JsString) :=
  [(js "horseness.policy.v1" ++ 0 :: js "\x7b\"kind\":\"policy\",\"policyId\":\"p\",\"predecessorDigest\":null,\"revision\":0,\"rules\":[\x7b\"constraints\":[],\"effect\":\"rejected\",\"evidence\":[\x7b\"digest\":\"d\",\"evidenceId\":\"ticket\",\"path\":\"/ticket\",\"version\":\"1\"\x7d],\"ruleId\":\"deny\",\"subject\":\x7b\"action\":null,\"pathPrefix\":null,\"version\":null\x7d\x7d],\"schemaVersion\":\"1\"\x7d",
      js "1d840d8407c579df8bd3f03400c800d6b47246c807c14be6741f0d1df3f7dfb8")]

@[reducible] def ticketEngine : Engine :=
  { recordedEngine with sha256Hex := IdealDigests.tableDigest ticketDigests }

attribute [local instance] ticketEngine

def changing (evidence : List PresentedEvidenceV1) : RuleEvaluationInputV1 :=
  ⟨js "apply", [js "/title"], js "1", evidence⟩

def ticketItem (digest : JsString) : PresentedEvidenceV1 :=
  ⟨js "ticket", digest, js "/ticket", js "1"⟩

instance ticket_evaluated : Fact ((endsIn (fun evaluated => rank evaluated.result < rank .rejected)
        (evaluateDocument ticketPolicy (changing [])) = true ∧
      applies ticketRule (changing []) = .ok true) ∧
    ∀ digest ∈ [js "d", js "other"],
      endsIn (fun _ => true) (evaluateDocument ticketPolicy (changing [ticketItem digest])) = true ∧
      applies ticketRule (changing [ticketItem digest]) = .ok true ∧
      Rejects (changing [ticketItem digest]).evidence ticketRule) := ⟨by decide +kernel⟩

end Recorded

end Horseness.RuleSeverity
