import Mathlib.Data.List.Lex
import Horseness.PolicyDocuments
import Horseness.EventPayloads

/-!
The evaluation of a proposal under the policy of its fork and the current policy. The input
is parsed first. A precondition that failed decides alone; otherwise the stricter of both
policies and of the authority snapshots decides, and an approval may stand in for a rule
that requires one.
-/

namespace Horseness.PolicyEvaluation

open FallibleRuns Records ScriptText JsonValues ScriptEngine Canonical Cursors Delta EventPayloads
  PolicyDocuments

section Inputs

structure PresentedEvidenceV1 where
  evidenceId : JsString
  digest : JsString
  path : JsString
  version : JsString
  deriving DecidableEq

structure SnapshotExpectationV1 where
  issueObservationCursor : CompositeCursorV1
  evaluationObservationCursor : CompositeCursorV1
  expectedGrantDigest : JsString
  observedGrantDigest : JsString
  expectedQuotaDigest : JsString
  observedQuotaDigest : JsString
  quotaAvailable : Bool
  authenticatedApproverPrincipalId : JsString

structure ApprovalBindingV1 where
  approvalId : JsString
  proposalDigest : JsString
  baseRevision : Nat
  baseStateHash : JsString
  pinnedPolicyDigest : JsString
  currentPolicyDigest : JsString
  approverPrincipalId : JsString
  approverGrantDigest : JsString
  allowedAction : JsString
  issueObservationCursor : CompositeCursorV1
  evaluationObservationCursor : CompositeCursorV1
  issuedAt : JsString
  expiresAt : JsString

/-- Evidence comes as it is stored, with the fields that it happens to have. -/
structure AdmissionEvaluationInputV1 where
  proposalDigest : JsString
  proposalAuthorPrincipalId : JsString
  baseRevision : Nat
  baseStateHash : JsString
  action : JsString
  paths : List JsString
  version : JsString
  pinnedPolicy : PolicySlotV1
  currentPolicy : PolicySlotV1
  evidence : List JsValue
  snapshots : SnapshotExpectationV1
  evaluationClock : EvaluationClockV1
  approval : Option ApprovalBindingV1
  preconditionConflict : Option JsString

/-- What the rules of a policy are about. -/
structure RuleEvaluationInputV1 where
  action : JsString
  paths : List JsString
  version : JsString
  evidence : List PresentedEvidenceV1

end Inputs

section Decisions

structure AdmissionExplanationV1 where
  policyDigest : JsString
  ruleId : JsString
  subject : JsString
  result : PolicyEffectV1
  code : JsString
  deriving DecidableEq

structure PolicyDecisionV1 where
  result : PolicyEffectV1
  constraints : List JsString
  explanations : List AdmissionExplanationV1
  deriving DecidableEq

structure AdmissionEvaluationV1 where
  result : AdmissionDecisionStateV1
  constraints : List JsString
  explanations : List AdmissionExplanationV1
  pinnedPolicyDigest : JsString
  currentPolicyDigest : JsString
  evaluationObservationCursor : CompositeCursorV1
  authorityTime : JsString

def PolicyEffectV1.state : PolicyEffectV1 → AdmissionDecisionStateV1
  | .accepted => .accepted
  | .rejected => .rejected
  | .quarantined => .quarantined
  | .approvalRequired => .approvalRequired

def AdmissionExplanationV1.toJson (explanation : AdmissionExplanationV1) : JsValue :=
  object [("policyDigest", .str explanation.policyDigest), ("ruleId", .str explanation.ruleId),
    ("subject", .str explanation.subject), ("result", .str explanation.result.text),
    ("code", .str explanation.code)]

def AdmissionEvaluationV1.toJson (evaluation : AdmissionEvaluationV1) : JsValue :=
  object [("schemaVersion", .str (js "1")), ("result", .str evaluation.result.text),
    ("constraints", texts evaluation.constraints),
    ("explanations", .arr (evaluation.explanations.map AdmissionExplanationV1.toJson)),
    ("pinnedPolicyDigest", .str evaluation.pinnedPolicyDigest),
    ("currentPolicyDigest", .str evaluation.currentPolicyDigest),
    ("evaluationObservationCursor", evaluation.evaluationObservationCursor.toJson),
    ("authorityTime", .str evaluation.authorityTime)]

def rank : PolicyEffectV1 → Nat
  | .accepted => 0
  | .approvalRequired => 1
  | .quarantined => 2
  | .rejected => 3

def explanationKey (item : AdmissionExplanationV1) : List (List Nat) :=
  [utf8 item.policyDigest, utf8 item.ruleId, utf8 item.subject, utf8 item.result.text,
    utf8 item.code]

def sortExplanations (items : List AdmissionExplanationV1) : List AdmissionExplanationV1 :=
  items.insertionSort fun left right => explanationKey left ≤ explanationKey right

def sortConstraints (constraints : List JsString) : List JsString :=
  constraints.eraseDups.insertionSort fun left right => utf8 left ≤ utf8 right

def normalizeDecision (value : PolicyDecisionV1) : PolicyDecisionV1 :=
  ⟨value.result, sortConstraints value.constraints, sortExplanations value.explanations⟩

end Decisions

section Parsing

/-- `Object.keys` of a plain object are these, in any order. -/
def exactKeys (keys : List String) (fields : List (JsString × JsValue)) : Prop :=
  (sortFields fields).map Prod.fst = (keys.map js).insertionSort (· ≤ ·)

instance (keys : List String) (fields : List (JsString × JsValue)) :
    Decidable (exactKeys keys fields) :=
  inferInstanceAs (Decidable (_ = _))

def evidenceKeys : List String := ["evidenceId", "digest", "path", "version"]

def presentedEvidence (evidence : JsValue) : Except DomainError PresentedEvidenceV1 := do
  match evidence with
  | .obj .object fields => do
      ensure (exactKeys evidenceKeys fields) .policyInputInvalid
      let evidenceId ← required (textField (js "evidenceId") fields) .policyInputInvalid
      nonEmpty evidenceId .policyInputInvalid
      let digest ← required (textField (js "digest") fields) .policyInputInvalid
      nonEmpty digest .policyInputInvalid
      let version ← required (textField (js "version") fields) .policyInputInvalid
      nonEmpty version .policyInputInvalid
      let path ← required (textField (js "path") fields) .policyInputInvalid
      pointerText path .policyInputInvalid
      return ⟨evidenceId, digest, path, version⟩
  | _ => .error .policyInputInvalid

def policyPaths (paths : List JsString) : Except DomainError Unit := do
  ensure (paths ≠ []) .policyInputInvalid
  paths.forM (pointerText · .policyInputInvalid)
  orderedIds paths .policyInputInvalid

variable [Engine]

def canonicalSecond (value : JsString) (code : DomainError) : Except DomainError Unit :=
  ensure (canonicalTimestamp value = true ∧ value.length = 20) code

def composite (cursor : ObservationCursorV1) : Except DomainError Unit := do
  parseObservationCursorV1 cursor
  ensure (cursor.isComposite = true) .policyCursorInvalid

def validatePolicySubject (action version : JsString) (paths : List JsString)
    (pinnedPolicy currentPolicy : PolicySlotV1) (evidence : List JsValue) :
    Except DomainError RuleEvaluationInputV1 := do
  nonEmpty action .policyInputInvalid
  nonEmpty version .policyInputInvalid
  policyPaths paths
  parsePolicySlotV1 pinnedPolicy
  parsePolicySlotV1 currentPolicy
  let presented ← evidence.mapM presentedEvidence
  orderedIds (presented.map PresentedEvidenceV1.evidenceId) .policyInputInvalid
  return ⟨action, paths, version, presented⟩

def validateEvaluationClock (clock : EvaluationClockV1) : Except DomainError Unit := do
  canonicalSecond clock.authorityTime .policyClockInvalid
  composite clock.observationCursor

/-- `Date.parse(left) >= Date.parse(right)`. -/
def notBefore (left right : JsString) : Bool :=
  match Engine.dateParse left, Engine.dateParse right with
  | some later, some earlier => earlier ≤ later
  | _, _ => false

def SnapshotExpectationV1.parse (snapshots : SnapshotExpectationV1) : Except DomainError Unit := do
  composite (.composite snapshots.issueObservationCursor)
  composite (.composite snapshots.evaluationObservationCursor)
  [snapshots.expectedGrantDigest, snapshots.observedGrantDigest, snapshots.expectedQuotaDigest,
    snapshots.observedQuotaDigest, snapshots.authenticatedApproverPrincipalId].forM
    (nonEmpty · .policyInputInvalid)

def ApprovalBindingV1.parse (approval : ApprovalBindingV1) : Except DomainError Unit := do
  [approval.approvalId, approval.proposalDigest, approval.baseStateHash,
    approval.pinnedPolicyDigest, approval.currentPolicyDigest, approval.approverPrincipalId,
    approval.approverGrantDigest, approval.allowedAction].forM (nonEmpty · .policyApprovalInvalid)
  naturalCheck approval.baseRevision .policyApprovalInvalid
  composite (.composite approval.issueObservationCursor)
  composite (.composite approval.evaluationObservationCursor)
  canonicalSecond approval.issuedAt .policyApprovalInvalid
  canonicalSecond approval.expiresAt .policyApprovalInvalid
  ensure (notBefore approval.issuedAt approval.expiresAt = false) .policyApprovalInvalid

def parseAdmissionEvaluationInputV1 (input : AdmissionEvaluationInputV1) :
    Except DomainError RuleEvaluationInputV1 := do
  [input.proposalDigest, input.proposalAuthorPrincipalId, input.baseStateHash].forM
    (nonEmpty · .policyInputInvalid)
  naturalCheck input.baseRevision .policyInputInvalid
  let subject ← validatePolicySubject input.action input.version input.paths input.pinnedPolicy
    input.currentPolicy input.evidence
  input.snapshots.parse
  validateEvaluationClock input.evaluationClock
  input.approval.toList.forM ApprovalBindingV1.parse
  nullableText input.preconditionConflict .policyInputInvalid
  return subject

end Parsing

section Rules

def subjectKey (rule : PolicyRuleV1) : JsString :=
  rule.subject.action.getD (js "*") ++ js "|" ++ rule.subject.pathPrefix.getD (js "*") ++
    js "|" ++ rule.subject.version.getD (js "*")

def applies (rule : PolicyRuleV1) (input : RuleEvaluationInputV1) : Except DomainError Bool :=
  if (∀ action ∈ rule.subject.action, action = input.action) ∧
      ∀ version ∈ rule.subject.version, version = input.version then
    match rule.subject.pathPrefix with
    | none => .ok true
    | some root => input.paths.anyM
        (scopeContains ⟨js "policy", js "policy", js "policy", [root]⟩)
  else .ok false

/-- What a requirement makes of a rule whose evidence does not meet it. -/
def requirementFailure (evidence : Record JsString PresentedEvidenceV1)
    (requirement : EvidenceRequirementV1) : Option (PolicyEffectV1 × JsString) :=
  match evidence.get requirement.evidenceId with
  | none => some (.quarantined, js "EVIDENCE_MISSING")
  | some observed =>
      if observed.digest ≠ requirement.digest then
        some (.rejected, js "EVIDENCE_DIGEST_SUBSTITUTED")
      else if observed.path ≠ requirement.path then
        some (.rejected, js "EVIDENCE_PATH_SUBSTITUTED")
      else if observed.version ≠ requirement.version then
        some (.rejected, js "EVIDENCE_VERSION_SUBSTITUTED")
      else none

def ruleCode : PolicyEffectV1 → JsString
  | .accepted => js "RULE_ACCEPTED"
  | .rejected => js "RULE_REJECTED"
  | .quarantined => js "RULE_QUARANTINED"
  | .approvalRequired => js "RULE_APPROVAL_REQUIRED"

/-- The first requirement that is not met decides; a rule whose are all met has its effect. -/
def ruleOutcome (evidence : Record JsString PresentedEvidenceV1) (rule : PolicyRuleV1) :
    PolicyEffectV1 × JsString :=
  (rule.evidence.findSome? (requirementFailure evidence)).getD (rule.effect, ruleCode rule.effect)

def evidenceById (evidence : List PresentedEvidenceV1) : Record JsString PresentedEvidenceV1 :=
  Record.ofEntries (evidence.map fun item => (item.evidenceId, item))

def decision (result : PolicyEffectV1) (constraints : List JsString)
    (explanations : List AdmissionExplanationV1) : PolicyDecisionV1 :=
  normalizeDecision ⟨result, constraints, explanations⟩

/-- `outcomes.reduce(…, "accepted")`: the first of the highest rank. -/
def severest (outcomes : List PolicyEffectV1) : PolicyEffectV1 :=
  outcomes.foldl (fun most current => if rank most < rank current then current else most) .accepted

variable [Engine]

def ruleExplanation (digest : JsString) (evidence : Record JsString PresentedEvidenceV1)
    (rule : PolicyRuleV1) : AdmissionExplanationV1 :=
  ⟨digest, rule.ruleId, subjectKey rule, (ruleOutcome evidence rule).1, (ruleOutcome evidence rule).2⟩

def evaluateDocument (document : PolicySlotV1) (input : RuleEvaluationInputV1) :
    Except DomainError PolicyDecisionV1 := do
  parsePolicySlotV1 document
  let digest ← policySlotDigest document
  match document with
  | .noPolicy =>
      return decision .accepted []
        [⟨noPolicyDigest, js "NO_POLICY", js "*", .accepted, js "NO_POLICY"⟩]
  | .document sealed => do
      let evidence := evidenceById input.evidence
      let rules ← sealed.core.rules.filterM (applies · input)
      if rules = [] then
        return decision .accepted []
          [⟨digest, js "DEFAULT_ACCEPT", js "*", .accepted, js "NO_APPLICABLE_RULE"⟩]
      else
        return decision (severest (rules.map fun rule => (ruleOutcome evidence rule).1))
          (rules.flatMap PolicyRuleV1.constraints) (rules.map (ruleExplanation digest evidence))

end Rules

section Evaluation

variable [Engine]

/-- By digest, rule, subject and result, as `localeCompare` orders them. -/
def explanationOrder (left right : AdmissionExplanationV1) : Int :=
  let byDigest := Engine.localeCompare left.policyDigest right.policyDigest
  let byRule := Engine.localeCompare left.ruleId right.ruleId
  let bySubject := Engine.localeCompare left.subject right.subject
  if byDigest ≠ 0 then byDigest
  else if byRule ≠ 0 then byRule
  else if bySubject ≠ 0 then bySubject
  else Engine.localeCompare left.result.text right.result.text

def combinePolicyDecisions (pinned current : PolicyDecisionV1) : PolicyDecisionV1 :=
  ⟨if rank current.result ≤ rank pinned.result then pinned.result else current.result,
    (pinned.constraints ++ current.constraints).eraseDups.insertionSort (· ≤ ·),
    (pinned.explanations ++ current.explanations).insertionSort
      fun left right => explanationOrder left right ≤ 0⟩

/-- `canonicalJson(left) === canonicalJson(right)`. -/
def sameJson (left right : JsValue) : Except DomainError Bool := do
  let first ← canonicalJson left
  let second ← canonicalJson right
  return first = second

def sameCursor (left right : ObservationCursorV1) : Except DomainError Bool :=
  sameJson left.toJson right.toJson

def cursorComponentNotAfter (leftSequence : Nat) (leftEnvelopeHash : JsString) (leftEpoch : Nat)
    (rightSequence : Nat) (rightEnvelopeHash : JsString) (rightEpoch : Nat) : Bool :=
  if rightSequence < leftSequence then false
  else if leftSequence = rightSequence then
    leftEnvelopeHash = rightEnvelopeHash ∧ leftEpoch = rightEpoch
  else leftEpoch ≤ rightEpoch

def cursorNotAfter (left right : CompositeCursorV1) : Bool :=
  left.workspaceId = right.workspaceId && left.runId = right.runId &&
    cursorComponentNotAfter left.workspaceSequence left.workspaceEnvelopeHash
      left.workspaceContextEpoch right.workspaceSequence right.workspaceEnvelopeHash
      right.workspaceContextEpoch &&
    cursorComponentNotAfter left.runSequence left.runEnvelopeHash left.runContextEpoch
      right.runSequence right.runEnvelopeHash right.runContextEpoch

def snapshotFinding (digest : JsString) (failed : Bool) (subject : JsString)
    (result : PolicyEffectV1) (code : JsString) : List AdmissionExplanationV1 :=
  if failed then [⟨digest, js "AUTHORITY_SNAPSHOT", subject, result, code⟩] else []

def snapshotDecision (input : AdmissionEvaluationInputV1) :
    Except DomainError (Option PolicyDecisionV1) := do
  let digest ← policySlotDigest input.currentPolicy
  let fresh ← sameCursor (.composite input.snapshots.evaluationObservationCursor)
    input.evaluationClock.observationCursor
  let explanations :=
    snapshotFinding digest (!fresh) (js "cursor") .rejected (js "STALE_EVALUATION_CURSOR") ++
    snapshotFinding digest (!cursorNotAfter input.snapshots.issueObservationCursor
      input.snapshots.evaluationObservationCursor) (js "issue-cursor") .rejected
      (js "ISSUE_CURSOR_AFTER_EVALUATION") ++
    snapshotFinding digest (input.snapshots.expectedGrantDigest ≠
      input.snapshots.observedGrantDigest) (js "grant") .rejected (js "STALE_GRANT_SNAPSHOT") ++
    snapshotFinding digest (input.snapshots.expectedQuotaDigest ≠
      input.snapshots.observedQuotaDigest) (js "quota") .rejected (js "STALE_QUOTA_SNAPSHOT") ++
    snapshotFinding digest (!input.snapshots.quotaAvailable) (js "quota") .quarantined
      (js "QUOTA_EXHAUSTED")
  if explanations = [] then return none
  else return some (decision (if explanations.any (·.result = .rejected) then .rejected
    else .quarantined) [] explanations)

/-- The approval binds this proposal, these policies, this grant and this moment. -/
def approvalValid (input : AdmissionEvaluationInputV1) (approval : ApprovalBindingV1) :
    Except DomainError Bool := do
  let pinned ← policySlotDigest input.pinnedPolicy
  let current ← policySlotDigest input.currentPolicy
  let named := approval.proposalDigest = input.proposalDigest ∧
    approval.baseRevision = input.baseRevision ∧ approval.baseStateHash = input.baseStateHash ∧
    approval.pinnedPolicyDigest = pinned ∧ approval.currentPolicyDigest = current ∧
    approval.approverPrincipalId = input.snapshots.authenticatedApproverPrincipalId ∧
    approval.approverPrincipalId ≠ input.proposalAuthorPrincipalId ∧
    approval.approverGrantDigest = input.snapshots.observedGrantDigest ∧
    approval.allowedAction = input.action
  if ¬ named then return false
  else do
    let issued ← sameCursor (.composite approval.issueObservationCursor)
      (.composite input.snapshots.issueObservationCursor)
    if ¬ issued then return false
    else do
      let evaluated ← sameCursor (.composite approval.evaluationObservationCursor)
        (.composite input.snapshots.evaluationObservationCursor)
      return evaluated &&
        cursorNotAfter approval.issueObservationCursor approval.evaluationObservationCursor &&
        notBefore input.evaluationClock.authorityTime approval.issuedAt &&
        (match Engine.dateParse input.evaluationClock.authorityTime,
            Engine.dateParse approval.expiresAt with
          | some now, some expires => now < expires
          | _, _ => false)

def approveExplanation (item : AdmissionExplanationV1) : AdmissionExplanationV1 :=
  if item.result = .approvalRequired then
    { item with result := .accepted, code := js "APPROVAL_SATISFIED" }
  else item

def approvalDecision (input : AdmissionEvaluationInputV1) (combined : PolicyDecisionV1) :
    Except DomainError PolicyDecisionV1 := do
  match input.approval with
  | none => return normalizeDecision combined
  | some approval =>
      if combined.result ≠ .approvalRequired then
        return normalizeDecision combined
      else do
        let valid ← approvalValid input approval
        if valid then
          let explanations := combined.explanations.map approveExplanation
          return decision (if explanations.any (·.result = .rejected) then .rejected
            else if explanations.any (·.result = .quarantined) then .quarantined
            else .accepted) combined.constraints explanations
        else
          return normalizeDecision combined

def evaluateAdmission (input : AdmissionEvaluationInputV1) :
    Except DomainError AdmissionEvaluationV1 := do
  let subject ← parseAdmissionEvaluationInputV1 input
  let pinnedDigest ← policySlotDigest input.pinnedPolicy
  let currentDigest ← policySlotDigest input.currentPolicy
  match input.preconditionConflict with
  | some conflict => return ⟨.conflicted, [], sortExplanations
      [⟨pinnedDigest, js "PRECONDITION", js "proposal", .rejected, conflict⟩], pinnedDigest,
      currentDigest, input.snapshots.evaluationObservationCursor, input.evaluationClock.authorityTime⟩
  | none => do
      let snapshot ← snapshotDecision input
      let pinned ← evaluateDocument input.pinnedPolicy subject
      let current ← evaluateDocument input.currentPolicy subject
      let policies := normalizeDecision (combinePolicyDecisions pinned current)
      let guarded := match snapshot with
        | none => policies
        | some finding => normalizeDecision (combinePolicyDecisions policies finding)
      let combined ← approvalDecision input guarded
      return ⟨PolicyEffectV1.state combined.result, sortConstraints combined.constraints,
        sortExplanations combined.explanations, pinnedDigest, currentDigest,
        input.snapshots.evaluationObservationCursor, input.evaluationClock.authorityTime⟩

structure ExecutionPolicyInputV1 where
  intentDigest : JsString
  action : JsString
  paths : List JsString
  version : JsString
  pinnedPolicy : PolicySlotV1
  currentPolicy : PolicySlotV1
  evidence : List JsValue
  evaluationClock : EvaluationClockV1

def evaluateExecutionPolicy (input : ExecutionPolicyInputV1) :
    Except DomainError PolicyDecisionV1 := do
  nonEmpty input.intentDigest .policyInputInvalid
  let subject ← validatePolicySubject input.action input.version input.paths input.pinnedPolicy
    input.currentPolicy input.evidence
  validateEvaluationClock input.evaluationClock
  let pinned ← evaluateDocument input.pinnedPolicy subject
  let current ← evaluateDocument input.currentPolicy subject
  return normalizeDecision (combinePolicyDecisions pinned current)

end Evaluation

end Horseness.PolicyEvaluation
