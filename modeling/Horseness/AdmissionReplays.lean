import Horseness.AdmissionCommits
import Horseness.AdmissionInputs
import Horseness.AdmissionRecords
import Horseness.AuthorityVerification
import Horseness.ProposalHistory

/-!
Whether both streams still replay once an admission is committed. The service checks the
decisions of the run; the reducers check their own records, of the run and of the workspace.
-/

namespace Horseness.AdmissionReplays

open FallibleRuns Records ScriptText JsonValues ScriptEngine Canonical Cursors PlainObjects
  EventPayloads EventChains Replay ReplaySteps CanonicalHistory QuotaLedger AuthorityLog
  AuthorityVerification AppendLog PolicyEvaluation AdmissionRecords AdmissionService ProposalHistory
  AdmissionCommits AdmissionInputs RecordedRuns

section Places

variable [Engine] {events : List HashedEventEnvelopeV1} {workspaceId runId : JsString}

/-- The names and the counters of a replayed run are those of its stream. -/
structure Placed (workspaceId runId : JsString) (count : Nat) (result : ReplayResult) : Prop where
  workspace : result.operational.workspaceId = workspaceId
  run : result.operational.runId = runId
  last : result.operational.lastEventSequence = count
  documentWorkspace : result.canonical.workspaceId = workspaceId
  documentRun : result.canonical.runId = runId
  documentLast : result.canonical.lastCanonicalEventSequence ≤ count

theorem operational_named {state after : RunOperationalState} {event : RunOperationalEvent}
    (reduced : reduceOperationalState (some state) event = .ok after) :
    after.workspaceId = state.workspaceId ∧ after.runId = state.runId ∧
      after.lastEventSequence = event.sequence := by
  rcases operational_step reduced with ⟨_, stepped⟩
  unfold reduceOperationalPayload at stepped
  cases kind : event.payload with
  | runCreatedV1 => simp [kind] at stepped
  | forkCreatedV1 | contextManifestPublishedV1 =>
      simp only [kind, Except.ok.injEq] at stepped
      subst stepped
      exact ⟨rfl, rfl, rfl⟩
  | deltaAcceptedV1 | execution | taskCreatedV1 | proposalSubmittedV1 | attemptReceiptRecordedV1
      | taskResolvedV1 =>
      simp only [kind, bind_ok_iff, pure_ok_iff] at stepped
      grind [advanced]
  | admissionDecisionRecordedV1 =>
      simp only [kind, bind_ok_iff] at stepped
      rcases stepped with ⟨_, _, _, _, stepped⟩
      split at stepped
      · simp only [bind_ok_iff, pure_ok_iff] at stepped
        rcases stepped with ⟨_, _, rfl⟩
        exact ⟨rfl, rfl, rfl⟩
      · cases stepped
        exact ⟨rfl, rfl, rfl⟩

omit [Engine] in
theorem chained_front {front back : List HashedEventEnvelopeV1} (chained : Chained (front ++ back)) :
    Chained front := by
  rintro before item after rfl
  exact chained before item (after ++ back) (by simp)

theorem placed_continue {before after : ReplayResult} {item : HashedEventEnvelopeV1} {count : Nat}
    (placed : Placed workspaceId runId count before) (continues : Continues before item after)
    (number : item.envelope.sequence = count + 1) :
    Placed workspaceId runId (count + 1) after := by
  rcases continues.payload with ⟨payload, _, reduced⟩
  rcases operational_named reduced with ⟨workspace, run, last⟩
  have low := placed.documentLast
  have document : after.canonical.workspaceId = before.canonical.workspaceId ∧
      after.canonical.runId = before.canonical.runId ∧
      after.canonical.lastCanonicalEventSequence ≤ count + 1 := by
    cases document_effect continues.canonical with
    | kept _ _ same =>
        rw [same]
        exact ⟨rfl, rfl, by omega⟩
    | moved _ _ _ _ _ written =>
        rw [written]
        exact ⟨rfl, rfl, by dsimp only; omega⟩
  exact ⟨workspace.trans placed.workspace, run.trans placed.run, last.trans number,
    document.1.trans placed.documentWorkspace, document.2.1.trans placed.documentRun,
    document.2.2⟩

theorem run_placed {result : ReplayResult} (replayed : deterministicReplay events = .ok result)
    (chained : Chained events) (own : ∀ item ∈ events, item.envelope.workspaceId = workspaceId ∧
      item.envelope.streamId = runId) : Placed workspaceId runId events.length result := by
  revert chained own
  refine replay_induction (motive := fun events result => Chained events →
    (∀ item ∈ events, item.envelope.workspaceId = workspaceId ∧ item.envelope.streamId = runId) →
      Placed workspaceId runId events.length result) ?_ ?_ replayed
  · intro item result begins chained own
    rcases begins.created with ⟨_, _, _, _, _, _, shape⟩
    rcases own item List.mem_cons_self with ⟨workspace, run⟩
    rw [workspace, run] at shape
    have operational := begins.operational
    rw [workspace, run] at operational
    exact ⟨by rw [operational]; rfl, by rw [operational]; rfl, by rw [operational]; rfl,
      by rw [shape], by rw [shape], by rw [shape]; exact le_refl 1⟩
  · intro front item before after _ continues ih chained own
    rw [List.length_append, List.length_singleton]
    refine placed_continue (ih (chained_front chained) fun item member =>
      own item (List.mem_append_left _ member)) continues ?_
    exact (chained front item [] rfl).1

omit [Engine] in
-- A workspace that replays has the name and the count of its stream.
theorem workspace_placed {state : WorkspaceState}
    (folded : events.foldlM replayWorkspaceEvent none = .ok (some state)) (chained : Chained events)
    (own : ∀ item ∈ events, item.envelope.workspaceId = workspaceId) :
    state.workspaceId = workspaceId ∧ state.lastEventSequence = events.length := by
  induction events using List.reverseRecOn generalizing state with
  | nil => cases folded
  | append_singleton front item ih =>
      rcases (foldlM_concat_ok_iff _ _ _ _ _).mp folded with ⟨before, earlier, stepped⟩
      have number := (chained front item [] rfl).1
      have named := own item (List.mem_append_right _ List.mem_cons_self)
      simp only [replayWorkspaceEvent, bind_ok_iff, pure_ok_iff, Option.some.injEq] at stepped
      rcases stepped with ⟨_, _, _, _, _, _, payload, _, next, reduced, rfl⟩
      rw [List.length_append, List.length_singleton]
      cases before with
      | none =>
          cases payload with
          | workspaceCreatedV1 =>
              simp only [reduceWorkspaceState, bind_ok_iff, ensure_ok_iff, pure_ok_iff] at reduced
              rcases reduced with ⟨_, ⟨_, first⟩, rfl⟩
              exact ⟨named, by rw [← number, first]⟩
          | policyReferenceChangedV1 | workspaceAdmissionRecordedV1 =>
              simp [reduceWorkspaceState, continueWorkspace, bind_ok_iff] at reduced
      | some before =>
          rcases ih earlier (chained_front chained) fun item member =>
            own item (List.mem_append_left _ member) with ⟨workspace, _⟩
          cases payload with
          | workspaceCreatedV1 =>
              simp only [reduceWorkspaceState, bind_ok_iff, ensure_ok_iff, Option.isNone_some,
                Bool.false_eq_true, false_and, exists_const] at reduced
          | policyReferenceChangedV1 =>
              simp only [reduceWorkspaceState, bind_ok_iff, pure_ok_iff] at reduced
              rcases reduced with ⟨current, continued, rfl⟩
              rw [continue_same continued]
              exact ⟨workspace, number⟩
          | workspaceAdmissionRecordedV1 =>
              simp only [reduceWorkspaceState, bind_ok_iff, pure_ok_iff] at reduced
              rcases reduced with ⟨current, continued, _, _, _, _, _, _, _, _, _, _, rfl⟩
              rw [continue_same continued]
              exact ⟨workspace, number⟩

end Places

section Recording

variable {workspace : WorkspaceState} {item : HashedEventEnvelopeV1} {workspaceId : JsString}
  {admission : AdmissionRecord}

/-- What the workspace asks of one more decision. -/
structure Recordable (workspace : WorkspaceState) (admission : AdmissionRecord) : Prop where
  fresh : ∀ known ∈ workspace.admissions.values, ∀ decision ∈ known.history,
    decision.decisionEventId ≠ admission.decisionEventId
  prior : ∃ before, priorDecision workspace.admissions admission = .ok before ∧
    admission.state ∈ admissionTransitions before
  quota : quotaUnchanged workspace.quotas admission = .ok ()

def AdmissionRecord.payload (workspaceId : JsString) (admission : AdmissionRecord) :
    DomainEventPayloadV1 :=
  .workspace (.workspaceAdmissionRecordedV1 workspaceId admission.proposalDigest
    admission.decisionEventId admission.state admission.quotaId admission.quotaDigest
    admission.consumed)

-- The next event of a workspace replays exactly when its decision can be recorded.
theorem record_replays_iff [Engine] (shape : item.envelope.payload = AdmissionRecord.payload workspaceId admission)
    (parsed : parseDomainEventPayloadV1 item.envelope.payload = .ok ())
    (kind : item.envelope.streamKind = .workspace) (named : item.envelope.workspaceId = workspaceId)
    (stream : item.envelope.streamId = workspaceId) (own : workspace.workspaceId = workspaceId)
    (number : item.envelope.sequence = workspace.lastEventSequence + 1)
    (consistent : admission.state = .accepted ↔ admission.consumed = .yes) :
    (∃ after, replayWorkspaceEvent (some workspace) item = .ok after) ↔
      Recordable workspace admission := by
  rw [shape] at parsed
  simp only [AdmissionRecord.payload, parseDomainEventPayloadV1, parseWorkspaceEventPayloadV1,
    payloadText, List.forM_eq_forM, forM_ok_iff, List.forall_mem_cons, List.not_mem_nil,
    false_implies, implies_true, and_true, nonEmpty, ensure_ok_iff] at parsed
  rcases parsed with ⟨filled, digest, identity, quotaId, quotaDigest⟩
  have read : workspacePayload item.envelope.payload =
      .ok (.workspaceAdmissionRecordedV1 admission) := by
    rw [shape]
    simp only [AdmissionRecord.payload, workspacePayload, bind_ok_iff, pure_ok_iff, replayText,
      List.forM_eq_forM, forM_ok_iff, List.forall_mem_cons, List.not_mem_nil, false_implies,
      implies_true, and_true, nonEmpty, ensure_ok_iff]
    exact ⟨(), digest, identity, quotaId, quotaDigest⟩
  have name : DomainEventPayloadV1.workspaceId item.envelope.payload = workspaceId := by
    rw [shape]
    rfl
  have continued : continueWorkspace (some workspace) ⟨item.envelope.sequence,
      item.envelope.workspaceId, .workspaceAdmissionRecordedV1 admission⟩ = .ok workspace := by
    simp only [continueWorkspace, bind_ok_iff, required_ok_iff, ensure_ok_iff, pure_ok_iff]
    exact ⟨workspace, rfl, (), named.trans own.symm, (), number, rfl⟩
  have reduces : (∃ next, reduceWorkspaceState (some workspace) ⟨item.envelope.sequence,
      item.envelope.workspaceId, .workspaceAdmissionRecordedV1 admission⟩ = .ok next) ↔
      Recordable workspace admission := by
    simp only [reduceWorkspaceState, continued, bind_ok_iff, ensure_ok_iff, pure_ok_iff,
      validateAdmissionTransition]
    constructor
    · rintro ⟨next, current, same, _, _, _, fresh, before, prior, _, allowed, _, quota, _⟩
      cases same
      exact ⟨fresh, ⟨before, prior, allowed⟩, quota⟩
    · rintro ⟨fresh, ⟨before, prior, allowed⟩, quota⟩
      exact ⟨_, workspace, rfl, (), consistent, (), fresh, before, prior, (), allowed, (), quota, rfl⟩
  rw [← reduces]
  simp only [replayWorkspaceEvent, bind_ok_iff, ensure_ok_iff, pure_ok_iff, read, name, replayText,
    nonEmpty, kind, stream, named]
  constructor
  · rintro ⟨_, _, _, _, _, _, _, payload, same, next, reduced, _⟩
    cases same
    exact ⟨next, reduced⟩
  · rintro ⟨next, reduced⟩
    exact ⟨some next, (), ⟨trivial, trivial⟩, (), filled, (), trivial, _, rfl, next, reduced, rfl⟩

end Recording

section Stepping

variable [Engine] {before : ReplayResult} {item : HashedEventEnvelopeV1} {count : Nat}
  {workspaceId runId proposalId proposalDigest : JsString}

/-- The event stands next in this run. -/
structure NextIn (workspaceId runId : JsString) (count : Nat) (item : HashedEventEnvelopeV1) : Prop where
  workspace : item.envelope.workspaceId = workspaceId
  run : item.envelope.streamId = runId
  number : item.envelope.sequence = count + 1
  parsed : parseDomainEventPayloadV1 item.envelope.payload = .ok ()

def operationalEvent (item : HashedEventEnvelopeV1) (payload : RunOperationalPayload) :
    RunOperationalEvent :=
  ⟨item.envelope.sequence, item.envelope.workspaceId, item.envelope.streamId, payload⟩

theorem event_replayed {payload : RunOperationalPayload} {canonical : CanonicalDocument}
    {operational : RunOperationalState} (placed : Placed workspaceId runId count before)
    (next : NextIn workspaceId runId count item)
    (read : operationalPayload item.envelope item.envelope.payload = .ok payload)
    (later : isRunCreated payload = false)
    (moved : replayCanonical (some before.canonical) (canonicalEvent item.envelope
      item.envelope.payload) = .ok (some canonical))
    (reduced : reduceOperationalPayload before.operational (advanced before.operational
      (operationalEvent item payload)) (operationalEvent item payload) = .ok operational) :
    replayEvent ⟨some before.canonical, some before.operational⟩ item =
        .ok ⟨some canonical, some operational⟩ ∧
      Continues before item ⟨canonical, operational⟩ := by
  have stepped : reduceOperationalState (some before.operational) (operationalEvent item payload) =
      .ok operational := by
    have created : isRunCreated (operationalEvent item payload).payload = false := later
    rw [reduceOperationalState, if_neg (by rw [created]; exact Bool.false_ne_true)]
    simp only [bind_ok_iff, required_ok_iff, ensure_ok_iff]
    refine ⟨before.operational, rfl, (), ⟨?_, ?_⟩, (), ?_, reduced⟩
    · exact next.workspace.trans placed.workspace.symm
    · exact next.run.trans placed.run.symm
    · exact next.number.trans (by rw [placed.last])
  refine ⟨?_, ⟨⟨payload, read, stepped⟩, moved⟩⟩
  simp only [replayEvent, bind_ok_iff, pure_ok_iff]
  exact ⟨payload, read, some canonical, moved, operational, stepped, rfl⟩

theorem submission_replays (placed : Placed workspaceId runId count before)
    (next : NextIn workspaceId runId count item)
    (shape : item.envelope.payload = .run (.proposalSubmittedV1 workspaceId runId proposalId
      proposalDigest))
    (fresh : memberOf before.operational.proposals proposalId = none) :
    ∃ after, replayEvent ⟨some before.canonical, some before.operational⟩ item =
        .ok ⟨some after.canonical, some after.operational⟩ ∧
      Continues before item after ∧ after.canonical = before.canonical ∧
      after.operational.proposals.get proposalId =
        some ⟨.submitted, proposalDigest, none, none⟩ := by
  have parsed := next.parsed
  rw [shape] at parsed
  simp only [parseDomainEventPayloadV1, parseRunEventPayloadV1, payloadText, List.forM_eq_forM,
    forM_ok_iff, List.forall_mem_cons, List.not_mem_nil, false_implies, implies_true, and_true,
    nonEmpty, ensure_ok_iff] at parsed
  rcases parsed with ⟨_, _, named, digest⟩
  have read : operationalPayload item.envelope item.envelope.payload =
      .ok (.proposalSubmittedV1 proposalId proposalDigest) := by
    rw [shape]
    simp only [operationalPayload, bind_ok_iff, pure_ok_iff, replayText, List.forM_eq_forM,
      forM_ok_iff, List.forall_mem_cons, List.not_mem_nil, false_implies, implies_true, and_true,
      nonEmpty, ensure_ok_iff]
    exact ⟨(), named, digest⟩
  have reduced : reduceOperationalPayload before.operational (advanced before.operational
      (operationalEvent item (.proposalSubmittedV1 proposalId proposalDigest)))
      (operationalEvent item (.proposalSubmittedV1 proposalId proposalDigest)) = .ok
      { advanced before.operational
          (operationalEvent item (.proposalSubmittedV1 proposalId proposalDigest)) with
        proposals := before.operational.proposals.set proposalId
          ⟨.submitted, proposalDigest, none, none⟩ } := by
    simp only [reduceOperationalPayload, operationalEvent, unrecorded, bind_ok_iff, pure_ok_iff]
    exact ⟨(), by rw [show (advanced before.operational _).proposals =
      before.operational.proposals from rfl, fresh], rfl⟩
  have moved : replayCanonical (some before.canonical) (canonicalEvent item.envelope
      item.envelope.payload) = .ok (some before.canonical) := by
    rw [shape]
    rfl
  have stepped := event_replayed placed next read rfl moved reduced
  exact ⟨⟨_, _⟩, stepped.1, stepped.2, rfl, Record.get_set_same _ _ _⟩

omit [Engine] in
theorem known_ok {proposals : Record JsString ProposalRecord} {existing : ProposalRecord}
    (found : proposals.get proposalId = some existing)
    (same : existing.proposalDigest = proposalDigest) :
    knownProposal proposals proposalId proposalDigest = .ok existing := by
  simp only [knownProposal, memberOf, found, bind_ok_iff, required_ok_iff, ensure_ok_iff,
    pure_ok_iff]
  exact ⟨_, rfl, _, rfl, (), same, rfl⟩

-- A delta that continues the document replays where its proposal is pending.
theorem delta_replays {existing : ProposalRecord} {document : JsValue} {stateHash : JsString}
    (placed : Placed workspaceId runId count before) (next : NextIn workspaceId runId count item)
    (shape : item.envelope.payload = .run (.deltaAcceptedV1 workspaceId runId proposalId
      proposalDigest before.canonical.stateHash stateHash document))
    (digested : documentDigest document = .ok stateHash)
    (found : before.operational.proposals.get proposalId = some existing)
    (same : existing.proposalDigest = proposalDigest)
    (pending : existing.status ∈ [AdmissionTransitionStateV1.submitted, .decided .approvalRequired,
      .decided .quarantined]) :
    ∃ after, replayEvent ⟨some before.canonical, some before.operational⟩ item =
        .ok ⟨some after.canonical, some after.operational⟩ ∧
      Continues before item after ∧
      after.operational.proposals.get proposalId =
        some { existing with status := .decided .accepted } := by
  have parsed := next.parsed
  rw [shape] at parsed
  simp only [parseDomainEventPayloadV1, parseRunEventPayloadV1, payloadText, List.forM_eq_forM,
    forM_ok_iff, List.forall_mem_cons, List.not_mem_nil, false_implies, implies_true, and_true,
    nonEmpty, ensure_ok_iff, bind_ok_iff] at parsed
  rcases parsed with ⟨_, ⟨_, _, named, digest, prior, resulting⟩, _⟩
  have valid : assertJson document = .ok () := ((digest_ok_iff _ _ _).mp digested).1
  have read : operationalPayload item.envelope item.envelope.payload =
      .ok (.deltaAcceptedV1 proposalId proposalDigest) := by
    rw [shape]
    simp only [operationalPayload, bind_ok_iff, pure_ok_iff, replayText, List.forM_eq_forM,
      forM_ok_iff, List.forall_mem_cons, List.not_mem_nil, false_implies, implies_true, and_true,
      nonEmpty, ensure_ok_iff]
    exact ⟨(), ⟨named, digest, prior, resulting⟩, _, (digest_ok_iff _ _ _).mpr ⟨valid, rfl⟩⟩
  have reduced : reduceOperationalPayload before.operational (advanced before.operational
      (operationalEvent item (.deltaAcceptedV1 proposalId proposalDigest)))
      (operationalEvent item (.deltaAcceptedV1 proposalId proposalDigest)) = .ok
      { advanced before.operational
          (operationalEvent item (.deltaAcceptedV1 proposalId proposalDigest)) with
        proposals := before.operational.proposals.set proposalId
          { existing with status := .decided .accepted } } := by
    simp only [reduceOperationalPayload, operationalEvent, bind_ok_iff, ensure_ok_iff, pure_ok_iff]
    exact ⟨existing, known_ok found same, (), pending, rfl⟩
  have moved : replayCanonical (some before.canonical) (canonicalEvent item.envelope
      item.envelope.payload) = .ok (some { before.canonical with
        revision := before.canonical.revision + 1
        document := normalize document
        stateHash := stateHash
        acceptedProposalId := some proposalId
        lastCanonicalEventSequence := item.envelope.sequence }) := by
    have low := placed.documentLast
    have number := next.number
    rw [shape]
    simp only [canonicalEvent, replayCanonical, reduceCanonicalDocument, bind_ok_iff,
      required_ok_iff, ensure_ok_iff, pure_ok_iff, Option.mem_def, Option.some.injEq]
    refine ⟨_, ⟨before.canonical, rfl, (), by omega, (), ⟨?_, ?_⟩, (), rfl, _, digested, (), rfl,
      normalize document, (clone_ok_iff _ _).mpr ⟨valid, rfl⟩, rfl⟩, rfl⟩
    · rintro id rfl
      exact next.workspace.trans placed.documentWorkspace.symm
    · rintro id rfl
      exact next.run.trans placed.documentRun.symm
  have stepped := event_replayed placed next read rfl moved reduced
  exact ⟨⟨_, _⟩, stepped.1, stepped.2, Record.get_set_same _ _ _⟩

-- A decision replays where the table allows it, or where it completes a delta.
theorem decision_replays {existing : ProposalRecord} {transition : AdmissionTransitionV1}
    {state : AdmissionDecisionStateV1} {provenanceDigest artifactDigest : JsString}
    {observed : CompositeCursorV1}
    (placed : Placed workspaceId runId count before) (next : NextIn workspaceId runId count item)
    (shape : item.envelope.payload = .run (.admissionDecisionRecordedV1 workspaceId runId proposalId
      proposalDigest transition state provenanceDigest artifactDigest observed))
    (found : before.operational.proposals.get proposalId = some existing)
    (same : existing.proposalDigest = proposalDigest)
    (allowed : Completes existing state ∨ state ∈ admissionTransitions existing.status) :
    ∃ after, replayEvent ⟨some before.canonical, some before.operational⟩ item =
        .ok ⟨some after.canonical, some after.operational⟩ ∧ Continues before item after := by
  have parsed := next.parsed
  rw [shape] at parsed
  simp only [parseDomainEventPayloadV1, parseRunEventPayloadV1, payloadText, List.forM_eq_forM,
    forM_ok_iff, List.forall_mem_cons, List.not_mem_nil, false_implies, implies_true, and_true,
    nonEmpty, ensure_ok_iff, bind_ok_iff] at parsed
  rcases parsed with ⟨_, ⟨_, _, named, digest, provenance, artifact⟩, _⟩
  have read : operationalPayload item.envelope item.envelope.payload =
      .ok (.admissionDecisionRecordedV1 proposalId proposalDigest state provenanceDigest
        artifactDigest) := by
    rw [shape]
    simp only [operationalPayload, bind_ok_iff, pure_ok_iff, replayText, List.forM_eq_forM,
      forM_ok_iff, List.forall_mem_cons, List.not_mem_nil, false_implies, implies_true, and_true,
      nonEmpty, ensure_ok_iff]
    exact ⟨(), named, digest, provenance, artifact⟩
  have reduced : reduceOperationalPayload before.operational
      (advanced before.operational (operationalEvent item (.admissionDecisionRecordedV1 proposalId
        proposalDigest state provenanceDigest artifactDigest)))
      (operationalEvent item (.admissionDecisionRecordedV1 proposalId proposalDigest state
        provenanceDigest artifactDigest)) = .ok
      { advanced before.operational (operationalEvent item (.admissionDecisionRecordedV1 proposalId
          proposalDigest state provenanceDigest artifactDigest)) with
        proposals := before.operational.proposals.set proposalId
          ⟨.decided state, proposalDigest, some provenanceDigest, some artifactDigest⟩ } := by
    simp only [reduceOperationalPayload, operationalEvent, bind_ok_iff, ensure_ok_iff]
    by_cases completes : Completes existing state
    · have plain : existing.status = .decided .accepted ∧ state = .accepted := completes
      refine ⟨existing, known_ok found same, (), by simp [plain], ?_⟩
      rw [if_neg (by simpa using plain)]
      rfl
    · have open' := allowed.resolve_left completes
      have unfinished : ¬ (existing.status = .decided .accepted ∧ state = .accepted) := completes
      refine ⟨existing, known_ok found same, (), ?_, ?_⟩
      · rintro ⟨_, _, final⟩
        simp only [List.mem_cons, List.not_mem_nil, or_false] at final
        rcases final with status | status | status <;>
          · rw [status] at open'
            cases open'
      · rw [if_pos unfinished]
        simp only [bind_ok_iff, validateAdmissionTransition, ensure_ok_iff, pure_ok_iff]
        exact ⟨(), open', rfl⟩
  have moved : replayCanonical (some before.canonical) (canonicalEvent item.envelope
      item.envelope.payload) = .ok (some before.canonical) := by
    rw [shape]
    rfl
  have stepped := event_replayed placed next read rfl moved reduced
  exact ⟨⟨_, _⟩, stepped.1, stepped.2⟩

end Stepping

section Cases

variable [Engine] {around : Surroundings} {request : AdmissionRequestV1} {state after : Authority}
  {admission : AdmissionCase} {events : AdmissionEvents} {before : ReplayResult}

/-- The run has no record of the proposal, or it has decisions on it and no unfinished delta. -/
def Unsettled (run : RunOperationalState) (proposalId : JsString) (decisions : List RecordedDecision) :
    Prop :=
  ∀ record, run.proposals.get proposalId = some record →
    decisions ≠ [] ∧ record.status ≠ .decided .accepted

omit [Engine] in
theorem proposal_named (digest : JsString) : inheritedNames.contains (digestId (js "prp_") digest) =
    false := by
  have marked : ∀ name ∈ inheritedNames, name.take 4 ≠ js "prp_" := by decide +kernel
  rw [List.contains_eq_mem, decide_eq_false_iff_not]
  intro listed
  refine marked _ listed ?_
  rw [digestId, List.take_append_of_le_length (by decide)]
  decide

theorem replay_extends {front new : List HashedEventEnvelopeV1} {result : ReplayResult}
    (replayed : deterministicReplay front = .ok before)
    (verified : verifyEventChain (front ++ new) = .ok ())
    (folded : new.foldlM replayEvent ⟨some before.canonical, some before.operational⟩ =
      .ok ⟨some result.canonical, some result.operational⟩) :
    deterministicReplay (front ++ new) = .ok result := by
  rcases replay_ok_iff.mp replayed with ⟨_, ⟨first, head, kind⟩, start⟩
  refine replay_ok_iff.mpr ⟨verified, ⟨first, ?_, kind⟩, ?_⟩
  · rw [List.head?_append, head, Option.some_or]
  · exact (foldlM_append_ok_iff _ _ _ _ _).mpr ⟨_, start, folded⟩

-- A decided case is of its proposal's own digest, and none of its decisions is final.
theorem undecided_digest (assessed : Assessed around request state admission) :
    ∀ decision ∈ admission.decisions, decision.proposalDigest = request.proposal.proposalDigest := by
  have undecided := assessed.undecided
  simp only [existingTerminal, bind_ok_iff, ensure_ok_iff] at undecided
  rcases undecided with ⟨_, digests, _⟩
  exact digests

theorem revision_replayed (assessed : Assessed around request state admission)
    (replayed : deterministicReplay (state.rows (AdmissionRequestV1.runKey request)) = .ok before) :
    admission.revision = ⟨before.canonical.revision, before.canonical.document,
      before.canonical.stateHash⟩ := by
  have loaded := assessed.revision
  simp only [loadRevision, inDomain, bind_ok_iff, map_error_ok_iff, pure_ok_iff] at loaded
  rcases loaded with ⟨other, same, shape⟩
  obtain rfl := Except.ok.inj (replayed.symm.trans same)
  exact shape.symm

theorem next_in {number : Nat} {payload : DomainEventPayloadV1} {item : HashedEventEnvelopeV1}
    (sealed : SealedFor request (AdmissionRequestV1.runKey request) (number + 1) payload item)
    (parsed : parseDomainEventPayloadV1 item.envelope.payload = .ok ()) :
    NextIn request.proposal.core.workspaceId request.proposal.core.runId number item :=
  ⟨sealed.workspace, sealed.stream, sealed.sequence, parsed⟩

-- The submission, where there is one, opens the proposal's record at its prior state.
theorem case_opens (assessed : Assessed around request state admission)
    (built : Built request admission events)
    (replayed : deterministicReplay (state.rows (AdmissionRequestV1.runKey request)) = .ok before)
    (placed : Placed request.proposal.core.workspaceId request.proposal.core.runId
      admission.observed.runSequence before)
    (parsed : ∀ item ∈ events.submitted, parseDomainEventPayloadV1 item.envelope.payload = .ok ())
    (unsettled : Unsettled before.operational request.proposal.proposalId admission.decisions) :
    ∃ opened existing, events.submitted.foldlM replayEvent
        ⟨some before.canonical, some before.operational⟩ =
          .ok ⟨some opened.canonical, some opened.operational⟩ ∧
      Placed request.proposal.core.workspaceId request.proposal.core.runId
        (admission.observed.runSequence + (submittedPayload request admission).toList.length) opened ∧
      opened.canonical = before.canonical ∧
      opened.operational.proposals.get request.proposal.proposalId = some existing ∧
      existing.proposalDigest = request.proposal.proposalDigest ∧
      existing.status = priorStateOf admission.decisions := by
  by_cases first : admission.decisions = []
  · rcases sealed_option built.submitted with ⟨nothing, _⟩ | ⟨payload, item, given, listed, sealed⟩
    · simp [submittedPayload, first] at nothing
    · rw [submittedPayload, if_pos first, Option.some.injEq] at given
      subst given
      have absent : before.operational.proposals.get request.proposal.proposalId = none := by
        cases found : before.operational.proposals.get request.proposal.proposalId with
        | none => rfl
        | some record => exact absurd first (unsettled record found).1
      have fresh : memberOf before.operational.proposals request.proposal.proposalId = none := by
        have plain := proposal_named request.proposal.proposalDigest
        rw [← assessed.proposal.identity] at plain
        simp only [memberOf, absent, plain, Bool.false_eq_true, if_false]
      have next := next_in sealed (parsed item (by rw [listed]; exact List.mem_singleton_self _))
      rcases submission_replays placed next sealed.payload fresh with
        ⟨opened, ran, continues, canonical, found⟩
      refine ⟨opened, _, ?_, ?_, canonical, found, rfl, by rw [first]; rfl⟩
      · rw [listed]
        exact (foldlM_cons_ok_iff _ _ _ _ _).mpr ⟨_, ran, rfl⟩
      · simp only [submittedPayload, if_pos first, Option.toList_some, List.length_singleton]
        exact placed_continue placed continues next.number
  · rcases sealed_option built.submitted with ⟨_, listed⟩ | ⟨payload, item, given, _⟩
    · have history := marked replayed request.proposal.proposalId
      rw [assessed.decisions] at first
      rcases List.getLast?_isSome.mpr first |> Option.isSome_iff_exists.mp with ⟨decision, last⟩
      have marks := decision_marked (List.mem_of_getLast? last)
      rcases marked_recorded history marks with ⟨existing, found⟩
      have digest := undecided_digest assessed decision (by
        rw [assessed.decisions]
        exact List.mem_of_getLast? last)
      refine ⟨before, existing, by rw [listed]; rfl, ?_, rfl, found, ?_, ?_⟩
      · rw [← assessed.decisions] at first
        simpa [submittedPayload, first] using placed
      · exact (history.digest _ marks existing found).trans digest
      · rw [priorStateOf, assessed.decisions, last]
        exact (history.decided decision last existing found).resolve_right
          (unsettled existing found).2
    · simp [submittedPayload, first] at given

omit [Engine] in
theorem accepting_prior {prior : AdmissionTransitionStateV1}
    (allowed : AdmissionDecisionStateV1.accepted ∈ admissionTransitions prior) :
    prior ∈ [AdmissionTransitionStateV1.submitted, .decided .approvalRequired,
      .decided .quarantined] := by
  revert allowed
  cases prior with
  | submitted => decide
  | decided state => cases state <;> decide

-- From its prior state the proposal moves to the decided one, with its delta if accepted.
theorem case_closes {opened : ReplayResult} {existing : ProposalRecord}
    (admitted : Admitted around request state admission events after)
    (placed : Placed request.proposal.core.workspaceId request.proposal.core.runId
      (admission.observed.runSequence + (submittedPayload request admission).toList.length) opened)
    (parsed : ∀ item ∈ events.accepted ++ [events.decision],
      parseDomainEventPayloadV1 item.envelope.payload = .ok ())
    (base : admission.revision.stateHash = opened.canonical.stateHash)
    (found : opened.operational.proposals.get request.proposal.proposalId = some existing)
    (same : existing.proposalDigest = request.proposal.proposalDigest)
    (status : existing.status = priorStateOf admission.decisions) :
    ∃ closed : ReplayResult, (events.accepted ++ [events.decision]).foldlM replayEvent
        ⟨some opened.canonical, some opened.operational⟩ =
          .ok ⟨some closed.canonical, some closed.operational⟩ := by
  have assessed := case_assessed admitted.assessed
  have built := events_built admitted.built
  have decisionParsed := parsed events.decision (by simp)
  have allowed := assessed.allowed
  rw [← status] at allowed
  cases change : admission.change with
  | none =>
      have open' : admission.state ≠ .accepted := fun accepted => by
        rw [← change_accepted admitted, change] at accepted
        cases accepted
      have nothing : acceptedPayload request admission = none := by
        rw [acceptedPayload, change]
        rfl
      rcases sealed_option built.accepted with ⟨_, listed⟩ | ⟨payload, item, given, _⟩
      · have decided := built.decided
        rw [nothing, Option.toList_none, List.length_nil, Nat.add_zero] at decided
        rcases decision_replays placed (next_in decided decisionParsed) decided.payload found same
          (.inr allowed) with ⟨closed, ran, _⟩
        refine ⟨closed, ?_⟩
        rw [listed, List.nil_append]
        exact (foldlM_cons_ok_iff _ _ _ _ _).mpr ⟨_, ran, rfl⟩
      · rw [nothing] at given
        cases given
  | some changed =>
      rcases changed with ⟨document, stateHash⟩
      rcases change_sealed assessed change with ⟨accepted, digested⟩
      have delta : acceptedPayload request admission = some (.run (.deltaAcceptedV1
          request.proposal.core.workspaceId request.proposal.core.runId request.proposal.proposalId
          request.proposal.proposalDigest opened.canonical.stateHash stateHash document)) := by
        rw [acceptedPayload, change, ← base]
        rfl
      have pending : existing.status ∈ [AdmissionTransitionStateV1.submitted,
          .decided .approvalRequired, .decided .quarantined] := by
        rw [accepted] at allowed
        exact accepting_prior allowed
      rcases sealed_option built.accepted with ⟨nothing, _⟩ | ⟨payload, item, given, listed, sealed⟩
      · rw [delta] at nothing
        cases nothing
      · rw [delta, Option.some.injEq] at given
        subst given
        have next := next_in sealed (parsed item (by simp [listed]))
        rcases delta_replays placed next sealed.payload digested found same pending with
          ⟨moved, ran, continues, known⟩
        have decided := built.decided
        rw [delta, Option.toList_some, List.length_singleton] at decided
        rcases decision_replays (placed_continue placed continues next.number)
          (next_in decided decisionParsed) decided.payload known same
          (.inl ⟨rfl, accepted⟩) with ⟨closed, final, _⟩
        refine ⟨closed, ?_⟩
        rw [listed]
        exact (foldlM_cons_ok_iff _ _ _ _ _).mpr ⟨_, ran,
          (foldlM_cons_ok_iff _ _ _ _ _).mpr ⟨_, final, rfl⟩⟩

theorem case_placed (assessed : Assessed around request state admission)
    (replayed : deterministicReplay (state.rows (AdmissionRequestV1.runKey request)) = .ok before) :
    Placed request.proposal.core.workspaceId request.proposal.core.runId
      admission.observed.runSequence before := by
  have heads := observed_heads assessed
  have safe := (authenticated_safe assessed.runRows).1
  rw [heads.run]
  cases safe with
  | absent _ empty => exact absurd empty heads.started.1
  | headed _ _ _ _ _ _ chained own =>
      exact run_placed replayed chained fun item member => ⟨(own item member).1, (own item member).2.2⟩

theorem run_verified (appended : Appended request state events after)
    (started : state.rows (AdmissionRequestV1.runKey request) ≠ []) :
    verifyEventChain (state.rows (AdmissionRequestV1.runKey request) ++ events.runEvents) =
      .ok () := by
  rw [← appended.run]
  refine AdmissionInputs.authenticated_verified appended.runRows ?_
  rw [appended.run]
  exact fun empty => started (List.append_eq_nil_iff.mp empty).1

omit [Engine] in
theorem read_payload [Engine] {item : HashedEventEnvelopeV1} {after : ReplayResult}
    (continues : Continues before item after) : ∃ payload,
      operationalPayload item.envelope item.envelope.payload = .ok payload ∧
      ProposalEffect before.operational after.operational payload ∧
      reduceOperationalState (some before.operational) (operationalEvent item payload) =
        .ok after.operational := by
  rcases continues.payload with ⟨payload, read, reduced⟩
  exact ⟨payload, read, proposal_effect reduced, reduced⟩

-- The first event of a replayed extension continues what was before it.
theorem first_continues {front rest : List HashedEventEnvelopeV1} {item : HashedEventEnvelopeV1}
    {result : ReplayResult} (replayed : deterministicReplay front = .ok before) (filled : front ≠ [])
    (extended : deterministicReplay (front ++ item :: rest) = .ok result) :
    ∃ after, Continues before item after := by
  rw [List.append_cons] at extended
  rcases replay_prefix (by simp) extended with ⟨past, shorter⟩
  rcases replay_front filled shorter with ⟨other, same, continues⟩
  obtain rfl := Except.ok.inj (replayed.symm.trans same)
  exact ⟨past, continues⟩

-- A delta or a decision without one is refused where the proposal was accepted already.
theorem replayed_unsettled {result : ReplayResult} {record : ProposalRecord}
    (admitted : Admitted around request state admission events after)
    (replayed : deterministicReplay (state.rows (AdmissionRequestV1.runKey request)) = .ok before)
    (extended : deterministicReplay (state.rows (AdmissionRequestV1.runKey request) ++
      events.runEvents) = .ok result)
    (found : before.operational.proposals.get request.proposal.proposalId = some record) :
    admission.decisions ≠ [] ∧ record.status ≠ .decided .accepted := by
  have assessed := case_assessed admitted.assessed
  have built := events_built admitted.built
  have started := (observed_heads assessed).started.1
  rcases sealed_option built.submitted with ⟨nothing, listed⟩ | ⟨payload, item, given, listed, sealed⟩
  · have decided : admission.decisions ≠ [] := fun first => by
      simp [submittedPayload, first] at nothing
    refine ⟨decided, fun accepted => ?_⟩
    rcases sealed_option built.accepted with ⟨noDelta, noEvent⟩ | ⟨payload, item, given, one, sealed⟩
    · have shape : events.runEvents = [events.decision] := by
        rw [AdmissionEvents.runEvents, listed, noEvent]
        rfl
      rw [shape] at extended
      rcases first_continues replayed started extended with ⟨later, continues⟩
      rcases read_payload continues with ⟨payload, read, effect, _⟩
      rw [built.decided.payload] at read
      simp only [decisionPayload, operationalPayload, bind_ok_iff, pure_ok_iff] at read
      rcases read with ⟨_, _, rfl⟩
      cases effect with
      | unchanged _ _ _ noDecision => exact absurd rfl (noDecision _ _ _ _ _)
      | decided _ _ _ _ _ existing known _ open' _ =>
          obtain rfl := Option.some.inj (found.symm.trans known)
          rcases open' with completes | allowed
          · -- an accepted decision would have brought its delta
            have changed := (change_accepted admitted).mpr completes.2
            rw [acceptedPayload, Option.map_eq_none_iff] at noDelta
            rw [noDelta] at changed
            cases changed
          · rw [accepted] at allowed
            cases allowed
    · have shape : events.runEvents = item :: [events.decision] := by
        rw [AdmissionEvents.runEvents, listed, one]
        rfl
      rw [shape] at extended
      rcases first_continues replayed started extended with ⟨later, continues⟩
      rcases read_payload continues with ⟨payload, read, effect, _⟩
      rw [acceptedPayload, Option.map_eq_some_iff] at given
      rcases given with ⟨change, _, rfl⟩
      rw [sealed.payload] at read
      simp only [operationalPayload, bind_ok_iff, pure_ok_iff] at read
      rcases read with ⟨_, _, _, _, rfl⟩
      exact delta_pending effect ⟨record, found, accepted⟩
  · have shape : events.runEvents = item :: (events.accepted ++ [events.decision]) := by
      rw [AdmissionEvents.runEvents, listed]
      rfl
    rw [shape] at extended
    rcases first_continues replayed started extended with ⟨later, continues⟩
    rcases read_payload continues with ⟨payload, read, _, reduced⟩
    unfold submittedPayload at given
    split at given
    · cases given
      rw [sealed.payload] at read
      simp only [operationalPayload, bind_ok_iff, pure_ok_iff] at read
      rcases read with ⟨_, _, rfl⟩
      rcases submission_effect rfl reduced with ⟨fresh, _⟩
      rw [found] at fresh
      cases fresh
    · cases given

-- The run still replays exactly when nothing of the proposal was left unsettled.
theorem run_replays_iff (admitted : Admitted around request state admission events after)
    (replayed : deterministicReplay (state.rows (AdmissionRequestV1.runKey request)) = .ok before) :
    (∃ result, deterministicReplay (after.rows (AdmissionRequestV1.runKey request)) = .ok result) ↔
      Unsettled before.operational request.proposal.proposalId admission.decisions := by
  have assessed := case_assessed admitted.assessed
  have built := events_built admitted.built
  have appended := admitted_rows admitted
  have started := (observed_heads assessed).started.1
  have verified := run_verified appended started
  rw [appended.run]
  constructor
  · rintro ⟨result, extended⟩ record found
    exact replayed_unsettled admitted replayed extended found
  · intro unsettled
    have parsed : ∀ item ∈ events.runEvents,
        parseDomainEventPayloadV1 item.envelope.payload = .ok () := fun item member =>
      (verified_member verified item (List.mem_append_right _ member)).1
    have parts : events.runEvents = events.submitted ++ (events.accepted ++ [events.decision]) := by
      rw [AdmissionEvents.runEvents, List.append_assoc]
    rw [parts] at parsed
    rcases case_opens assessed built replayed (case_placed assessed replayed)
      (fun item member => parsed item (List.mem_append_left _ member)) unsettled with
      ⟨opened, existing, first, placed, canonical, found, same, status⟩
    have base : admission.revision.stateHash = opened.canonical.stateHash := by
      rw [revision_replayed assessed replayed, canonical]
    rcases case_closes admitted placed (fun item member => parsed item
      (List.mem_append_right _ member)) base found same status with ⟨closed, last⟩
    refine ⟨closed, replay_extends replayed verified ?_⟩
    rw [parts]
    exact (foldlM_append_ok_iff _ _ _ _ _).mpr ⟨_, first, last⟩

/-- The record of a decided case in its workspace, under the identifier of its decision. -/
def recordOf (request : AdmissionRequestV1) (admission : AdmissionCase) (decisionEventId : JsString) :
    AdmissionRecord :=
  { proposalDigest := request.proposal.proposalDigest
    decisionEventId := decisionEventId
    state := admission.state
    quotaId := request.quotaId
    quotaDigest := admission.validated.snapshots.observedQuotaDigest
    consumed := if admission.state = .accepted then .yes else .no }

-- The workspace still replays exactly when it can record the decision.
theorem workspace_replays_iff {workspace : WorkspaceState}
    (admitted : Admitted around request state admission events after)
    (replayed : deterministicWorkspaceReplay (state.rows (AdmissionRequestV1.workspaceKey request)) =
      .ok workspace) :
    (∃ result, deterministicWorkspaceReplay
        (after.rows (AdmissionRequestV1.workspaceKey request)) = .ok result) ↔
      Recordable workspace (recordOf request admission events.decision.envelope.eventId) := by
  have assessed := case_assessed admitted.assessed
  have sealed := (events_built admitted.built).workspace
  have appended := admitted_rows admitted
  have heads := observed_heads assessed
  rcases workspace_replay_ok_iff.mp replayed with ⟨_, ⟨first, head, kind⟩, folded⟩
  have verified : verifyEventChain (state.rows (AdmissionRequestV1.workspaceKey request) ++
      [events.workspaceEvent]) = .ok () := by
    rw [← appended.workspace]
    refine AdmissionInputs.authenticated_verified appended.workspaceRows ?_
    rw [appended.workspace]
    simp
  have place : workspace.workspaceId = request.proposal.core.workspaceId ∧
      workspace.lastEventSequence =
        (state.rows (AdmissionRequestV1.workspaceKey request)).length := by
    cases (authenticated_safe assessed.workspaceRows).1 with
    | absent _ empty => exact absurd empty heads.started.2
    | headed _ _ _ _ _ _ chained own =>
        exact workspace_placed folded chained fun item member => (own item member).1
  have step := @record_replays_iff workspace events.workspaceEvent
    request.proposal.core.workspaceId (recordOf request admission events.decision.envelope.eventId) _
    sealed.payload (verified_member verified _ (List.mem_append_right _ List.mem_cons_self)).1
    sealed.kind sealed.workspace sealed.stream place.1
    (by rw [sealed.sequence, place.2, heads.workspace])
    (by simp only [recordOf]; split <;> simp_all)
  rw [← step, appended.workspace]
  constructor
  · rintro ⟨result, extended⟩
    rcases workspace_replay_ok_iff.mp extended with ⟨_, _, whole⟩
    rcases (foldlM_concat_ok_iff _ _ _ _ _).mp whole with ⟨middle, front, last⟩
    obtain rfl := Except.ok.inj (folded.symm.trans front)
    exact ⟨some result, last⟩
  · rintro ⟨result, last⟩
    have present : ∃ next, result = some next := by
      simp only [replayWorkspaceEvent, bind_ok_iff, pure_ok_iff] at last
      rcases last with ⟨_, _, _, _, _, _, _, _, next, _, rfl⟩
      exact ⟨next, rfl⟩
    rcases present with ⟨next, rfl⟩
    refine ⟨next, workspace_replay_ok_iff.mpr ⟨verified, ⟨first, ?_, kind⟩, ?_⟩⟩
    · rw [List.head?_append, head, Option.some_or]
    · exact (foldlM_concat_ok_iff _ _ _ _ _).mpr ⟨_, folded, last⟩

def decisionNumber (request : AdmissionRequestV1) (admission : AdmissionCase) : Nat :=
  admission.observed.runSequence + (submittedPayload request admission).toList.length +
    (acceptedPayload request admission).toList.length + 1

/-- What both streams ask of a decided case. -/
structure Replayable (run : RunOperationalState) (workspace : WorkspaceState)
    (request : AdmissionRequestV1) (admission : AdmissionCase) : Prop where
  run : Unsettled run request.proposal.proposalId admission.decisions
  workspace : ∀ decisionEventId,
    eventIdentity request.commandId .run (decisionNumber request admission) = .ok decisionEventId →
      Recordable workspace (recordOf request admission decisionEventId)

/-- A committed admission leaves both streams replayable exactly when the run has left nothing of
the proposal unsettled and the workspace can record the decision. -/
theorem admission_keeps_replays_iff {result : AdmissionResultV1} {workspace : WorkspaceState}
    (runReplayed : deterministicReplay (state.rows (AdmissionRequestV1.runKey request)) = .ok before)
    (workspaceReplayed : deterministicWorkspaceReplay
      (state.rows (AdmissionRequestV1.workspaceKey request)) = .ok workspace)
    (assessed : assess around request state = .ok (.inr admission))
    (applied : evaluateAndApply around request state = .ok (result, after))
    (committed : after ≠ state) :
    ((∃ next, deterministicReplay (after.rows (AdmissionRequestV1.runKey request)) = .ok next) ∧
        ∃ next, deterministicWorkspaceReplay
          (after.rows (AdmissionRequestV1.workspaceKey request)) = .ok next) ↔
      Replayable before.operational workspace request admission := by
  rcases admission_effect applied with unchanged | ⟨other, events, admitted, _⟩
  · exact absurd unchanged committed
  obtain rfl : other = admission := by
    have same := admitted.assessed.symm.trans assessed
    simpa using same
  rw [run_replays_iff admitted runReplayed, workspace_replays_iff admitted workspaceReplayed]
  have identity : eventIdentity request.commandId .run (decisionNumber request other) =
      .ok events.decision.envelope.eventId := (events_built admitted.built).decided.identity
  constructor
  · rintro ⟨run, recordable⟩
    refine ⟨run, fun decisionEventId same => ?_⟩
    obtain rfl := Except.ok.inj (identity.symm.trans same)
    exact recordable
  · exact fun replayable => ⟨replayable.run, replayable.workspace _ identity⟩

end Cases

section Recorded

section Quotas

variable [Engine]

def earlierRecord : AdmissionRecord :=
  { proposalDigest := js "earlier"
    decisionEventId := js "decision"
    state := .conflicted
    quotaId := js "quota"
    quotaDigest := js "quota-digest-before"
    consumed := .no }

def quotaScenario : Scenario :=
  { plainScenario with recorded := [AdmissionRecord.payload (js "w") earlierRecord] }

end Quotas

def admissionDigests : List (Nat × JsString) :=
  [(10384829086692768094, js "d422958151d7ce50587df14f222aef02c04616b88d3aaa0ef6a6910fc8fdbdc2"),
    (12037143274496281024, js "f38f04c0e832dcb94298add27c92486f76519a7d7fa1f2b32655a7967cf2ce57"),
    (12451300907333151403, js "df69d57bc79f9c5f799c526aa93564f002c68d0dde6fa7b623526e12d27dfcd5"),
    (1249385789132979841, js "f6301793934ab60f3b300d4768e6bfebdd13e2d12ae7a7a4c43e6172584de120"),
    (12754022770058175782, js "7814a2541101f35440bd55054b91e211786039fd0844e3b09141772230a333cd"),
    (1292232990057567485, js "5d75f6467c2b56294a8275639db276412144188974d6e405f4bfc302414dad57"),
    (13187142566870144702, js "9eed05b1761021ae5753a5252e73d638ffd6bff91297237016f091826e27377c"),
    (14020003472608442042, js "e6e9fffdca8c1bd5a3f81301634ac2570581f62ac3a0c92bf3d695cfc5624ab5"),
    (14368136009389636385, js "2f970c1ea29d6fabe6b39cec41ab0dfea0cb49441fc07a7beba971768f87234b"),
    (14381434433376881834, js "4c731a2494cf0c9d9f1fd0f8976680ed47e9b95c33fb7f4a9ce406f5b685a894"),
    (1442539422566472607, js "bcb84961585ec834e0bc047bf626410b76e1c5c4aa91ef1cc626fd732e29f9ce"),
    (14560500978250292537, js "55c667c5deae039601997dc571decc95a333d3fcab7b6726f1d95d1bb3bdbb35"),
    (147005537590773644, js "6a526510683623c8e47d6677fd94478febb8ea55db65e6f0f55cc88f3434a09c"),
    (15911889507510143308, js "b846074973dbbd27adf4ee9c5077b5f217baab1217e504abd510c295eb35233c"),
    (17064862598526275279, js "82ef168c514cd0e7abb1cfadf202da35afcb5456ed7bde3d00a18fc8a0f7d0a2"),
    (17264120207981684540, js "f72a70d574005c5df1b3664f61a2f28d91eb227f222c249c388830e265541372"),
    (17727035046316299464, js "37fce1be9c8159dc8bd0353f83e4c3e624400cc39ba64dcaa563033e0499bd19"),
    (18254728953079373342, js "dc7bfbce93882c6abef4f25668dd32239cbca36b5ea6a7d72d5beca9807025a9"),
    (2507933213586139863, js "dcd219f619f9087c290a51807b2f743f5c602df4671322d3953f2bbd5462ebdc"),
    (2587713926571891230, js "3e454b2e655f34dfac20ac1b2ee7710f24ac4ecd978180cd6dec977dffd34d51"),
    (3187973593929803749, js "1a7749c2d2084d37559b09a86b7504881945496e4a0dca16c15f53ae2146ef9f"),
    (3292959984651161383, js "492a06524e0b98022e74ac179f5f7fc9eb40acda2bfce3dd85d8327a37aed4a2"),
    (3319564601105222153, js "06766e6e097ac3792259f77a43a9b6ad0921d17167c93cb445a4666a83963a89"),
    (3693928774618435934, js "117c3a2c6b7eb16404bdae1af2c19efc4fab10bf7333de986e6ba35885c46b68"),
    (3868143814384860019, js "dfcc025a24d854ad5409dee0b97e87e930126b47aab57c23eae43b2c4125d77d"),
    (3978329823193493374, js "926d7df18a12136a99bf44c74c078e82a0730c8e0a272e655e5530c02906c7fd"),
    (5436846379660150658, js "1ecbad7359572fc8c024c92f1f6747c8e090b9bbb182a0a813de1c2df5d367c2"),
    (5898057119831092186, js "5b132b78ddac081a7ebd625201fd17ed2eefb4da3bdad76b4848a220a17cb348"),
    (6861841831159808749, js "1f20945e65f2ab5f8fd3b9752d18bb5dfab600b40201c477b7fd6f1892d972a5"),
    (7224312376601193493, js "8fbab71e5451a1abfcdccaf2234f47ffe74e981528dee6f1c50db6385fb337f6"),
    (7746925913600981215, js "3db593cc8b14be61ea7b6e1854b42bb976abd543dca20e67224f030ccf9ebee9"),
    (9491290464382283978, js "95d206cc3b2df833108d0e44a168394833678b3e57b11a4c213624d9cb326d7d")]

@[reducible] def admissionEngine : Engine :=
  { scenarioEngine with
    sha256Hex := fun text =>
      ((admissionDigests ++ scenarioDigests).lookup (fingerprint text)).getD (122 :: text) }

attribute [local instance] admissionEngine

/-- Both streams replay before the call. It accepts the proposal, and both replay after it. -/
instance plain_admission_computed : Fact ((endsIn (fun _ => true) (deterministicReplay
      (plainScenario.authority.rows (AdmissionRequestV1.runKey plainScenario.request))) = true ∧
    endsIn (fun _ => true) (deterministicWorkspaceReplay (plainScenario.authority.rows
      (AdmissionRequestV1.workspaceKey plainScenario.request))) = true ∧
    plainScenario.authority.events.length = 2) ∧
    endsIn (fun outcome => decide (outcome.2.events.length = 6) &&
      endsIn (fun run => (run.operational.proposals.get plainScenario.request.proposal.proposalId).any
        fun record => record.status = .decided .accepted) (deterministicReplay (outcome.2.rows
          (AdmissionRequestV1.runKey plainScenario.request))) &&
      endsIn (fun _ => true) (deterministicWorkspaceReplay (outcome.2.rows
        (AdmissionRequestV1.workspaceKey plainScenario.request))))
      (evaluateUnrecorded openSession plainScenario.request plainScenario.authority) = true) :=
  ⟨by decide +kernel⟩

/-- An accepted proposal leaves both streams of its workspace replayable. -/
theorem plain_admission_replayable : ∃ run workspace admission result after,
    deterministicReplay (plainScenario.authority.rows (AdmissionRequestV1.runKey
      plainScenario.request)) = .ok run ∧
    deterministicWorkspaceReplay (plainScenario.authority.rows (AdmissionRequestV1.workspaceKey
      plainScenario.request)) = .ok workspace ∧
    assess openSession plainScenario.request plainScenario.authority = .ok (.inr admission) ∧
    evaluateAndApply openSession plainScenario.request plainScenario.authority =
      .ok (result, after) ∧
    after ≠ plainScenario.authority ∧
    Replayable run.operational workspace plainScenario.request admission := by
  rcases plain_admission_computed.out.1 with ⟨runStands, workspaceStands, count⟩
  rcases ends_in_exists runStands with ⟨run, runReplayed, _⟩
  rcases ends_in_exists workspaceStands with ⟨workspace, workspaceReplayed, _⟩
  rcases ends_in_exists plain_admission_computed.out.2 with ⟨⟨result, pictured⟩, ran, extended⟩
  rcases evaluate_unrecorded ran with ⟨after, applied, same⟩
  simp only [Bool.and_eq_true, decide_eq_true_eq, Authority.rows, ← same] at extended
  rcases extended with ⟨⟨grown, runExtended⟩, workspaceExtended⟩
  have moved : after ≠ plainScenario.authority := by
    rintro rfl
    omega
  rcases admission_effect applied with unchanged | ⟨admission, _, admitted, _⟩
  · exact absurd unchanged moved
  rcases ends_in_exists runExtended with ⟨next, runNext, _⟩
  rcases ends_in_exists workspaceExtended with ⟨nextWorkspace, workspaceNext, _⟩
  exact ⟨run, workspace, admission, result, after, runReplayed, workspaceReplayed,
    admitted.assessed, applied, moved, (admission_keeps_replays_iff runReplayed workspaceReplayed
      admitted.assessed applied moved).mp ⟨⟨next, runNext⟩, nextWorkspace, workspaceNext⟩⟩

/-- Both streams replay before the call. It accepts the proposal, and the workspace does not replay after
it. -/
instance quota_admission_computed : Fact ((endsIn (fun _ => true) (deterministicReplay
      (quotaScenario.authority.rows (AdmissionRequestV1.runKey quotaScenario.request))) = true ∧
    endsIn (fun _ => true) (deterministicWorkspaceReplay (quotaScenario.authority.rows
      (AdmissionRequestV1.workspaceKey quotaScenario.request))) = true ∧
    quotaScenario.authority.events.length = 3) ∧
    endsIn (fun outcome => decide (outcome.2.events.length = 7) &&
      decide (outcome.1.state = .accepted) &&
      failsWith .quotaIdentityConflict (deterministicWorkspaceReplay (outcome.2.rows
        (AdmissionRequestV1.workspaceKey quotaScenario.request))))
      (evaluateUnrecorded openSession quotaScenario.request quotaScenario.authority) = true) :=
  ⟨by decide +kernel⟩

/-- The proposal is accepted and committed, and its workspace no longer replays: the quota was
recorded under another digest before. -/
theorem changed_quota_unreadable : ∃ run workspace result after,
    deterministicReplay (quotaScenario.authority.rows (AdmissionRequestV1.runKey
      quotaScenario.request)) = .ok run ∧
    deterministicWorkspaceReplay (quotaScenario.authority.rows (AdmissionRequestV1.workspaceKey
      quotaScenario.request)) = .ok workspace ∧
    evaluateAndApply openSession quotaScenario.request quotaScenario.authority =
      .ok (result, after) ∧
    after ≠ quotaScenario.authority ∧ result.state = .accepted ∧
    deterministicWorkspaceReplay (after.rows (AdmissionRequestV1.workspaceKey
      quotaScenario.request)) = .error .quotaIdentityConflict := by
  rcases quota_admission_computed.out with ⟨⟨runStands, workspaceStands, count⟩, admits⟩
  rcases ends_in_exists runStands with ⟨run, runReplayed, _⟩
  rcases ends_in_exists workspaceStands with ⟨workspace, workspaceReplayed, _⟩
  rcases ends_in_exists admits with ⟨⟨result, pictured⟩, ran, extended⟩
  rcases evaluate_unrecorded ran with ⟨after, applied, same⟩
  simp only [Bool.and_eq_true, decide_eq_true_eq, Authority.rows, ← same] at extended
  rcases extended with ⟨⟨grown, accepted⟩, refused⟩
  refine ⟨run, workspace, result, after, runReplayed, workspaceReplayed, applied, ?_, accepted,
    fails_with_eq refused⟩
  rintro rfl
  omega

end Recorded

end Horseness.AdmissionReplays
