import Horseness.CanonicalHistory

/-!
The records of proposals in a run. Which events accept a proposal, how acceptances and
deltas keep pace, and which parts of a decided record later events may still write.
-/

namespace Horseness.AdmissionRecords

open FallibleRuns Records ScriptText ScriptEngine EventPayloads EventChains Replay ReplaySteps
  RecordedRuns CanonicalHistory

section Acceptance

def acceptedBy : RunOperationalPayload → Option JsString
  | .deltaAcceptedV1 proposalId _ => some proposalId
  | .admissionDecisionRecordedV1 proposalId _ .accepted _ _ => some proposalId
  | _ => none

def Accepted (proposals : Record JsString ProposalRecord) (proposalId : JsString) : Prop :=
  ∃ record, proposals.get proposalId = some record ∧ record.status = .decided .accepted

theorem accepted_set {proposals : Record JsString ProposalRecord} {proposalId other : JsString}
    {record : ProposalRecord} : Accepted (proposals.set proposalId record) other ↔
      if proposalId = other then record.status = .decided .accepted else Accepted proposals other := by
  by_cases same : proposalId = other <;> simp [Accepted, Record.get_set, same]

variable {state after : RunOperationalState} {payload : RunOperationalPayload}

-- An event accepts its proposal, and leaves every acceptance in place.
theorem accepted_after (effect : ProposalEffect state after payload) (proposalId : JsString) :
    Accepted after.proposals proposalId ↔
      Accepted state.proposals proposalId ∨ acceptedBy payload = some proposalId := by
  cases effect with
  | unchanged _ same noDelta noDecision =>
      have silent : acceptedBy payload ≠ some proposalId := by
        cases payload with
        | deltaAcceptedV1 id digest => exact absurd rfl (noDelta id digest)
        | admissionDecisionRecordedV1 id digest decision provenance artifact =>
            exact absurd rfl (noDecision id digest decision provenance artifact)
        | _ => simp [acceptedBy]
      rw [same]
      exact ⟨Or.inl, Or.rec id (fun named => absurd named silent)⟩
  | submitted id digest fresh written =>
      rw [written, accepted_set]
      by_cases same : id = proposalId
      · subst same
        simp [acceptedBy, Accepted, fresh]
      · simp [acceptedBy, same]
  | accepted id digest existing found _ pending written =>
      rw [written, accepted_set]
      by_cases same : id = proposalId <;> simp [acceptedBy, same]
  | decided id digest provenance artifact decision existing found _ open' written =>
      rw [written, accepted_set]
      by_cases same : id = proposalId
      · subst same
        by_cases accepting : decision = .accepted
        · simp [acceptedBy, accepting]
        · -- an accepted proposal is open to its completing decision alone
          have waiting : ¬ Accepted state.proposals id := by
            rintro ⟨record, present, status⟩
            obtain rfl : existing = record := Option.some.inj (found.symm.trans present)
            rcases open' with completes | allowed
            · exact accepting completes.2
            · rw [status] at allowed
              cases allowed
          have silent : acceptedBy (.admissionDecisionRecordedV1 id digest decision provenance
              artifact) ≠ some id := by
            cases decision <;> simp [acceptedBy] at accepting ⊢
          simp [accepting, waiting, silent]
      · have silent : acceptedBy (.admissionDecisionRecordedV1 id digest decision provenance
            artifact) ≠ some proposalId := by
          cases decision <;> simp [acceptedBy, same]
        simp [same, silent]

theorem delta_pending {proposalId proposalDigest : JsString}
    (effect : ProposalEffect state after (.deltaAcceptedV1 proposalId proposalDigest)) :
    ¬ Accepted state.proposals proposalId := by
  cases effect with
  | unchanged _ _ noDelta _ => exact absurd rfl (noDelta proposalId proposalDigest)
  | accepted _ _ existing found _ pending _ =>
      rintro ⟨record, present, status⟩
      obtain rfl : existing = record := Option.some.inj (found.symm.trans present)
      rw [status] at pending
      simp at pending

end Acceptance

section Chains

def acceptingDecision : DomainEventPayloadV1 → Option JsString
  | .run (.admissionDecisionRecordedV1 _ _ proposalId _ _ .accepted _ _ _) => some proposalId
  | _ => none

def deltaProposals (events : List HashedEventEnvelopeV1) : List JsString :=
  (deltas events).map AcceptedDelta.proposalId

def acceptedProposals (state : RunOperationalState) : List JsString :=
  (state.proposals.entries.filter fun entry => entry.2.status = .decided .accepted).map Prod.fst

/-- Accepted proposals and deltas are the same, one for one. -/
structure Agreement (events : List HashedEventEnvelopeV1) (result : ReplayResult) : Prop where
  counted : (acceptedProposals result.operational).length = result.canonical.revision
  once : ∀ proposalId ∈ acceptedProposals result.operational,
    (deltaProposals events).count proposalId = 1
  accepted : ∀ proposalId ∈ deltaProposals events,
    proposalId ∈ acceptedProposals result.operational

def DeltasFirst (events : List HashedEventEnvelopeV1) : Prop :=
  EachAfter (fun front item => ∀ proposalId ∈ acceptingDecision item.envelope.payload,
    proposalId ∈ deltaProposals front) events

theorem deltas_first_concat_iff (front : List HashedEventEnvelopeV1) (item : HashedEventEnvelopeV1) :
    DeltasFirst (front ++ [item]) ↔ DeltasFirst front ∧
      ∀ proposalId ∈ acceptingDecision item.envelope.payload, proposalId ∈ deltaProposals front :=
  each_after_concat_iff _ front item

theorem mem_accepted_proposals (state : RunOperationalState) (proposalId : JsString) :
    proposalId ∈ acceptedProposals state ↔ Accepted state.proposals proposalId := by
  simp only [acceptedProposals, List.mem_map, List.mem_filter, decide_eq_true_eq, Prod.exists,
    Record.mem_entries_iff, Accepted]
  constructor
  · rintro ⟨_, record, ⟨found, status⟩, rfl⟩
    exact ⟨record, found, status⟩
  · rintro ⟨record, found, status⟩
    exact ⟨_, record, ⟨found, status⟩, rfl⟩

theorem accepted_proposals_nodup (state : RunOperationalState) : (acceptedProposals state).Nodup :=
  (List.filter_sublist.map Prod.fst).nodup state.proposals.unique

variable [Engine] {events : List HashedEventEnvelopeV1} {result : ReplayResult}

-- An event is read as a delta, as an accepting decision, or as neither.
theorem read_acceptance {envelope : EventEnvelopeV1} {given : DomainEventPayloadV1}
    {payload : RunOperationalPayload} (read : operationalPayload envelope given = .ok payload) :
    (∃ delta digest, acceptedDelta given = some delta ∧ acceptingDecision given = none ∧
      payload = .deltaAcceptedV1 delta.proposalId digest) ∨
    (acceptedDelta given = none ∧ acceptedBy payload = acceptingDecision given) := by
  cases given with
  | workspace event => cases read
  | run event =>
      cases event <;> simp only [operationalPayload, bind_ok_iff, pure_ok_iff, Except.ok.injEq]
        at read
      case deltaAcceptedV1 workspaceId runId proposalId proposalDigest prior resulting document =>
        obtain ⟨_, _, _, _, rfl⟩ := read
        exact Or.inl ⟨⟨proposalId, prior, document⟩, proposalDigest, rfl, rfl, rfl⟩
      case admissionDecisionRecordedV1 workspaceId runId proposalId proposalDigest transition state
          provenance artifact cursor =>
        obtain ⟨_, _, rfl⟩ := read
        apply Or.inr
        cases state <;> exact ⟨rfl, rfl⟩
      case forkCreatedV1 | contextManifestPublishedV1 =>
        subst read
        exact Or.inr ⟨rfl, rfl⟩
      case proposalSubmittedV1 | attemptReceiptRecordedV1 | taskResolvedV1 =>
        obtain ⟨_, _, rfl⟩ := read
        exact Or.inr ⟨rfl, rfl⟩
      case taskCreatedV1 | taskExecution =>
        obtain ⟨_, _, _, _, rfl⟩ := read
        exact Or.inr ⟨rfl, rfl⟩
      case runCreatedV1 =>
        obtain ⟨_, _, _, _, _, _, _, _, _, _, rfl⟩ := read
        exact Or.inr ⟨rfl, rfl⟩

/-- What a chain's deltas say about its proposals. -/
structure DeltaFacts (events : List HashedEventEnvelopeV1) (state : RunOperationalState) : Prop where
  apart : (deltaProposals events).Nodup
  accepted : ∀ proposalId ∈ deltaProposals events, Accepted state.proposals proposalId
  backed : (∀ proposalId, Accepted state.proposals proposalId →
    proposalId ∈ deltaProposals events) ↔ DeltasFirst events

theorem facts_begin {item : HashedEventEnvelopeV1} (begins : Begins item result) :
    DeltaFacts [item] result.operational := by
  obtain ⟨_, _, _, payload, _⟩ := begins.created
  have noDeltas : deltaProposals [item] = [] := by
    simp [deltaProposals, deltas, payload, acceptedDelta]
  have noneAccepted : ∀ proposalId, ¬ Accepted result.operational.proposals proposalId := by
    rintro proposalId ⟨_, found, _⟩
    rw [begins.operational] at found
    cases found
  constructor
  · rw [noDeltas]
    exact List.nodup_nil
  · rw [noDeltas]
    simp
  · constructor
    · intro _
      apply (deltas_first_concat_iff [] item).mpr
      exact ⟨each_after_nil _, by simp [payload, acceptingDecision]⟩
    · exact fun _ proposalId accepted => absurd accepted (noneAccepted proposalId)

theorem facts_continue {front : List HashedEventEnvelopeV1} {item : HashedEventEnvelopeV1}
    {before after : ReplayResult} (facts : DeltaFacts front before.operational)
    (continues : Continues before item after) : DeltaFacts (front ++ [item]) after.operational := by
  obtain ⟨payload, read, reduced⟩ := continues.payload
  have effect := proposal_effect reduced
  have step := accepted_after effect
  rcases read_acceptance read with ⟨delta, digest, given, quiet, rfl⟩ | ⟨noDelta, same⟩
  · have more : deltaProposals (front ++ [item]) = deltaProposals front ++ [delta.proposalId] := by
      simp [deltaProposals, deltas_concat, given]
    have pending := delta_pending effect
    have fresh : delta.proposalId ∉ deltaProposals front :=
      fun member => pending (facts.accepted _ member)
    constructor
    · rw [more]
      simpa using facts.apart.concat fresh
    · intro proposalId member
      rw [more, List.mem_append, List.mem_singleton] at member
      apply (step proposalId).mpr
      exact member.imp (facts.accepted proposalId) (fun same => by rw [same]; rfl)
    · have kept : DeltasFirst (front ++ [item]) ↔ DeltasFirst front := by
        simp [deltas_first_concat_iff, quiet]
      rw [kept, ← facts.backed, more]
      constructor
      · intro every proposalId accepted
        have listed := every proposalId ((step proposalId).mpr (Or.inl accepted))
        have other : proposalId ≠ delta.proposalId := fun same => pending (same ▸ accepted)
        simpa [other] using listed
      · intro every proposalId accepted
        rcases (step proposalId).mp accepted with old | new
        · exact List.mem_append_left _ (every proposalId old)
        · have same : delta.proposalId = proposalId := by simpa [acceptedBy] using new
          simp [same]
  · have kept : deltaProposals (front ++ [item]) = deltaProposals front := by
      simp [deltaProposals, deltas_concat, noDelta]
    rw [same] at step
    constructor
    · rw [kept]
      exact facts.apart
    · rw [kept]
      exact fun proposalId member => (step proposalId).mpr (Or.inl (facts.accepted _ member))
    · rw [deltas_first_concat_iff, kept]
      constructor
      · intro every
        constructor
        · exact facts.backed.mp fun proposalId accepted =>
            every proposalId ((step proposalId).mpr (Or.inl accepted))
        · exact fun proposalId decided =>
            every proposalId ((step proposalId).mpr (Or.inr decided))
      · rintro ⟨earlier, now⟩ proposalId accepted
        rcases (step proposalId).mp accepted with old | new
        · exact facts.backed.mpr earlier proposalId old
        · exact now proposalId new

theorem delta_facts (replayed : deterministicReplay events = .ok result) :
    DeltaFacts events result.operational := by
  apply replay_induction (motive := fun events result => DeltaFacts events result.operational)
    _ _ replayed
  · exact fun item result begins => facts_begin begins
  · exact fun front item before after _ continues facts => facts_continue facts continues

/-- Acceptances and deltas agree on the chains whose accepting decisions come after
deltas, and on no others. -/
theorem acceptance_agrees_iff (replayed : deterministicReplay events = .ok result) :
    Agreement events result ↔ DeltasFirst events := by
  have facts := delta_facts replayed
  have revision : result.canonical.revision = (deltaProposals events).length := by
    rw [(history_kept replayed).revision, deltaProposals, List.length_map]
  rw [← facts.backed]
  constructor
  · intro agreement proposalId accepted
    have once := agreement.once proposalId ((mem_accepted_proposals _ _).mpr accepted)
    exact List.count_pos_iff.mp (by omega)
  · intro backed
    have members : ∀ proposalId, proposalId ∈ acceptedProposals result.operational ↔
        proposalId ∈ deltaProposals events := by
      intro proposalId
      rw [mem_accepted_proposals]
      exact ⟨backed proposalId, facts.accepted proposalId⟩
    have order := (List.perm_ext_iff_of_nodup (accepted_proposals_nodup result.operational)
      facts.apart).mpr members
    constructor
    · rw [revision, order.length_eq]
    · exact fun proposalId member =>
        List.count_eq_one_of_mem facts.apart ((members proposalId).mp member)
    · exact fun proposalId member => (members proposalId).mpr member

end Chains

section Recorded

attribute [local instance] chainEngine

def recordedAcceptance : DomainEventPayloadV1 :=
  .run (.admissionDecisionRecordedV1 (js "w") (js "r") (js "p") (js "q") .evaluate .accepted
    (js "x") (js "y") sampleCursor)

instance recorded_chains_computed : Fact (endsIn (fun result => (acceptedProposals result.operational).length = 1 ∧
      result.canonical.revision = 0) (deterministicReplay (sealedChain .run [recordedCreation,
        recordedSubmission, recordedAcceptance])) = true ∧
    ∀ item ∈ deltaChain, acceptingDecision item.envelope.payload = none) := ⟨by decide +kernel⟩

/-- A submission accepted by a decision alone: no delta, no revision. -/
theorem decision_alone_accepts : ∃ result,
    deterministicReplay (sealedChain .run [recordedCreation, recordedSubmission,
      recordedAcceptance]) = .ok result ∧
    (acceptedProposals result.operational).length = 1 ∧ result.canonical.revision = 0 ∧
    ¬ Agreement (sealedChain .run [recordedCreation, recordedSubmission, recordedAcceptance])
      result := by
  obtain ⟨result, ran, counts⟩ := ends_in_exists recorded_chains_computed.out.1
  obtain ⟨one, zero⟩ := of_decide_eq_true counts
  refine ⟨result, ran, one, zero, fun agreement => ?_⟩
  have same := agreement.counted
  omega

/-- The run whose proposal has its delta agrees. -/
theorem delta_chain_agrees : ∃ result, deterministicReplay deltaChain = .ok result ∧
    Agreement deltaChain result := by
  obtain ⟨result, ran, _⟩ := ends_in_exists delta_chain_replays.out.2
  refine ⟨result, ran, (acceptance_agrees_iff ran).mpr ?_⟩
  have quiet := recorded_chains_computed.out.2
  rintro front item back split proposalId decided
  rw [quiet item (split ▸ List.mem_append_right front List.mem_cons_self)] at decided
  cases decided

end Recorded

section Decided

def Decided (record : ProposalRecord) : Prop :=
  record.provenanceDigest.isSome = true ∧ record.status ∈ [AdmissionTransitionStateV1.decided
    .accepted, .decided .rejected, .decided .conflicted]

instance (record : ProposalRecord) : Decidable (Decided record) := by
  unfold Decided
  infer_instance

def recordsAcceptance : RunOperationalPayload → Option JsString
  | .admissionDecisionRecordedV1 proposalId _ .accepted _ _ => some proposalId
  | _ => none

/-- What stays of a decided record: all of it, or what its completion leaves. -/
structure KeptRecord (completed : Prop) (record kept : ProposalRecord) : Prop where
  status : kept.status = record.status
  proposalDigest : kept.proposalDigest = record.proposalDigest
  decided : Decided kept
  whole : ¬ completed → kept = record
  final : record.status ≠ .decided .accepted → kept = record

theorem kept_same {completed : Prop} {record : ProposalRecord} (decided : Decided record) :
    KeptRecord completed record record :=
  ⟨rfl, rfl, decided, fun _ => rfl, fun _ => rfl⟩

variable [Engine] {state : RunOperationalState} {proposalId : JsString} {record : ProposalRecord}

theorem decided_step {event : RunOperationalEvent} {after : RunOperationalState}
    (decided : Decided record) (found : state.proposals.get proposalId = some record)
    (reduced : reduceOperationalState (some state) event = .ok after) :
    ∃ kept, after.proposals.get proposalId = some kept ∧
      KeptRecord (recordsAcceptance event.payload = some proposalId) record kept := by
  have effect := proposal_effect reduced
  cases shape : event.payload with
  | proposalSubmittedV1 id digest =>
      rw [shape] at effect
      cases effect with
      | unchanged _ same => exact ⟨record, same ▸ found, kept_same decided⟩
      | submitted _ _ fresh written =>
          have other : id ≠ proposalId := by
            rintro rfl
            rw [fresh] at found
            cases found
          exact ⟨record, by rw [written, Record.get_set_other _ _ other, found], kept_same decided⟩
  | deltaAcceptedV1 id digest =>
      rw [shape] at effect
      cases effect with
      | unchanged _ _ noDelta => exact absurd rfl (noDelta id digest)
      | accepted _ _ existing there _ pending written =>
          have other : id ≠ proposalId := by
            rintro rfl
            obtain rfl : existing = record := Option.some.inj (there.symm.trans found)
            obtain ⟨_, status⟩ := decided
            simp only [List.mem_cons, List.not_mem_nil, or_false] at status pending
            rcases status with same | same | same <;> simp [same] at pending
          exact ⟨record, by rw [written, Record.get_set_other _ _ other, found], kept_same decided⟩
  | admissionDecisionRecordedV1 id digest decision provenance artifact =>
      rw [shape] at effect
      cases effect with
      | unchanged _ _ _ noDecision =>
          exact absurd rfl (noDecision id digest decision provenance artifact)
      | decided _ _ _ _ _ existing there same open' written =>
          by_cases other : id = proposalId
          · subst other
            obtain rfl : existing = record := Option.some.inj (there.symm.trans found)
            have completes : Completes existing decision := by
              rcases open' with completes | allowed
              · exact completes
              · obtain ⟨_, status⟩ := decided
                simp only [List.mem_cons, List.not_mem_nil, or_false] at status
                rcases status with final | final | final <;> simp [final, admissionTransitions] at allowed
            obtain ⟨accepted, rfl⟩ := completes
            refine ⟨_, by rw [written, Record.get_set_same], ?_⟩
            constructor
            · exact accepted.symm
            · exact same.symm
            · exact ⟨rfl, by simp⟩
            · exact fun silent => absurd rfl silent
            · exact fun differs => absurd accepted differs
          · exact ⟨record, by rw [written, Record.get_set_other _ _ other, found], kept_same decided⟩
  | _ =>
      rw [shape] at effect
      cases effect with
      | unchanged _ same => exact ⟨record, same ▸ found, kept_same decided⟩

/-- A decided record keeps its status and its proposal; only the decision that records the
acceptance of an accepted proposal writes anything else of it. -/
theorem decided_records_final {events : List RunOperationalEvent} {after : RunOperationalState}
    (decided : Decided record) (found : state.proposals.get proposalId = some record)
    (ran : operationalRun (some state) events = .ok (some after)) :
    ∃ kept, after.proposals.get proposalId = some kept ∧
      KeptRecord (∃ event ∈ events, recordsAcceptance event.payload = some proposalId) record kept := by
  induction events generalizing state record with
  | nil =>
      have same : after = state := by simpa using ran
      exact ⟨record, same ▸ found, kept_same decided⟩
  | cons event rest ih =>
      obtain ⟨middle, reduced, ran⟩ := run_cons_iff.mp ran
      obtain ⟨kept, there, now⟩ := decided_step decided found reduced
      obtain ⟨last, present, later⟩ := ih now.decided there ran
      refine ⟨last, present, ?_⟩
      constructor
      · exact later.status.trans now.status
      · exact later.proposalDigest.trans now.proposalDigest
      · exact later.decided
      · intro silent
        have first : kept = record :=
          now.whole fun named => silent ⟨event, List.mem_cons_self, named⟩
        have rest : last = kept := later.whole fun ⟨event, member, named⟩ =>
          silent ⟨event, List.mem_cons_of_mem _ member, named⟩
        exact rest.trans first
      · intro open'
        have first := now.final open'
        exact (later.final (now.status ▸ open')).trans first

end Decided

section Reviewed

attribute [local instance] recordedEngine

def reviewEvent (sequence : Nat) (payload : RunOperationalPayload) : RunOperationalEvent :=
  ⟨sequence, js "w", js "r", payload⟩

def reviewDecision (sequence : Nat) (state : AdmissionDecisionStateV1) (provenance : JsString) :
    RunOperationalEvent :=
  reviewEvent sequence (.admissionDecisionRecordedV1 (js "p") (js "q") state provenance (js "y"))

def reviewedRun : List RunOperationalEvent :=
  [reviewEvent 1 .runCreatedV1, reviewEvent 2 (.proposalSubmittedV1 (js "p") (js "q")),
    reviewDecision 3 .approvalRequired (js "review"),
    reviewEvent 4 (.deltaAcceptedV1 (js "p") (js "q"))]

/-- The approval of an accepted proposal replaces the provenance of its review. -/
theorem approval_rewrites_review : ∃ state record after,
    operationalRun none reviewedRun = .ok (some state) ∧
    state.proposals.get (js "p") = some record ∧ Decided record ∧
    operationalRun (some state) [reviewDecision 5 .accepted (js "approval")] = .ok (some after) ∧
    after.proposals.get (js "p") ≠ some record := by
  refine ⟨_, _, _, rfl, rfl, ?_, rfl, ?_⟩
  · decide
  · decide

def rejectedRun : List RunOperationalEvent :=
  [reviewEvent 1 .runCreatedV1, reviewEvent 2 (.proposalSubmittedV1 (js "p") (js "q")),
    reviewDecision 3 .rejected (js "review")]

/-- A rejected proposal stays as it is while the run goes on. -/
theorem rejected_record_kept : ∃ state record after,
    operationalRun none rejectedRun = .ok (some state) ∧
    state.proposals.get (js "p") = some record ∧
    operationalRun (some state) [reviewEvent 4 .forkCreatedV1] = .ok (some after) ∧
    after.proposals.get (js "p") = some record := by
  have recorded : ∃ state record after, operationalRun none rejectedRun = .ok (some state) ∧
      state.proposals.get (js "p") = some record ∧
      operationalRun (some state) [reviewEvent 4 .forkCreatedV1] = .ok (some after) ∧
      Decided record ∧ record.status ≠ .decided .accepted :=
    ⟨_, _, _, rfl, rfl, rfl, by decide, by decide⟩
  obtain ⟨state, record, after, ran, found, later, decided, rejected⟩ := recorded
  obtain ⟨kept, there, history⟩ := decided_records_final decided found later
  exact ⟨state, record, after, ran, found, later, by rw [there, history.final rejected]⟩

end Reviewed

end Horseness.AdmissionRecords
