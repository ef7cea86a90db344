import Horseness.JsonPaths
import Horseness.ExecutionSteps
import Horseness.Replay

/-!
What each replayed event can do, and the induction over chains: a chain that replays is
a genesis event followed by events that each continue the replay of what is before them.
-/

namespace Horseness.ReplaySteps

open FallibleRuns Records ScriptText JsonValues PlainObjects ScriptEngine Canonical JsonPaths
  ExecutionEvents EventPayloads EventChains Replay

section Objects

variable {Value : Type} {record : Record JsString Value} {key : JsString}

theorem read_none (missing : memberOf record key = none) : record.get key = none := by
  unfold memberOf at missing
  cases owned : record.get key with
  | none => rfl
  | some value => simp [owned] at missing

theorem read_some {value : Value} (found : memberOf record key = some (some value)) :
    record.get key = some value := by
  unfold memberOf at found
  cases owned : record.get key with
  | none =>
      rw [owned] at found
      dsimp only at found
      split at found <;> cases found
  | some other => simpa [owned] using found

theorem unrecorded_none {same : Value → Bool} {conflict duplicate : DomainError}
    (fresh : unrecorded record key same conflict duplicate = .ok ()) : record.get key = none := by
  unfold unrecorded at fresh
  split at fresh
  · next missing => exact read_none missing
  · cases fresh
  · cases fresh

theorem known_some {proposals : Record JsString ProposalRecord} {proposalDigest : JsString}
    {existing : ProposalRecord} (known : knownProposal proposals key proposalDigest = .ok existing) :
    proposals.get key = some existing ∧ existing.proposalDigest = proposalDigest := by
  simp only [knownProposal, bind_ok_iff, required_ok_iff, ensure_ok_iff, pure_ok_iff] at known
  obtain ⟨_, found, _, rfl, _, same, rfl⟩ := known
  exact ⟨read_some found, same⟩

end Objects

section Operations

variable [Engine] {state after : RunOperationalState} {event : RunOperationalEvent}

def advanced (state : RunOperationalState) (event : RunOperationalEvent) : RunOperationalState :=
  { state with
    eventCount := state.eventCount + 1
    contextEpoch := state.contextEpoch + 1
    lastEventSequence := event.sequence }

theorem operational_step (accepted : reduceOperationalState (some state) event = .ok after) :
    isRunCreated event.payload = false ∧
      reduceOperationalPayload state (advanced state event) event = .ok after := by
  unfold reduceOperationalState at accepted
  split at accepted
  · simp only [bind_ok_iff, ensure_ok_iff, Option.isNone_some, Bool.false_eq_true, false_and,
      exists_const] at accepted
  · next other =>
      simp only [bind_ok_iff, required_ok_iff, ensure_ok_iff] at accepted
      obtain ⟨current, same, _, _, _, _, accepted⟩ := accepted
      obtain rfl := Option.some.inj same
      exact ⟨by simpa using other, accepted⟩

theorem operational_genesis (accepted : reduceOperationalState none event = .ok after) :
    isRunCreated event.payload = true ∧ after = createRun event := by
  unfold reduceOperationalState at accepted
  split at accepted
  · next created =>
      simp only [bind_ok_iff, pure_ok_iff] at accepted
      obtain ⟨_, _, rfl⟩ := accepted
      exact ⟨created, rfl⟩
  · simp [bind_ok_iff] at accepted

def operationalRun (state : Option RunOperationalState) (events : List RunOperationalEvent) :
    Except DomainError (Option RunOperationalState) :=
  events.foldlM (fun state event => do return some (← reduceOperationalState state event)) state

theorem run_cons_iff {start after : Option RunOperationalState} {rest : List RunOperationalEvent} :
    operationalRun start (event :: rest) = .ok after ↔ ∃ middle,
      reduceOperationalState start event = .ok middle ∧
        operationalRun (some middle) rest = .ok after := by
  simp only [operationalRun, foldlM_cons_ok_iff, bind_ok_iff, pure_ok_iff]
  constructor
  · rintro ⟨_, ⟨middle, reduced, rfl⟩, folded⟩
    exact ⟨middle, reduced, folded⟩
  · rintro ⟨middle, reduced, folded⟩
    exact ⟨_, ⟨middle, reduced, rfl⟩, folded⟩

@[simp] theorem run_nil_iff {start after : Option RunOperationalState} :
    operationalRun start [] = .ok after ↔ after = start := by
  rw [operationalRun, List.foldlM_nil, pure_ok_iff, eq_comm]

/-- An event that moves an accepted proposal on completes its delta. -/
def Completes (existing : ProposalRecord) (decision : AdmissionDecisionStateV1) : Prop :=
  existing.status = .decided .accepted ∧ decision = .accepted

/-- What an event does to the records of proposals. -/
inductive ProposalEffect (state after : RunOperationalState) : RunOperationalPayload → Prop where
  | unchanged (payload : RunOperationalPayload) (same : after.proposals = state.proposals)
      (noDelta : ∀ id digest, payload ≠ .deltaAcceptedV1 id digest)
      (noDecision : ∀ id digest decision provenance artifact,
        payload ≠ .admissionDecisionRecordedV1 id digest decision provenance artifact) :
      ProposalEffect state after payload
  | submitted (proposalId proposalDigest : JsString)
      (fresh : state.proposals.get proposalId = none)
      (written : after.proposals =
        state.proposals.set proposalId ⟨.submitted, proposalDigest, none, none⟩) :
      ProposalEffect state after (.proposalSubmittedV1 proposalId proposalDigest)
  | accepted (proposalId proposalDigest : JsString) (existing : ProposalRecord)
      (found : state.proposals.get proposalId = some existing)
      (same : existing.proposalDigest = proposalDigest)
      (pending : existing.status ∈ [AdmissionTransitionStateV1.submitted, .decided .approvalRequired,
        .decided .quarantined])
      (written : after.proposals =
        state.proposals.set proposalId { existing with status := .decided .accepted }) :
      ProposalEffect state after (.deltaAcceptedV1 proposalId proposalDigest)
  | decided (proposalId proposalDigest provenanceDigest artifactDigest : JsString)
      (decision : AdmissionDecisionStateV1) (existing : ProposalRecord)
      (found : state.proposals.get proposalId = some existing)
      (same : existing.proposalDigest = proposalDigest)
      (open' : Completes existing decision ∨
        decision ∈ admissionTransitions existing.status)
      (written : after.proposals = state.proposals.set proposalId
        ⟨.decided decision, proposalDigest, some provenanceDigest, some artifactDigest⟩) :
      ProposalEffect state after
        (.admissionDecisionRecordedV1 proposalId proposalDigest decision provenanceDigest
          artifactDigest)

theorem proposal_effect (accepted : reduceOperationalState (some state) event = .ok after) :
    ProposalEffect state after event.payload := by
  obtain ⟨_, stepped⟩ := operational_step accepted
  unfold reduceOperationalPayload at stepped
  cases kind : event.payload with
  | execution payload =>
      simp only [kind, bind_ok_iff, pure_ok_iff] at stepped
      obtain ⟨_, _, rfl⟩ := stepped
      exact .unchanged _ rfl (by simp) (by simp)
  | runCreatedV1 => simp [kind] at stepped
  | taskCreatedV1 taskId title =>
      simp only [kind, bind_ok_iff, pure_ok_iff] at stepped
      obtain ⟨_, _, rfl⟩ := stepped
      exact .unchanged _ rfl (by simp) (by simp)
  | proposalSubmittedV1 proposalId proposalDigest =>
      simp only [kind, bind_ok_iff, pure_ok_iff] at stepped
      obtain ⟨_, fresh, rfl⟩ := stepped
      exact .submitted proposalId proposalDigest (unrecorded_none fresh) rfl
  | deltaAcceptedV1 proposalId proposalDigest =>
      simp only [kind, bind_ok_iff, ensure_ok_iff, pure_ok_iff] at stepped
      obtain ⟨existing, known, _, pending, rfl⟩ := stepped
      obtain ⟨found, same⟩ := known_some known
      exact .accepted proposalId proposalDigest existing found same pending rfl
  | admissionDecisionRecordedV1 proposalId proposalDigest decision provenanceDigest artifactDigest =>
      simp only [kind, bind_ok_iff, ensure_ok_iff] at stepped
      obtain ⟨existing, known, _, _, stepped⟩ := stepped
      obtain ⟨found, same⟩ := known_some known
      by_cases completes : Completes existing decision
      · have plain := completes
        unfold Completes at plain
        simp only [plain, and_self, not_true_eq_false, if_false, pure_ok_iff] at stepped
        subst stepped
        exact .decided proposalId proposalDigest provenanceDigest artifactDigest decision existing
          found same (Or.inl completes) (by simp [advanced, plain.2])
      · have plain := completes
        unfold Completes at plain
        rw [if_pos plain] at stepped
        simp only [bind_ok_iff, validateAdmissionTransition, ensure_ok_iff, pure_ok_iff] at stepped
        obtain ⟨_, allowed, rfl⟩ := stepped
        exact .decided proposalId proposalDigest provenanceDigest artifactDigest decision existing
          found same (Or.inr allowed) rfl
  | attemptReceiptRecordedV1 receiptId receiptDigest outcome =>
      simp only [kind, bind_ok_iff, pure_ok_iff] at stepped
      obtain ⟨_, _, rfl⟩ := stepped
      exact .unchanged _ rfl (by simp) (by simp)
  | taskResolvedV1 taskId resolution =>
      simp only [kind, bind_ok_iff, pure_ok_iff] at stepped
      obtain ⟨_, _, rfl⟩ := stepped
      exact .unchanged _ rfl (by simp) (by simp)
  | forkCreatedV1 | contextManifestPublishedV1 =>
      simp only [kind, Except.ok.injEq] at stepped
      subst stepped
      exact .unchanged _ rfl (by simp) (by simp)

end Operations

section Chains

variable [Engine] {events front back : List HashedEventEnvelopeV1} {item : HashedEventEnvelopeV1}

-- Every event of a verified chain has a parsed payload of its own type.
theorem verified_member (verified : verifyEventChain events = .ok ()) :
    ∀ item ∈ events, parseDomainEventPayloadV1 item.envelope.payload = .ok () ∧
      item.envelope.payload.eventType = item.envelope.eventType := by
  simp only [verifyEventChain, bind_ok_iff] at verified
  obtain ⟨_, _, _, _, _, folded, _⟩ := verified
  intro item member
  obtain ⟨before, after, accepted⟩ := foldlM_member folded item member
  simp only [verifyEvent, bind_ok_iff, ensure_ok_iff, map_error_ok_iff] at accepted
  obtain ⟨_, _, _, _, _, _, _, _, _, _, _, _, _, _, _, parsed, _, named, _⟩ := accepted
  exact ⟨parsed, named⟩

theorem verified_head (verified : verifyEventChain (item :: back) = .ok ()) :
    item.envelope.eventType = genesisType item.envelope.streamKind := by
  simp only [verifyEventChain, bind_ok_iff, required_ok_iff, ensure_ok_iff, List.head?_cons,
    Option.some.injEq] at verified
  obtain ⟨_, rfl, _, _, _, _, genesis, _⟩ := verified
  exact genesis

theorem verified_front (verified : verifyEventChain (front ++ back) = .ok ()) (filled : front ≠ []) :
    verifyEventChain front = .ok () := by
  obtain ⟨item, rest, rfl⟩ := List.exists_cons_of_ne_nil filled
  simp only [verifyEventChain, bind_ok_iff, required_ok_iff, ensure_ok_iff, List.cons_append,
    List.head?_cons, Option.some.injEq, exists_eq_left', foldlM_append_ok_iff, foldlM_cons_ok_iff]
    at verified ⊢
  obtain ⟨done, identity, _, ⟨middle, first, last, folded, _⟩, genesis⟩ := verified
  exact ⟨done, identity, last, ⟨middle, first, folded⟩, genesis⟩

omit [Engine] in
theorem execution_named (payload : TaskExecutionPayloadV1) (kind : StreamKind) :
    TaskExecutionPayloadV1.eventType payload ≠ genesisType kind := by
  cases kind <;> cases payload <;> simp only [TaskExecutionPayloadV1.eventType, genesisType] <;>
    decide

omit [Engine] in
theorem named_run_created {payload : DomainEventPayloadV1}
    (named : payload.eventType = genesisType .run) :
    ∃ workspaceId runId document, payload = .run (.runCreatedV1 workspaceId runId document) := by
  simp only [DomainEventPayloadV1.eventType] at named
  cases payload with
  | workspace payload =>
      cases payload <;> simp only [WorkspaceEventPayloadV1.eventType, genesisType] at named <;>
        exact absurd named (by decide)
  | run payload =>
      cases payload with
      | runCreatedV1 workspaceId runId document => exact ⟨workspaceId, runId, document, rfl⟩
      | taskExecution event => exact absurd named (execution_named event.payload .run)
      | _ =>
          simp only [RunEventPayloadV1.eventType, genesisType] at named
          exact absurd named (by decide)

theorem genesis_named (verified : verifyEventChain (item :: back) = .ok ()) :
    item.envelope.payload.eventType = genesisType item.envelope.streamKind :=
  (verified_member verified item List.mem_cons_self).2.trans (verified_head verified)

end Chains

section RunChains

variable [Engine] {events front back : List HashedEventEnvelopeV1} {item : HashedEventEnvelopeV1}
  {before after result : ReplayResult}

/-- The event continues a replayed chain. -/
structure Continues (before : ReplayResult) (item : HashedEventEnvelopeV1) (after : ReplayResult) :
    Prop where
  payload : ∃ payload, operationalPayload item.envelope item.envelope.payload = .ok payload ∧
    reduceOperationalState (some before.operational) ⟨item.envelope.sequence,
      item.envelope.workspaceId, item.envelope.streamId, payload⟩ = .ok after.operational
  canonical : replayCanonical (some before.canonical) (canonicalEvent item.envelope
    item.envelope.payload) = .ok (some after.canonical)

/-- The event begins a chain, with this replay. -/
structure Begins (item : HashedEventEnvelopeV1) (result : ReplayResult) : Prop where
  created : ∃ workspaceId runId document,
    item.envelope.payload = .run (.runCreatedV1 workspaceId runId document) ∧
      Valid document ∧ documentDigest (normalize document) = .ok result.canonical.stateHash ∧
      result.canonical = ⟨item.envelope.workspaceId, item.envelope.streamId, 0, normalize document,
        result.canonical.stateHash, none, 1⟩
  operational : result.operational = createRun ⟨item.envelope.sequence, item.envelope.workspaceId,
    item.envelope.streamId, .runCreatedV1⟩

theorem canonical_kept {state after : Option CanonicalDocument} {event : Option CanonicalEvent}
    (replayed : replayCanonical state event = .ok after) (present : state.isSome = true) :
    after.isSome = true := by
  cases event with
  | none =>
      obtain rfl := Except.ok.inj replayed
      exact present
  | some event =>
      simp only [replayCanonical, bind_ok_iff, pure_ok_iff] at replayed
      obtain ⟨_, _, rfl⟩ := replayed
      rfl

theorem event_continues {state : RunReplay}
    (replayed : replayEvent ⟨some before.canonical, some before.operational⟩ item = .ok state) :
    ∃ after, state = ⟨some after.canonical, some after.operational⟩ ∧
      Continues before item after := by
  simp only [replayEvent, bind_ok_iff, pure_ok_iff] at replayed
  obtain ⟨payload, read, canonical, moved, operational, reduced, rfl⟩ := replayed
  obtain ⟨document, rfl⟩ := Option.isSome_iff_exists.mp (canonical_kept moved rfl)
  exact ⟨⟨document, operational⟩, rfl, ⟨payload, read, reduced⟩, moved⟩

theorem event_begins {state : RunReplay} {workspaceId runId : JsString} {document : JsValue}
    (shape : item.envelope.payload = .run (.runCreatedV1 workspaceId runId document))
    (replayed : replayEvent ⟨none, none⟩ item = .ok state) :
    ∃ result, state = ⟨some result.canonical, some result.operational⟩ ∧ Begins item result := by
  simp only [replayEvent, bind_ok_iff, pure_ok_iff, shape, operationalPayload, canonicalEvent,
    replayCanonical, reduceCanonicalDocument, clone_ok_iff] at replayed
  obtain ⟨payload, ⟨_, _, _, _, _, _, _, _, _, _, rfl⟩, canonical,
    ⟨made, ⟨_, _, copy, ⟨valid, rfl⟩, hash, hashed, rfl⟩, rfl⟩, operational, reduced, rfl⟩ := replayed
  obtain ⟨_, same⟩ := operational_genesis reduced
  subst same
  exact ⟨⟨_, _⟩, rfl, ⟨workspaceId, runId, document, shape, valid, hashed, rfl⟩, rfl⟩

theorem replay_ok_iff : deterministicReplay events = .ok result ↔ verifyEventChain events = .ok () ∧
    (∃ first, events.head? = some first ∧ first.envelope.streamKind = .run) ∧
    events.foldlM replayEvent ⟨none, none⟩ =
      .ok ⟨some result.canonical, some result.operational⟩ := by
  simp only [deterministicReplay, bind_ok_iff, required_ok_iff, ensure_ok_iff, pure_ok_iff]
  constructor
  · rintro ⟨_, verified, first, head, _, kind, ⟨_, _⟩, folded, canonical, rfl, operational, rfl, rfl⟩
    exact ⟨verified, ⟨first, head, kind⟩, folded⟩
  · rintro ⟨verified, ⟨first, head, kind⟩, folded⟩
    exact ⟨(), verified, first, head, (), kind, _, folded, _, rfl, _, rfl, rfl⟩

theorem fold_filled {state : RunReplay} (verified : verifyEventChain (item :: back) = .ok ())
    (kind : item.envelope.streamKind = .run)
    (folded : (item :: back).foldlM replayEvent ⟨none, none⟩ = .ok state) :
    ∃ result : ReplayResult, state = ⟨some result.canonical, some result.operational⟩ := by
  have named := genesis_named verified
  rw [kind] at named
  obtain ⟨workspaceId, runId, document, shape⟩ := named_run_created named
  obtain ⟨middle, first, rest⟩ := (foldlM_cons_ok_iff _ _ _ _ _).mp folded
  obtain ⟨begun, rfl, _⟩ := event_begins shape first
  apply foldlM_invariant replayEvent
    (fun state => ∃ result : ReplayResult, state = ⟨some result.canonical, some result.operational⟩)
    back _ _ _ ⟨begun, rfl⟩ rest
  rintro _ later after _ ⟨before, rfl⟩ stepped
  obtain ⟨result, same, _⟩ := event_continues stepped
  exact ⟨result, same⟩

-- What is before an event of a replayed chain replays, and the event continues it.
theorem replay_front (filled : front ≠ []) (replayed : deterministicReplay (front ++ [item]) = .ok after) :
    ∃ before, deterministicReplay front = .ok before ∧ Continues before item after := by
  obtain ⟨verified, ⟨head, first, kind⟩, folded⟩ := replay_ok_iff.mp replayed
  have front_verified := verified_front verified filled
  obtain ⟨state, folded, stepped⟩ := (foldlM_concat_ok_iff _ _ _ _ _).mp folded
  obtain ⟨start, rest, rfl⟩ := List.exists_cons_of_ne_nil filled
  obtain rfl : start = head := by simpa using first
  obtain ⟨before, rfl⟩ := fold_filled front_verified kind folded
  obtain ⟨result, same, continues⟩ := event_continues stepped
  refine ⟨before, replay_ok_iff.mpr ⟨front_verified, ⟨start, rfl, kind⟩, folded⟩, ?_⟩
  obtain ⟨canonical, operational⟩ := result
  obtain ⟨canonical', operational'⟩ := after
  simp only [RunReplay.mk.injEq, Option.some.injEq] at same
  obtain ⟨rfl, rfl⟩ := same
  exact continues

theorem replay_prefix (filled : front ≠ []) (replayed : deterministicReplay (front ++ back) = .ok result) :
    ∃ past, deterministicReplay front = .ok past := by
  induction back using List.reverseRecOn generalizing result with
  | nil => exact ⟨result, by simpa using replayed⟩
  | append_singleton back item ih =>
      rw [← List.append_assoc] at replayed
      have longer : front ++ back ≠ [] := fun empty => filled (List.append_eq_nil_iff.mp empty).1
      obtain ⟨before, shorter, _⟩ := replay_front longer replayed
      exact ih shorter

-- A chain that replays is a beginning and events that each continue it.
theorem replay_induction {motive : List HashedEventEnvelopeV1 → ReplayResult → Prop}
    (genesis : ∀ item result, Begins item result → motive [item] result)
    (next : ∀ front item before after, deterministicReplay front = .ok before →
      Continues before item after → motive front before → motive (front ++ [item]) after)
    (replayed : deterministicReplay events = .ok result) : motive events result := by
  induction events using List.reverseRecOn generalizing result with
  | nil =>
      obtain ⟨_, ⟨first, missing, _⟩, _⟩ := replay_ok_iff.mp replayed
      cases missing
  | append_singleton front item ih =>
      by_cases empty : front = []
      · subst empty
        obtain ⟨verified, ⟨first, head, kind⟩, folded⟩ := replay_ok_iff.mp replayed
        obtain rfl : item = first := by simpa using head
        have named := genesis_named verified
        rw [kind] at named
        obtain ⟨workspaceId, runId, document, shape⟩ := named_run_created named
        obtain ⟨state, stepped, done⟩ := (foldlM_cons_ok_iff _ _ _ _ _).mp folded
        obtain ⟨begun, rfl, begins⟩ := event_begins shape stepped
        simp only [List.foldlM_nil, pure_ok_iff, RunReplay.mk.injEq, Option.some.injEq] at done
        obtain ⟨canonical, operational⟩ := result
        obtain ⟨rfl, rfl⟩ := done
        exact genesis item begun begins
      · obtain ⟨before, replayedFront, continues⟩ := replay_front empty replayed
        exact next front item before result replayedFront continues (ih replayedFront)

end RunChains

end Horseness.ReplaySteps
