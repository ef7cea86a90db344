import Horseness.AdmissionService
import Horseness.TreeDeltas

/-!
What an admission does to the tables. A call leaves them as they are, or it adds the sealed
events of one decided case behind the heads of the run and of the workspace.
-/

namespace Horseness.AdmissionCommits

open FallibleRuns ScriptText JsonValues ScriptEngine Canonical Cursors EventPayloads EventChains
  Replay Delta TreeDeltas AuthorityLog AppendLog PolicyEvaluation Proposals AuthoritySnapshots
  AdmissionService

section Sealing

variable [Engine] {request : AdmissionRequestV1} {key : StreamKey} {number : Nat}
  {prior : JsString} {payload : DomainEventPayloadV1} {event : HashedEventEnvelopeV1}

/-- The event of a request with this payload, at this number of its stream. -/
structure SealedFor (request : AdmissionRequestV1) (key : StreamKey) (number : Nat)
    (payload : DomainEventPayloadV1) (event : HashedEventEnvelopeV1) : Prop where
  kind : event.envelope.streamKind = key.streamKind
  workspace : event.envelope.workspaceId = key.workspaceId
  stream : event.envelope.streamId = key.streamId
  sequence : event.envelope.sequence = number
  payload : event.envelope.payload = payload
  identity : eventIdentity request.commandId key.streamKind number = .ok event.envelope.eventId

theorem event_sealed (built : admissionEvent request key number prior payload = .ok event) :
    SealedFor request key number payload event := by
  simp only [admissionEvent, sealEventEnvelope, inDomain, map_error_ok_iff, bind_ok_iff,
    pure_ok_iff] at built
  rcases built with ⟨identity, named, _, _, _, _, rfl⟩
  exact ⟨rfl, rfl, rfl, rfl, rfl, named⟩

/-- Events for these payloads, one after another behind a number. -/
inductive SealedRun (request : AdmissionRequestV1) (key : StreamKey) :
    Nat → List DomainEventPayloadV1 → List HashedEventEnvelopeV1 → Prop
  | done (number : Nat) : SealedRun request key number [] []
  | next {number : Nat} {payload : DomainEventPayloadV1} {event : HashedEventEnvelopeV1}
      {payloads : List DomainEventPayloadV1} {events : List HashedEventEnvelopeV1}
      (first : SealedFor request key (number + 1) payload event)
      (rest : SealedRun request key (number + 1) payloads events) :
      SealedRun request key number (payload :: payloads) (event :: events)

theorem sealed_append {payloads more : List DomainEventPayloadV1}
    {events later : List HashedEventEnvelopeV1} (first : SealedRun request key number payloads events)
    (second : SealedRun request key (number + payloads.length) more later) :
    SealedRun request key number (payloads ++ more) (events ++ later) := by
  induction first with
  | done => exact second
  | next sealed rest ih =>
      refine .next sealed (ih ?_)
      rw [List.length_cons] at second
      convert second using 1
      omega

theorem sealed_sorted {payloads : List DomainEventPayloadV1} {events : List HashedEventEnvelopeV1}
    (run : SealedRun request key number payloads events) :
    events.Pairwise (fun left right => left.envelope.sequence < right.envelope.sequence) ∧
      ∀ event ∈ events, number < event.envelope.sequence := by
  induction run with
  | done => exact ⟨.nil, by simp⟩
  | next first rest ih =>
      have own := first.sequence
      refine ⟨List.pairwise_cons.mpr ⟨fun event member => ?_, ih.1⟩, fun event member => ?_⟩
      · have above := ih.2 event member
        omega
      · rcases List.mem_cons.mp member with rfl | later
        · omega
        · have above := ih.2 event later
          omega

theorem next_sealed {position next : Nat × JsString} {given : Option DomainEventPayloadV1}
    {events : List HashedEventEnvelopeV1}
    (built : nextEvent request key position given = .ok (events, next)) :
    SealedRun request key position.1 given.toList events ∧
      next.1 = position.1 + given.toList.length := by
  cases given with
  | none =>
      simp only [nextEvent, Except.ok.injEq, Prod.mk.injEq] at built
      rcases built with ⟨rfl, rfl⟩
      exact ⟨.done _, rfl⟩
  | some payload =>
      simp only [nextEvent, bind_ok_iff, pure_ok_iff, Prod.mk.injEq] at built
      rcases built with ⟨event, built, rfl, rfl⟩
      exact ⟨.next (event_sealed built) (.done _), rfl⟩

theorem sealed_option {given : Option DomainEventPayloadV1} {events : List HashedEventEnvelopeV1}
    (run : SealedRun request key number given.toList events) :
    (given = none ∧ events = []) ∨ ∃ payload event, given = some payload ∧ events = [event] ∧
      SealedFor request key (number + 1) payload event := by
  cases given with
  | none =>
      cases run
      exact .inl ⟨rfl, rfl⟩
  | some payload =>
      cases run with
      | next first rest =>
          cases rest
          exact .inr ⟨payload, _, rfl, rfl, first⟩

def runPayloads (request : AdmissionRequestV1) (admission : AdmissionCase)
    (digests : ProvenanceDigests) : List DomainEventPayloadV1 :=
  (submittedPayload request admission).toList ++ (acceptedPayload request admission).toList ++
    [decisionPayload request admission digests]

/-- The events of a case, each sealed behind the one before it. -/
structure Built (request : AdmissionRequestV1) (admission : AdmissionCase) (events : AdmissionEvents) :
    Prop where
  run : SealedRun request (.run request.proposal.core.workspaceId request.proposal.core.runId)
    admission.observed.runSequence (runPayloads request admission events.digests) events.runEvents
  submitted : SealedRun request (.run request.proposal.core.workspaceId request.proposal.core.runId)
    admission.observed.runSequence (submittedPayload request admission).toList events.submitted
  accepted : SealedRun request (.run request.proposal.core.workspaceId request.proposal.core.runId)
    (admission.observed.runSequence + (submittedPayload request admission).toList.length)
    (acceptedPayload request admission).toList events.accepted
  workspace : SealedFor request (.workspace request.proposal.core.workspaceId)
    (admission.observed.workspaceSequence + 1)
    (workspacePayloadOf request admission events.decision.envelope.eventId) events.workspaceEvent
  decided : SealedFor request (.run request.proposal.core.workspaceId request.proposal.core.runId)
    (admission.observed.runSequence + (submittedPayload request admission).toList.length +
      (acceptedPayload request admission).toList.length + 1)
    (decisionPayload request admission events.digests) events.decision

theorem events_built {admission : AdmissionCase} {events : AdmissionEvents}
    (built : admissionEvents request admission = .ok events) : Built request admission events := by
  simp only [admissionEvents, bind_ok_iff, pure_ok_iff] at built
  rcases built with ⟨digests, _, ⟨submitted, first⟩, opened, ⟨accepted, second⟩, moved, decision,
    decided, workspaceEvent, recorded, rfl⟩
  rcases next_sealed opened with ⟨submission, behindFirst⟩
  rcases next_sealed moved with ⟨delta, behindSecond⟩
  have last := event_sealed decided
  rw [behindFirst] at delta behindSecond
  rw [behindSecond] at last
  refine ⟨?_, submission, delta, event_sealed recorded, last⟩
  refine sealed_append (sealed_append submission delta) (.next ?_ (.done _))
  rw [List.length_append, ← Nat.add_assoc]
  exact last

end Sealing

section Cases

variable [Engine] {around : Surroundings} {request : AdmissionRequestV1} {state after : Authority}
  {admission : AdmissionCase} {events : AdmissionEvents} {result : AdmissionResultV1}

def AdmissionRequestV1.runKey (request : AdmissionRequestV1) : StreamKey :=
  .run request.proposal.core.workspaceId request.proposal.core.runId

def AdmissionRequestV1.workspaceKey (request : AdmissionRequestV1) : StreamKey :=
  .workspace request.proposal.core.workspaceId

/-- What an assessed case was decided from. -/
structure Assessed (around : Surroundings) (request : AdmissionRequestV1) (state : Authority)
    (admission : AdmissionCase) : Prop where
  proposal : Verified request.proposal
  runRows : authenticatedRows state (AdmissionRequestV1.runKey request) =
    .ok (state.rows (AdmissionRequestV1.runKey request))
  workspaceRows : authenticatedRows state (AdmissionRequestV1.workspaceKey request) =
    .ok (state.rows (AdmissionRequestV1.workspaceKey request))
  revision : loadRevision (state.rows (AdmissionRequestV1.runKey request)) = .ok admission.revision
  decisions : admission.decisions = decisionsOn request.proposal.proposalId
    (state.rows (AdmissionRequestV1.runKey request))
  undecided : existingTerminal request admission.revision admission.decisions = .ok none
  observed : currentCursor request.proposal.core.workspaceId request.proposal.core.runId
    (state.rows (AdmissionRequestV1.workspaceKey request))
    (state.rows (AdmissionRequestV1.runKey request)) = .ok admission.observed
  valid : validateRequest request admission.revision admission.loaded.historical
    admission.loaded.current = .ok admission.validated
  evaluation : evaluateAdmission (evaluationInput request admission.loaded admission.validated) =
    .ok admission.evaluation
  decided : admission.state = decidedState request admission.decisions admission.evaluation
  allowed : admission.state ∈ admissionTransitions (priorStateOf admission.decisions)

theorem case_assessed (assessed : assess around request state = .ok (.inr admission)) :
    Assessed around request state admission := by
  simp only [assess, inDomain, bind_ok_iff, map_error_ok_iff] at assessed
  rcases assessed with ⟨_, verified, runEvents, runRows, revision, loaded, answer, terminal, assessed⟩
  cases answer with
  | some result => cases assessed
  | none =>
      simp only [bind_ok_iff, pure_ok_iff, map_error_ok_iff, validateAdmissionTransition,
        ensure_ok_iff, Sum.inr.injEq] at assessed
      rcases assessed with ⟨workspaceEvents, workspaceRows, observed, seen, authorities, _, validated,
        valid, _, _, evaluation, evaluated, _, allowed, rfl⟩
      have own := (authenticated_safe runRows).2
      have shared := (authenticated_safe workspaceRows).2
      subst own shared
      exact ⟨verified_proposal verified, runRows, workspaceRows, loaded, rfl, terminal, seen, valid,
        evaluated, rfl, allowed⟩

/-- The tables after a call that has appended its case. -/
structure Admitted (around : Surroundings) (request : AdmissionRequestV1) (state : Authority)
    (admission : AdmissionCase) (events : AdmissionEvents) (after : Authority) : Prop where
  assessed : assess around request state = .ok (.inr admission)
  consistent : admission.state = .accepted →
    (acceptedDelta admission.validated.delta).isSome = true
  built : admissionEvents request admission = .ok events
  extended : ∃ row, Extends state
    (EventRow.mk (AdmissionRequestV1.workspaceKey request) events.workspaceEvent ::
      events.runEvents.map (EventRow.mk (AdmissionRequestV1.runKey request))) [row] after

theorem admission_effect (applied : evaluateAndApply around request state = .ok (result, after)) :
    after = state ∨ ∃ admission events, Admitted around request state admission events after ∧
      result = admissionResult request admission events := by
  simp only [evaluateAndApply, bind_ok_iff] at applied
  rcases applied with ⟨outcome, assessed, applied⟩
  cases outcome with
  | inl answer =>
      rw [pure_ok_iff, Prod.mk.injEq] at applied
      exact .inl applied.2.symm
  | inr admission =>
      simp only [bind_ok_iff, ensure_ok_iff, map_error_ok_iff, pure_ok_iff, Prod.mk.injEq] at applied
      rcases applied with ⟨_, consistent, events, built, ⟨answer, last⟩, published, rfl, rfl⟩
      rcases publish_accepted published with ⟨workspaceId, digest, _, _, repeats | commits⟩
      · exact .inl repeats.unchanged
      · have shape : requestRows (admissionAppend request admission events).toAtomicAppendRequest =
            EventRow.mk (AdmissionRequestV1.workspaceKey request) events.workspaceEvent ::
              events.runEvents.map (EventRow.mk (AdmissionRequestV1.runKey request)) := by
          simp [requestRows, appendRows, admissionAppend, AppendRequest.key,
            AdmissionRequestV1.workspaceKey, AdmissionRequestV1.runKey, StreamKey.workspace,
            StreamKey.run]
        exact .inr ⟨admission, events,
          ⟨assessed, consistent, built, ⟨_, shape ▸ commits.extended⟩⟩, rfl⟩

omit [Engine] in
theorem keys_apart (request : AdmissionRequestV1) :
    AdmissionRequestV1.workspaceKey request ≠ AdmissionRequestV1.runKey request := by
  simp [AdmissionRequestV1.workspaceKey, AdmissionRequestV1.runKey, StreamKey.workspace,
    StreamKey.run]

omit [Engine] in
theorem last_number {chain : List HashedEventEnvelopeV1} {last : HashedEventEnvelopeV1}
    (chained : Chained chain) (ends : chain.getLast? = some last) :
    last.envelope.sequence = chain.length := by
  rcases List.getLast?_eq_some_iff.mp ends with ⟨front, rfl⟩
  rw [(chained front last [] (by simp)).1, List.length_append, List.length_singleton]

/-- The heads that a case was decided at. -/
structure Heads (request : AdmissionRequestV1) (state : Authority) (observed : CompositeCursorV1) :
    Prop where
  run : observed.runSequence = (state.rows (AdmissionRequestV1.runKey request)).length
  workspace : observed.workspaceSequence =
    (state.rows (AdmissionRequestV1.workspaceKey request)).length
  started : state.rows (AdmissionRequestV1.runKey request) ≠ [] ∧
    state.rows (AdmissionRequestV1.workspaceKey request) ≠ []

theorem observed_heads (assessed : Assessed around request state admission) :
    Heads request state admission.observed := by
  have seen := assessed.observed
  simp only [currentCursor, bind_ok_iff, required_ok_iff, pure_ok_iff] at seen
  rcases seen with ⟨workspace, workspaceLast, run, runLast, same⟩
  have runChained := safe_chained (authenticated_safe assessed.runRows).1
  have workspaceChained := safe_chained (authenticated_safe assessed.workspaceRows).1
  rw [← same]
  exact ⟨last_number runChained runLast, last_number workspaceChained workspaceLast,
    List.ne_nil_of_mem (List.mem_of_getLast? runLast),
    List.ne_nil_of_mem (List.mem_of_getLast? workspaceLast)⟩

/-- Both streams after a case is appended. -/
structure Appended (request : AdmissionRequestV1) (state : Authority) (events : AdmissionEvents)
    (after : Authority) : Prop where
  run : after.rows (AdmissionRequestV1.runKey request) =
    state.rows (AdmissionRequestV1.runKey request) ++ events.runEvents
  workspace : after.rows (AdmissionRequestV1.workspaceKey request) =
    state.rows (AdmissionRequestV1.workspaceKey request) ++ [events.workspaceEvent]
  runRows : authenticatedRows after (AdmissionRequestV1.runKey request) =
    .ok (after.rows (AdmissionRequestV1.runKey request))
  workspaceRows : authenticatedRows after (AdmissionRequestV1.workspaceKey request) =
    .ok (after.rows (AdmissionRequestV1.workspaceKey request))
  others : ∀ key, key ≠ AdmissionRequestV1.runKey request →
    key ≠ AdmissionRequestV1.workspaceKey request → after.rows key = state.rows key

theorem authentic_rows {key : StreamKey} (authentic : Authentic state key) :
    authenticatedRows state key = .ok (state.rows key) := by
  rcases authentic with ⟨rows, authenticated⟩
  rw [authenticated, (authenticated_safe authenticated).2]

-- The events of a case stand behind those that were there, in their order.
theorem admitted_rows (admitted : Admitted around request state admission events after) :
    Appended request state events after := by
  have assessed := case_assessed admitted.assessed
  have runSafe := (authenticated_safe assessed.runRows).1
  have workspaceSafe := (authenticated_safe assessed.workspaceRows).1
  rcases admitted.extended with ⟨row, extended⟩
  have runAuthentic := authentic_rows (extends_authentic extended ⟨_, assessed.runRows⟩)
  have apart := keys_apart request
  constructor
  · rcases rows_extended runSafe extended with ⟨new, shape, same⟩
    have own : (EventRow.mk (AdmissionRequestV1.workspaceKey request) events.workspaceEvent ::
        events.runEvents.map (EventRow.mk (AdmissionRequestV1.runKey request))).filter
          (fun row => row.key = AdmissionRequestV1.runKey request) =
        events.runEvents.map (EventRow.mk (AdmissionRequestV1.runKey request)) := by
      rw [List.filter_cons_of_neg (by simpa using apart)]
      exact List.filter_eq_self.mpr (by simp)
    rw [own, List.map_map, Function.comp_def, List.map_id'] at same
    have sorted := chained_sorted (safe_chained (authenticated_safe runAuthentic).1)
    rw [shape, List.pairwise_append] at sorted
    rw [shape, sorted_unique same sorted.2.1 (sealed_sorted (events_built admitted.built).run).1]
  · rcases rows_extended workspaceSafe extended with ⟨new, shape, same⟩
    have own : (EventRow.mk (AdmissionRequestV1.workspaceKey request) events.workspaceEvent ::
        events.runEvents.map (EventRow.mk (AdmissionRequestV1.runKey request))).filter
          (fun row => row.key = AdmissionRequestV1.workspaceKey request) =
        [EventRow.mk (AdmissionRequestV1.workspaceKey request) events.workspaceEvent] := by
      rw [List.filter_cons_of_pos (by simp)]
      congr 1
      exact List.filter_eq_nil_iff.mpr (by simpa using fun _ _ => apart.symm)
    rw [own, List.map_singleton, List.perm_singleton] at same
    rw [shape, same]
  · exact runAuthentic
  · exact authentic_rows (extends_authentic extended ⟨_, assessed.workspaceRows⟩)
  · intro key notRun notWorkspace
    refine rows_append extended.events fun row member => ?_
    rcases List.mem_cons.mp member with rfl | member
    · exact notWorkspace.symm
    · rcases List.mem_map.mp member with ⟨event, _, rfl⟩
      exact notRun.symm

-- The document of an accepted decision is that of its delta, under its digest.
theorem change_sealed (assessed : Assessed around request state admission)
    {document : JsValue} {stateHash : JsString}
    (changed : admission.change = some (document, stateHash)) :
    admission.state = .accepted ∧ documentDigest document = .ok stateHash := by
  unfold AdmissionCase.change at changed
  split at changed
  · next accepted =>
      refine ⟨accepted, ?_⟩
      have valid := assessed.valid
      simp only [validateRequest, inDomain, bind_ok_iff, map_error_ok_iff, pure_ok_iff] at valid
      rcases valid with ⟨_, _, structural, applied, _, _, _, _, same⟩
      have delta : admission.validated.delta = structural := by
        rw [← same] at changed ⊢
        dsimp only at changed ⊢
        split at changed
        · cases changed
        · next fresh => rw [if_neg fresh]
      rw [delta] at changed
      cases structural with
      | accepted given hash digest =>
          simp only [acceptedDelta, Option.some.injEq, Prod.mk.injEq] at changed
          rcases changed with ⟨rfl, rfl⟩
          have ran := accepted_run applied
          simp only [runDelta, bind_ok_iff, escaping_ok_iff] at ran
          rcases ran with ⟨_, _, _, _, final, _, ended⟩
          simp only [acceptDocument, bind_ok_iff, escaping_ok_iff, ensure_ok_iff, pure_ok_iff]
            at ended
          rcases ended with ⟨_, _, _, _, _, _, hash, hashed, _, _, shape⟩
          cases shape
          exact hashed
      | conflicted reason => cases changed
      | rejected reason => cases changed
  · cases changed

theorem change_accepted (admitted : Admitted around request state admission events after) :
    admission.change.isSome = true ↔ admission.state = .accepted := by
  unfold AdmissionCase.change
  split
  · next accepted => exact ⟨fun _ => accepted, fun _ => admitted.consistent accepted⟩
  · next other => exact ⟨(by cases ·), fun accepted => absurd accepted other⟩

end Cases

section Unrecorded

variable [Engine] {around : Surroundings} {state : Authority}

def publicationEffects (around : Surroundings) (request : PublishAndAppendRequest)
    (workspaceId : JsString) (state : Authority) : Except StoreError (JsValue × Authority) := do
  verifyCurrentObservation around state request.toAtomicAppendRequest workspaceId
  let owners ← (request.artifacts.flatMap ArtifactPublication.references).mapM
    (verifyOwner state request.toAtomicAppendRequest workspaceId)
  request.requiredArtifactDigests.forM fun digest =>
    ensure (artifactBound request (owners.filterMap id) digest)
      (.integrity (js "required artifact has no workspace event reference: " ++ digest))
  let registered ← (request.artifacts.map ArtifactPublication.record).foldlM (register around) state
  let (workspaceHead, first) ← writePart writeAppend registered request.workspace
  let (runHead, second) ← writePart writeAppend first request.run
  let owned ← request.artifacts.foldlM (addOwners around workspaceId) second
  request.requiredArtifactDigests.forM (verifyRequired around request)
  let projected ← request.projections.foldlM updateProjection owned
  let pictured ← request.snapshots.foldlM insertSnapshot projected
  return (AppendResult.toJson ⟨request.commandId, workspaceHead, runHead,
    request.clientRequestDigest⟩, pictured)

theorem request_digested {request : JsValue} (domain : JsString)
    (valid : assertJson request = .ok ()) : ∃ digest, requestDigest domain request = .ok digest := by
  have cloned := (clone_ok_iff request _).mpr ⟨valid, rfl⟩
  have digested := (digest_ok_iff domain request _).mpr ⟨valid, rfl⟩
  simp only [requestDigest, bind_ok_iff, map_error_ok_iff]
  exact ⟨_, _, cloned, (digest_clone domain cloned).trans digested⟩

-- A publication that repeats no command succeeds with its effects.
theorem publish_unrecorded {request : PublishAndAppendRequest} {workspaceId : JsString}
    {answer : JsValue} {pictured : Authority}
    (stored : (request.artifacts.forM fun publication => around.publish publication.record) = .ok ())
    (admissible : publicationAdmissible request = .ok workspaceId)
    (valid : assertJson request.toJson = .ok ())
    (fresh : state.command (commandScope request.toAtomicAppendRequest workspaceId) = none)
    (written : publicationEffects around request workspaceId state = .ok (answer, pictured))
    (clean : assertJson answer = .ok ()) : ∃ after,
      publishAndAppendAtomic around request state = .ok (answer, after) ∧
        after.events = pictured.events := by
  obtain ⟨digest, digested⟩ := request_digested (js "horseness.store-artifact-append.v1") valid
  have cloned := (clone_ok_iff answer _).mpr ⟨clean, rfl⟩
  simp only [publicationEffects, bind_ok_iff, pure_ok_iff, Prod.mk.injEq] at written
  obtain ⟨_, observed, owners, owned, _, bound, registered, placed, ⟨workspaceHead, first⟩, front,
    ⟨runHead, second⟩, back, added, joined, _, required, projected, moved, snapped, taken, same,
    rfl⟩ := written
  let key := commandScope request.toAtomicAppendRequest workspaceId
  refine ⟨{ snapped with commands := snapped.commands ++ [⟨key, digest, normalize answer⟩] }, ?_, rfl⟩
  simp only [publishAndAppendAtomic, bind_ok_iff]
  refine ⟨(), stored, workspaceId, admissible, digest, digested, ?_⟩
  simp only [fresh, insertCommand, bind_ok_iff, pure_ok_iff, map_error_ok_iff]
  exact ⟨_, observed, owners, owned, _, bound, registered, placed, _, front, _, back, added, joined,
    _, required, projected, moved, snapped, taken, _, ⟨_, same ▸ cloned, rfl⟩, same ▸ rfl⟩

def evaluateUnrecorded (around : Surroundings) (request : AdmissionRequestV1) (state : Authority) :
    Except StoreError (AdmissionResultV1 × Authority) := do
  match ← assess around request state with
  | .inl answer => return (answer, state)
  | .inr admission => do
      ensure (admission.state = .accepted → (acceptedDelta admission.validated.delta).isSome = true)
        (.domain .staleBase)
      let events ← admissionEvents request admission
      let append := admissionAppend request admission events
      append.artifacts.forM fun publication => around.publish publication.record
      let workspaceId ← publicationAdmissible append
      (assertJson append.toJson).mapError .domain
      ensure (state.command (commandScope append.toAtomicAppendRequest workspaceId) = none)
        reusedCommand
      let (answer, pictured) ← publicationEffects around append workspaceId state
      (assertJson answer).mapError .domain
      return (admissionResult request admission events, pictured)

theorem evaluate_unrecorded {request : AdmissionRequestV1} {result : AdmissionResultV1}
    {pictured : Authority}
    (ran : evaluateUnrecorded around request state = .ok (result, pictured)) : ∃ after,
      evaluateAndApply around request state = .ok (result, after) ∧
        after.events = pictured.events := by
  simp only [evaluateUnrecorded, bind_ok_iff] at ran
  rcases ran with ⟨outcome, assessed, ran⟩
  cases outcome with
  | inl answer =>
      rw [pure_ok_iff, Prod.mk.injEq] at ran
      rcases ran with ⟨rfl, rfl⟩
      refine ⟨state, ?_, rfl⟩
      simp only [evaluateAndApply, assessed, ok_bind]
      rfl
  | inr admission =>
      simp only [bind_ok_iff, ensure_ok_iff, map_error_ok_iff, pure_ok_iff, Prod.mk.injEq] at ran
      rcases ran with ⟨_, consistent, events, built, _, stored, workspaceId, admissible, _, valid, _,
        fresh, ⟨answer, last⟩, written, _, clean, rfl, rfl⟩
      obtain ⟨after, published, same⟩ :=
        publish_unrecorded stored admissible valid fresh written clean
      refine ⟨after, ?_, same⟩
      simp only [evaluateAndApply, bind_ok_iff]
      refine ⟨_, assessed, ?_⟩
      simp only [bind_ok_iff, ensure_ok_iff, map_error_ok_iff, pure_ok_iff, Prod.mk.injEq]
      exact ⟨(), consistent, events, built, (answer, after), published, rfl, rfl⟩

end Unrecorded

end Horseness.AdmissionCommits
