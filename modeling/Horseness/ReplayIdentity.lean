import Horseness.CanonicalHistory

/-!
Whose events a replayed run chain holds. An append compares the workspace and the run that
a payload names with those of its envelope; the replay does so for some kinds of event only.
-/

namespace Horseness.ReplayIdentity

open FallibleRuns ScriptText ScriptEngine ExecutionEvents EventPayloads EventChains Replay
  ReplaySteps RecordedRuns CanonicalHistory

section Names

def RunEventPayloadV1.runId : RunEventPayloadV1 → JsString
  | .runCreatedV1 _ runId _ | .taskCreatedV1 _ runId _ _ | .proposalSubmittedV1 _ runId _ _
  | .admissionDecisionRecordedV1 _ runId _ _ _ _ _ _ _ | .attemptReceiptRecordedV1 _ runId _ _ _
  | .deltaAcceptedV1 _ runId _ _ _ _ _ | .taskResolvedV1 _ runId _ _ _ | .forkCreatedV1 _ runId _
  | .contextManifestPublishedV1 _ runId _ => runId
  | .taskExecution event => event.runId

/-- A payload of a workspace has no `runId`. -/
def DomainEventPayloadV1.runId : DomainEventPayloadV1 → Option JsString
  | .workspace _ => none
  | .run payload => some (RunEventPayloadV1.runId payload)

def payloadIdentity (envelope : EventEnvelopeV1) : Prop :=
  envelope.payload.eventType = envelope.eventType ∧
    DomainEventPayloadV1.workspaceId envelope.payload = envelope.workspaceId ∧
    DomainEventPayloadV1.runId envelope.payload =
      if envelope.streamKind = .run then some envelope.streamId else none

instance (envelope : EventEnvelopeV1) : Decidable (payloadIdentity envelope) :=
  inferInstanceAs (Decidable (_ ∧ _ ∧ _))

/-- The kinds of event of which the replay picks single fields, and not the names of the
workspace and the run. -/
def readInParts : DomainEventPayloadV1 → Bool
  | .run (.proposalSubmittedV1 ..) | .run (.admissionDecisionRecordedV1 ..)
  | .run (.deltaAcceptedV1 ..) | .run (.attemptReceiptRecordedV1 ..) | .run (.taskResolvedV1 ..)
  | .run (.forkCreatedV1 ..) | .run (.contextManifestPublishedV1 ..) => true
  | .run (.runCreatedV1 ..) | .run (.taskCreatedV1 ..) | .run (.taskExecution _) => false
  | .workspace _ => false

/-- The event is one of the run and of the workspace that its envelope names. -/
structure OwnEvent (envelope : EventEnvelopeV1) : Prop where
  workspace : DomainEventPayloadV1.workspaceId envelope.payload = envelope.workspaceId
  run : DomainEventPayloadV1.runId envelope.payload = some envelope.streamId
  named : envelope.payload.eventType = envelope.eventType

end Names

section Chains

variable [Engine] {events : List HashedEventEnvelopeV1} {result : ReplayResult}
  {envelope : EventEnvelopeV1} {payload : RunOperationalPayload}

-- A branch of the replay that reads the whole payload compares both names.
theorem whole_payload_own (read : operationalPayload envelope envelope.payload = .ok payload)
    (whole : readInParts envelope.payload = false) :
    DomainEventPayloadV1.workspaceId envelope.payload = envelope.workspaceId ∧
      DomainEventPayloadV1.runId envelope.payload = some envelope.streamId := by
  cases kind : envelope.payload with
  | workspace inner => simp [kind, operationalPayload] at read
  | run inner =>
      rw [kind] at read whole
      cases inner with
      | runCreatedV1 workspaceId runId initialDocument =>
          simp only [operationalPayload, bind_ok_iff, ensure_ok_iff] at read
          obtain ⟨_, _, _, sameWorkspace, _, _, _, sameRun, _⟩ := read
          exact ⟨sameWorkspace, congrArg some sameRun⟩
      | taskCreatedV1 workspaceId runId taskId title =>
          simp only [operationalPayload, bind_ok_iff, ensure_ok_iff] at read
          obtain ⟨_, _, _, ⟨sameWorkspace, sameRun⟩, _⟩ := read
          exact ⟨sameWorkspace, congrArg some sameRun⟩
      | taskExecution event =>
          simp only [operationalPayload, bind_ok_iff, ensure_ok_iff] at read
          obtain ⟨_, _, _, ⟨_, sameWorkspace, sameRun⟩, _⟩ := read
          exact ⟨sameWorkspace, congrArg some sameRun⟩
      | _ => cases whole

-- Every event of a replayed chain was read, with its payload, by the replay's loop.
theorem replayed_member (replayed : deterministicReplay events = .ok result) :
    ∀ item ∈ events, ∃ payload,
      operationalPayload item.envelope item.envelope.payload = .ok payload := by
  obtain ⟨_, _, folded⟩ := replay_ok_iff.mp replayed
  intro item member
  obtain ⟨before, after, stepped⟩ := foldlM_member folded item member
  simp only [replayEvent, bind_ok_iff] at stepped
  obtain ⟨payload, read, _⟩ := stepped
  exact ⟨payload, read⟩

-- Every envelope of a verified chain names the stream of the first.
theorem verified_stream (verified : verifyEventChain events = .ok ()) :
    ∃ first ∈ events, ∀ item ∈ events, item.envelope.streamKind = first.envelope.streamKind ∧
      item.envelope.workspaceId = first.envelope.workspaceId ∧
      item.envelope.streamId = first.envelope.streamId := by
  simp only [verifyEventChain, bind_ok_iff, required_ok_iff] at verified
  obtain ⟨first, head, _, _, _, folded, _⟩ := verified
  refine ⟨first, List.mem_of_head? head, fun item member => ?_⟩
  obtain ⟨_, _, accepted⟩ := foldlM_member folded item member
  simp only [verifyEvent, bind_ok_iff, ensure_ok_iff] at accepted
  obtain ⟨_, same, _⟩ := accepted
  exact same

theorem replayed_kind (replayed : deterministicReplay events = .ok result) :
    ∀ item ∈ events, item.envelope.streamKind = .run := by
  obtain ⟨verified, ⟨first, head, kind⟩, _⟩ := replay_ok_iff.mp replayed
  obtain ⟨start, listed, same⟩ := verified_stream verified
  intro item member
  rw [(same item member).1, ← (same first (List.mem_of_head? head)).1, kind]

/-- The events of a replayed chain are its run's own, exactly when an append would have let
in those whose names the replay does not read. -/
theorem own_events_iff (replayed : deterministicReplay events = .ok result) :
    (∀ item ∈ events, OwnEvent item.envelope) ↔
      ∀ item ∈ events, readInParts item.envelope.payload = true → payloadIdentity item.envelope := by
  have kinds := replayed_kind replayed
  have named := verified_member (replay_ok_iff.mp replayed).1
  constructor
  · intro own item member _
    have mine := own item member
    exact ⟨mine.named, mine.workspace, by rw [mine.run, if_pos (kinds item member)]⟩
  · intro condition item member
    have name := (named item member).2
    obtain ⟨payload, read⟩ := replayed_member replayed item member
    cases parts : readInParts item.envelope.payload with
    | false =>
        obtain ⟨workspace, run⟩ := whole_payload_own read parts
        exact ⟨workspace, run, name⟩
    | true =>
        obtain ⟨_, workspace, run⟩ := condition item member parts
        rw [if_pos (kinds item member)] at run
        exact ⟨workspace, run, name⟩

end Chains

section Recorded

def foreignDigests : List (Nat × JsString) :=
  [(15152896508518038070, js "689343a78872c73e85e686f6b3f74cc5e2769663f71bd65c7ed1c4ced2fcec33"),
    (3830008180370715394, js "1fab3d348fcc43278dcbcb9a11aa160bbb9fcb7d2edade7dc47462d1b96fe277"),
    (13035048805188894759, js "666ee89b95fda9fd9ac6e9afb6fc0be8e3b641c81d4df83596d306bd67419b42"),
    (5705174093594303088, js "8fa1b291da317c676c0778d068a7b3c5e5de7eeffa0fda9054b08d97ec45471b"),
    (13188732096164138372, js "2d1a011dc4e246449ff9b77fc5d5f9210b85e792800e72a08afb4e74e7aff47a"),
    (17997322667195235293, js "98da13500652c3a30c148b0a36606a9c3a17a977a8f2937939bbc1d64e62793f")]

@[reducible] def foreignEngine : Engine :=
  { recordedEngine with
    sha256Hex := fun text => (foreignDigests.lookup (fingerprint text)).getD (122 :: text) }

attribute [local instance] foreignEngine

def foreignChain : List HashedEventEnvelopeV1 :=
  sealedChain .run [recordedCreation, .run (.forkCreatedV1 (js "v") (js "s") (js "f"))]

/-- The replay accepts an event whose payload belongs to another run and workspace. -/
theorem foreign_event_replayed : ∃ result, deterministicReplay foreignChain = .ok result ∧
    ∃ item ∈ foreignChain, ¬ OwnEvent item.envelope := by
  have accepted : endsIn (fun _ => foreignChain.any fun item =>
      decide (DomainEventPayloadV1.runId item.envelope.payload ≠ some item.envelope.streamId))
      (deterministicReplay foreignChain) = true := by
    decide +kernel
  obtain ⟨result, ran, foreign⟩ := ends_in_exists accepted
  obtain ⟨item, member, other⟩ := List.any_eq_true.mp foreign
  exact ⟨result, ran, item, member, fun own => of_decide_eq_true other own.run⟩

end Recorded

section Own

attribute [local instance] chainEngine

def submissionChain : List HashedEventEnvelopeV1 :=
  sealedChain .run [recordedCreation, recordedSubmission]

theorem submission_chain_own : ∃ result, deterministicReplay submissionChain = .ok result ∧
    ∀ item ∈ submissionChain, OwnEvent item.envelope := by
  have accepted : endsIn (fun _ => submissionChain.all fun item =>
      decide (payloadIdentity item.envelope)) (deterministicReplay submissionChain) = true := by
    decide +kernel
  obtain ⟨result, ran, own⟩ := ends_in_exists accepted
  exact ⟨result, ran, (own_events_iff ran).mpr fun item member _ =>
    of_decide_eq_true (List.all_eq_true.mp own item member)⟩

end Own

end Horseness.ReplayIdentity
