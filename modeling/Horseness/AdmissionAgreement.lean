import Horseness.AdmissionHistories

/-!
The run and its workspace record the same decisions. Both streams say what the calls have
written, so that the last call on a proposal gives its status in either replay.
-/

namespace Horseness.AdmissionAgreement

open FallibleRuns Records ScriptText JsonValues JsonText JsonRoundTrip ScriptEngine Canonical
  Cursors EventPayloads EventChains Replay ReplaySteps CanonicalHistory QuotaLedger AuthorityLog
  AppendLog PolicyEvaluation Proposals AdmissionService ProposalHistory AdmissionCommits
  AdmissionInputs AdmissionReplays AdmissionHistories GroupedLogs Turns

section Readings

variable [Engine] {state : Authority} {calls front back : List AdmissionCall}
  {call earlier : AdmissionCall} {admission : AdmissionCase} {events : AdmissionEvents}
  {key : StreamKey} {given : DomainEventPayloadV1} {proposalId : JsString}

-- What a stream says of its admissions is what the calls have written.
theorem reading_calls (kept : Kept calls state) {Reading : Type}
    {read : DomainEventPayloadV1 → Option Reading}
    (silent : ∀ given, admissionPayload given = false → read given = none) (key : StreamKey) :
    (state.rows key).filterMap (fun item => read item.envelope.payload) =
      calls.flatMap fun call => (call.added key).filterMap fun item => read item.envelope.payload := by
  rw [← reading_filter admissionIn (fun event other => silent _ other), kept.events key,
    List.filterMap_flatMap]

theorem marks_calls (kept : Kept calls state) (proposalId : JsString) (key : StreamKey) :
    marksOn proposalId (state.rows key) =
      calls.flatMap fun call => marksOn proposalId (call.added key) :=
  reading_calls kept (fun _ => mark_silent proposalId) key

theorem records_calls (kept : Kept calls state) (key : StreamKey) :
    decisions (state.rows key) = calls.flatMap fun call => decisions (call.added key) :=
  reading_calls kept (fun _ => record_silent) key

theorem deltas_calls (kept : Kept calls state) (proposalId : JsString) (key : StreamKey) :
    deltasOn proposalId (state.rows key) =
      calls.flatMap fun call => deltasOn proposalId (call.added key) := by
  have read := reading_calls kept (fun _ => delta_silent) key
  rw [deltasOn, deltas, read, List.filter_flatMap]
  rfl

theorem reading_payloads (commits : call.Commits admission events) {Reading : Type}
    (read : DomainEventPayloadV1 → Option Reading) :
    ((call.added (AdmissionRequestV1.runKey call.request)).filterMap fun item =>
      read item.envelope.payload) =
        (runPayloads call.request admission events.digests).filterMap read := by
  rw [added_run commits, ← run_payloads commits, List.filterMap_map]
  rfl

omit [Engine] in
theorem payload_mark {request : AdmissionRequestV1} {digests : ProvenanceDigests}
    (member : given ∈ runPayloads request admission digests) : ∃ status,
      markOf given = some (request.proposal.proposalId, ⟨status, request.proposal.proposalDigest⟩) := by
  simp only [runPayloads, submittedPayload, acceptedPayload, decisionPayload, List.mem_append,
    List.mem_singleton, Option.mem_toList, Option.map_eq_some_iff] at member
  rcases member with (submitted | ⟨change, _, rfl⟩) | rfl
  · split at submitted
    · cases submitted
      exact ⟨_, rfl⟩
    · cases submitted
  · exact ⟨_, rfl⟩
  · exact ⟨_, rfl⟩

-- The decision is the last thing that a commit says of its proposal.
theorem commit_mark (commits : call.Commits admission events) :
    (marksOn call.request.proposal.proposalId
      (call.added (AdmissionRequestV1.runKey call.request))).getLast? =
        some ⟨.decided admission.state, call.request.proposal.proposalDigest⟩ := by
  rw [marksOn, reading_payloads commits fun given => about _ (markOf given), runPayloads,
    List.filterMap_append]
  have last : [decisionPayload call.request admission events.digests].filterMap (fun given =>
      about call.request.proposal.proposalId (markOf given)) =
        [⟨.decided admission.state, call.request.proposal.proposalDigest⟩] := by
    simp [decisionPayload, markOf, about]
  rw [last, List.getLast?_concat]

-- Who says something of a proposal has committed a case of it to the run.
theorem mark_call {mark : Mark} (said : mark ∈ marksOn proposalId (call.added key)) :
    ∃ admission events, call.Commits admission events ∧
      key = AdmissionRequestV1.runKey call.request ∧
      proposalId = call.request.proposal.proposalId := by
  rcases List.mem_filterMap.mp said with ⟨item, member, marked⟩
  rcases added_by (List.ne_nil_of_mem member) with ⟨admission, events, commits, own | own⟩
  · refine ⟨admission, events, commits, own, ?_⟩
    rw [own] at member
    have listed : item.envelope.payload ∈ runPayloads call.request admission events.digests := by
      rw [← run_payloads commits, ← added_run commits]
      exact List.mem_map_of_mem member
    rcases payload_mark listed with ⟨status, spoken⟩
    rw [spoken] at marked
    exact (congrArg Prod.fst (Option.some.inj (about_some marked))).symm
  · rw [own, added_workspace commits, List.mem_singleton] at member
    rw [member, (events_built commits.built).workspace.payload] at marked
    cases marked

theorem commit_records (commits : call.Commits admission events) :
    decisions (call.added (AdmissionRequestV1.workspaceKey call.request)) =
      [recordOf call.request admission events.decision.envelope.eventId] := by
  rw [added_workspace commits, decisions, List.filterMap_cons_some, List.filterMap_nil]
  rw [(events_built commits.built).workspace.payload]
  rfl

theorem record_call {item : HashedEventEnvelopeV1} {record : AdmissionRecord}
    (member : item ∈ call.added key) (records : decisionOf item.envelope.payload = some record) :
    ∃ admission events, call.Commits admission events ∧
      key = AdmissionRequestV1.workspaceKey call.request ∧ item = events.workspaceEvent ∧
      record = recordOf call.request admission events.decision.envelope.eventId := by
  rcases added_by (List.ne_nil_of_mem member) with ⟨admission, events, commits, own | own⟩
  · rw [own] at member
    have listed : item.envelope.payload ∈ runPayloads call.request admission events.digests := by
      rw [← run_payloads commits, ← added_run commits]
      exact List.mem_map_of_mem member
    rcases payload_mark listed with ⟨status, spoken⟩
    unfold decisionOf at records
    split at records
    · next shape =>
        rw [shape] at spoken
        cases spoken
    · cases records
  · rw [own, added_workspace commits, List.mem_singleton] at member
    refine ⟨admission, events, commits, own, member, ?_⟩
    rw [member, (events_built commits.built).workspace.payload] at records
    exact (Option.some.inj records).symm

-- The decision of a commit is the only one that it adds to the run.
theorem decision_call {event : HashedEventEnvelopeV1} {decision : RecordedDecision}
    (member : event ∈ call.added key) (decides : decisionIn event.envelope.payload = some decision) :
    ∃ admission events, call.Commits admission events ∧
      key = AdmissionRequestV1.runKey call.request ∧ event = events.decision ∧
      decision = ⟨call.request.proposal.proposalDigest, admission.state,
        events.digests.provenanceDigest⟩ := by
  rcases added_by (List.ne_nil_of_mem member) with ⟨admission, events, commits, own | own⟩
  · have built := events_built commits.built
    rw [own, added_run commits, AdmissionEvents.runEvents, List.mem_append, List.mem_append,
      List.mem_singleton] at member
    rcases member with (submitted | accepted) | rfl
    · rcases sealed_option built.submitted with ⟨_, empty⟩ | ⟨payload, item, shape, one, sealed⟩
      · rw [empty] at submitted
        cases submitted
      · rw [one, List.mem_singleton] at submitted
        unfold submittedPayload at shape
        split at shape
        · rw [submitted, sealed.payload, ← Option.some.inj shape] at decides
          cases decides
        · cases shape
    · rcases sealed_option built.accepted with ⟨_, empty⟩ | ⟨payload, item, shape, one, sealed⟩
      · rw [empty] at accepted
        cases accepted
      · rw [one, List.mem_singleton] at accepted
        rw [acceptedPayload, Option.map_eq_some_iff] at shape
        rcases shape with ⟨change, _, rfl⟩
        rw [accepted, sealed.payload] at decides
        cases decides
    · refine ⟨admission, events, commits, own, rfl, ?_⟩
      rw [built.decided.payload] at decides
      exact (Option.some.inj decides).symm
  · rw [own, added_workspace commits, List.mem_singleton] at member
    rw [member, (events_built commits.built).workspace.payload] at decides
    cases decides

theorem commits_unique {other : AdmissionCase} {more : AdmissionEvents}
    (first : call.Commits admission events) (second : call.Commits other more) :
    admission = other ∧ events = more := by
  have same : admission = other := by
    have assessed := first.assessed.symm.trans second.assessed
    simpa using assessed
  subst same
  exact ⟨rfl, Except.ok.inj (first.built.symm.trans second.built)⟩

end Readings

section Statuses

variable [Engine] {state : Authority} {calls front back : List AdmissionCall}
  {call earlier : AdmissionCall} {admission first : AdmissionCase}
  {events opening : AdmissionEvents} {workspaceId runId proposalId : JsString} {run : ReplayResult}
  {workspace : WorkspaceState} {record : ProposalRecord}

def proposalText (core : ProposalEnvelopeCoreV1) : JsString :=
  let normalized := { core with
    receiptDigests := core.receiptDigests.insertionSort (· ≤ ·)
    evidenceClaims := core.evidenceClaims.insertionSort claimBefore }
  js "horseness.proposal.v1" ++ 0 :: serialize normalized.toJson

def CollisionFree (calls : List AdmissionCall) : Prop :=
  Set.InjOn Engine.sha256Hex {text | ∃ call ∈ calls, proposalText call.request.proposal.core = text}

theorem proposal_digest {proposal : ProposalEnvelopeV1} (verified : verifyProposal proposal = .ok ()) :
    Engine.sha256Hex (proposalText proposal.core) = proposal.proposalDigest := by
  simp only [verifyProposal, sealProposal, envelopeText, nonEmpty, bind_ok_iff, ensure_ok_iff,
    pure_ok_iff] at verified
  rcases verified with ⟨_, _, _, _, _, _, _, ⟨_, _, digest, digested, rfl⟩, same, _⟩
  exact ((digest_ok_iff _ _ _).mp digested).2.trans same

theorem text_run {left right : ProposalEnvelopeCoreV1} (same : proposalText left = proposalText right) :
    left.runId = right.runId := by
  have texts := (List.cons.inj (List.append_cancel_left same)).2
  have meanings := (serialize_eq_iff _ _).mp texts
  rw [ProposalEnvelopeCoreV1.toJson, ProposalEnvelopeCoreV1.toJson] at meanings
  have fields := object_meaning meanings rfl
    (by simp only [List.map_cons, List.map_nil]; decide +kernel)
  simp only [List.map_cons, List.cons.injEq] at fields
  simpa [meaning] using fields.2.2.1

theorem commit_verified (commits : call.Commits admission events) :
    verifyProposal call.request.proposal = .ok () := by
  have assessed := commits.assessed
  simp only [assess, inDomain, bind_ok_iff, map_error_ok_iff] at assessed
  exact assessed.choose_spec.1

-- Commits under one digest are commits on one proposal of one run.
theorem same_proposal (free : CollisionFree calls) (one : earlier ∈ calls) (two : call ∈ calls)
    (opens : earlier.Commits first opening) (commits : call.Commits admission events)
    (workspace : earlier.request.proposal.core.workspaceId = call.request.proposal.core.workspaceId)
    (same : earlier.request.proposal.proposalDigest = call.request.proposal.proposalDigest) :
    AdmissionRequestV1.runKey earlier.request = AdmissionRequestV1.runKey call.request ∧
      earlier.request.proposal.proposalId = call.request.proposal.proposalId := by
  have texts : proposalText earlier.request.proposal.core = proposalText call.request.proposal.core := by
    refine free ⟨earlier, one, rfl⟩ ⟨call, two, rfl⟩ ?_
    rw [proposal_digest (commit_verified opens), proposal_digest (commit_verified commits), same]
  constructor
  · rw [AdmissionRequestV1.runKey, AdmissionRequestV1.runKey, workspace, text_run texts]
  · rw [(case_assessed opens.assessed).proposal.identity,
      (case_assessed commits.assessed).proposal.identity, same]

theorem accepted_last (kept : Kept calls state) (split : calls = front ++ call :: back)
    (before : earlier ∈ front) (opens : earlier.Commits first opening)
    (accepted : first.state = .accepted) (commits : call.Commits admission events)
    (key : AdmissionRequestV1.runKey earlier.request = AdmissionRequestV1.runKey call.request)
    (same : earlier.request.proposal.proposalId = call.request.proposal.proposalId) : False := by
  have ordered := kept.ordered
  rw [split, List.pairwise_append] at ordered
  have reached := ordered.2.2 earlier before call List.mem_cons_self
    (AdmissionRequestV1.runKey call.request)
  have member : opening.decision ∈ call.before.rows (AdmissionRequestV1.runKey call.request) := by
    refine reached.subset ?_
    rw [← key, (admitted_rows opens).run, AdmissionEvents.runEvents]
    simp
  have assessed := case_assessed commits.assessed
  have undecided := assessed.undecided
  simp only [existingTerminal, bind_ok_iff, pure_ok_iff, Option.map_eq_none_iff] at undecided
  rcases undecided with ⟨_, _, none⟩
  have listed : ⟨earlier.request.proposal.proposalDigest, first.state,
      opening.digests.provenanceDigest⟩ ∈ admission.decisions := by
    rw [assessed.decisions]
    refine List.mem_filterMap.mpr ⟨opening.decision, member, ?_⟩
    rw [(events_built opens.built).decided.payload]
    exact if_pos same
  have open' := List.find?_eq_none.mp none _ (List.mem_reverse.mpr listed)
  rw [accepted] at open'
  simp [terminalDecisions] at open'

/-- The last call that says something of a recorded proposal. -/
structure LastOn (calls front back : List AdmissionCall) (call : AdmissionCall)
    (admission : AdmissionCase) (events : AdmissionEvents) (workspaceId runId proposalId : JsString)
    (record : ProposalRecord) : Prop where
  split : calls = front ++ call :: back
  commits : call.Commits admission events
  key : AdmissionRequestV1.runKey call.request = .run workspaceId runId
  proposal : call.request.proposal.proposalId = proposalId
  status : record.status = .decided admission.state
  digest : record.proposalDigest = call.request.proposal.proposalDigest
  behind : ∀ later ∈ back, marksOn proposalId (later.added (.run workspaceId runId)) = []

theorem last_on (kept : Kept calls state)
    (replayed : deterministicReplay (state.rows (.run workspaceId runId)) = .ok run)
    (found : run.operational.proposals.get proposalId = some record) :
    ∃ front back call admission events,
      LastOn calls front back call admission events workspaceId runId proposalId record := by
  have last := (marked replayed proposalId).last
  rw [found, Option.map_some, marks_calls kept, eq_comm] at last
  rcases last_writer last with ⟨front, call, back, split, own, behind⟩
  rcases mark_call (List.mem_of_getLast? own) with ⟨admission, events, commits, key, rfl⟩
  rw [key, commit_mark commits, Option.some.injEq] at own
  have status := congrArg Mark.status own
  have digest := congrArg Mark.proposalDigest own
  exact ⟨front, back, call, admission, events, split, commits, key.symm, rfl, status.symm,
    digest.symm, behind⟩

omit [Engine] in
theorem key_names {request : AdmissionRequestV1}
    (key : AdmissionRequestV1.runKey request = .run workspaceId runId) :
    request.proposal.core.workspaceId = workspaceId ∧ request.proposal.core.runId = runId :=
  ⟨congrArg StreamKey.workspaceId key, congrArg StreamKey.streamId key⟩

omit [Engine] in
theorem workspace_named {request : AdmissionRequestV1}
    (key : StreamKey.workspace workspaceId = AdmissionRequestV1.workspaceKey request) :
    request.proposal.core.workspaceId = workspaceId :=
  (congrArg StreamKey.workspaceId key).symm

-- The last decision that the workspace has on a digest is that of the last call.
theorem last_record (kept : Kept calls state) (free : CollisionFree calls)
    (last : LastOn calls front back call admission events workspaceId runId proposalId record) :
    ((decisions (state.rows (.workspace workspaceId))).filter fun decision =>
        decision.proposalDigest = record.proposalDigest).getLast? =
      some (recordOf call.request admission events.decision.envelope.eventId) := by
  rcases key_names last.key with ⟨named, _⟩
  have own : call ∈ calls := by rw [last.split]; simp
  have behind : ∀ later ∈ back, (decisions (later.added (.workspace workspaceId))).filter
      (fun decision => decision.proposalDigest = record.proposalDigest) = [] := by
    intro later member
    rw [List.filter_eq_nil_iff]
    intro other listed same
    rcases List.mem_filterMap.mp listed with ⟨item, written, records⟩
    rcases record_call written records with ⟨next, more, commits, place, _, rfl⟩
    have digest : later.request.proposal.proposalDigest = call.request.proposal.proposalDigest :=
      (of_decide_eq_true same).trans last.digest
    have inside : later ∈ calls := by rw [last.split]; simp [member]
    rcases same_proposal free inside own commits last.commits
      ((workspace_named place).trans named.symm) digest with ⟨run, proposal⟩
    -- the later call would have said something of the proposal in the run, too
    have said := commit_mark commits
    rw [run, last.key, proposal, last.proposal, last.behind later member] at said
    cases said
  have here : (decisions (call.added (.workspace workspaceId))).filter
      (fun decision => decision.proposalDigest = record.proposalDigest) =
        [recordOf call.request admission events.decision.envelope.eventId] := by
    rw [← named]
    change (decisions (call.added (AdmissionRequestV1.workspaceKey call.request))).filter _ = _
    rw [commit_records last.commits, last.digest]
    simp [recordOf]
  rw [records_calls kept, last.split, List.flatMap_append, List.flatMap_cons, List.filter_append,
    List.filter_append, here, List.filter_flatMap, List.filter_flatMap,
    List.flatMap_eq_nil_iff.mpr behind, List.append_nil, List.getLast?_concat]

theorem status_recorded (kept : Kept calls state) (free : CollisionFree calls)
    (replayed : deterministicWorkspaceReplay (state.rows (.workspace workspaceId)) = .ok workspace)
    (last : LastOn calls front back call admission events workspaceId runId proposalId record) :
    ∃ decided projection, record.status = .decided decided ∧
      workspace.admissions.get record.proposalDigest = some projection ∧
      projection.state = decided := by
  have ledger := workspace_ledgered replayed
  have ended := last_record kept free last
  have history := ledger.histories record.proposalDigest
  cases found : workspace.admissions.get record.proposalDigest with
  | none =>
      rw [historyOf, found, Option.map_none, Option.getD_none, eq_comm, List.map_eq_nil_iff]
        at history
      rw [history] at ended
      cases ended
  | some projection =>
      rw [historyOf, found, Option.map_some, Option.getD_some] at history
      have state := (ledger.paths _ _ found).2
      rw [pathOf, history, List.getLast?_map, List.getLast?_map, ended] at state
      exact ⟨admission.state, projection, last.status, rfl, (Option.some.inj state).symm⟩

end Statuses

section Pairs

variable [Engine] {state : Authority} {calls : List AdmissionCall} {call : AdmissionCall}
  {admission : AdmissionCase} {events : AdmissionEvents} {workspaceId runId : JsString}
  {event item : HashedEventEnvelopeV1} {workspace : WorkspaceState}

def SameDecision (event item : HashedEventEnvelopeV1) : Prop :=
  ∃ decision record, decisionIn event.envelope.payload = some decision ∧
    decisionOf item.envelope.payload = some record ∧
    record.decisionEventId = event.envelope.eventId

theorem written_by (kept : Kept calls state) {key : StreamKey} (member : event ∈ state.rows key)
    (admits : admissionIn event = true) : ∃ call ∈ calls, event ∈ call.added key := by
  have listed := List.mem_filter.mpr ⟨member, admits⟩
  rw [kept.events key] at listed
  exact List.mem_flatMap.mp listed

theorem added_reached (kept : Kept calls state) {key : StreamKey} (inside : call ∈ calls)
    (member : event ∈ call.added key) : event ∈ state.rows key := by
  refine (kept.reached call inside key).subset ?_
  rw [kept.own call inside key]
  exact List.mem_append_right _ member

-- A decision of a run was committed by a call, which is the one that it is in.
theorem decision_written (kept : Kept calls state) {decision : RecordedDecision}
    (member : event ∈ state.rows (.run workspaceId runId))
    (decides : decisionIn event.envelope.payload = some decision) :
    ∃ call ∈ calls, ∃ admission events, call.Commits admission events ∧
      AdmissionRequestV1.runKey call.request = .run workspaceId runId ∧ event = events.decision ∧
      decision = ⟨call.request.proposal.proposalDigest, admission.state,
        events.digests.provenanceDigest⟩ := by
  have admits : admissionIn event = true := by
    cases listed : admissionIn event with
    | true => rfl
    | false =>
        rw [decision_silent listed] at decides
        cases decides
  rcases written_by kept member admits with ⟨call, inside, added⟩
  rcases decision_call added decides with ⟨admission, events, commits, key, same, shape⟩
  exact ⟨call, inside, admission, events, commits, key.symm, same, shape⟩

theorem record_written (kept : Kept calls state) {record : AdmissionRecord}
    (member : item ∈ state.rows (.workspace workspaceId))
    (records : decisionOf item.envelope.payload = some record) :
    ∃ call ∈ calls, ∃ admission events, call.Commits admission events ∧
      call.request.proposal.core.workspaceId = workspaceId ∧ item = events.workspaceEvent ∧
      record = recordOf call.request admission events.decision.envelope.eventId := by
  have admits : admissionIn item = true := by
    cases listed : admissionIn item with
    | true => rfl
    | false =>
        rw [record_silent listed] at records
        cases records
  rcases written_by kept member admits with ⟨call, inside, added⟩
  rcases record_call added records with ⟨admission, events, commits, key, same, shape⟩
  exact ⟨call, inside, admission, events, commits, workspace_named key, same, shape⟩

theorem commit_pair (commits : call.Commits admission events) :
    SameDecision events.decision events.workspaceEvent := by
  have built := events_built commits.built
  refine ⟨⟨call.request.proposal.proposalDigest, admission.state, events.digests.provenanceDigest⟩,
    recordOf call.request admission events.decision.envelope.eventId, ?_, ?_, rfl⟩
  · rw [built.decided.payload]
    rfl
  · rw [built.workspace.payload]
    rfl

theorem one_commit (kept : Kept calls state)
    (replayed : deterministicWorkspaceReplay (state.rows (.workspace workspaceId)) = .ok workspace)
    {other : AdmissionCall} {next : AdmissionCase} {more : AdmissionEvents}
    (one : call ∈ calls) (two : other ∈ calls) (commits : call.Commits admission events)
    (also : other.Commits next more)
    (own : call.request.proposal.core.workspaceId = workspaceId)
    (theirs : other.request.proposal.core.workspaceId = workspaceId)
    (same : events.decision.envelope.eventId = more.decision.envelope.eventId) :
    call = other ∧ events = more := by
  have apart := (workspace_ledgered replayed).apart
  rw [records_calls kept, List.map_flatMap] at apart
  have first : events.decision.envelope.eventId ∈
      (decisions (call.added (.workspace workspaceId))).map AdmissionRecord.decisionEventId := by
    subst own
    rw [show StreamKey.workspace call.request.proposal.core.workspaceId =
      AdmissionRequestV1.workspaceKey call.request from rfl, commit_records commits]
    exact List.mem_singleton.mpr rfl
  have second : events.decision.envelope.eventId ∈
      (decisions (other.added (.workspace workspaceId))).map AdmissionRecord.decisionEventId := by
    subst theirs
    rw [show StreamKey.workspace other.request.proposal.core.workspaceId =
      AdmissionRequestV1.workspaceKey other.request from rfl, commit_records also, same]
    exact List.mem_singleton.mpr rfl
  obtain rfl := one_writer apart one two first second
  exact ⟨rfl, (commits_unique commits also).2⟩

-- Every decision of a run has one record in the workspace, which says the same.
theorem decision_paired (kept : Kept calls state)
    (replayed : deterministicWorkspaceReplay (state.rows (.workspace workspaceId)) = .ok workspace)
    {decision : RecordedDecision} (member : event ∈ state.rows (.run workspaceId runId))
    (decides : decisionIn event.envelope.payload = some decision) :
    ∃! item, item ∈ state.rows (.workspace workspaceId) ∧ SameDecision event item := by
  rcases decision_written kept member decides with
    ⟨call, inside, admission, events, commits, key, rfl, _⟩
  rcases key_names key with ⟨named, _⟩
  refine ⟨events.workspaceEvent, ⟨added_reached kept inside ?_, commit_pair commits⟩, ?_⟩
  · rw [← named]
    change _ ∈ call.added (AdmissionRequestV1.workspaceKey call.request)
    rw [added_workspace commits]
    exact List.mem_singleton.mpr rfl
  · rintro item ⟨listed, _, record, _, records, same⟩
    rcases record_written kept listed records with
      ⟨other, within, next, more, also, theirs, rfl, rfl⟩
    rw [(one_commit kept replayed inside within commits also named theirs same.symm).2]

-- Every record of the workspace is that of one decision of one of its runs.
theorem record_paired (kept : Kept calls state)
    (replayed : deterministicWorkspaceReplay (state.rows (.workspace workspaceId)) = .ok workspace)
    {record : AdmissionRecord} (member : item ∈ state.rows (.workspace workspaceId))
    (records : decisionOf item.envelope.payload = some record) :
    ∃! place : JsString × HashedEventEnvelopeV1,
      place.2 ∈ state.rows (.run workspaceId place.1) ∧ SameDecision place.2 item := by
  rcases record_written kept member records with
    ⟨call, inside, admission, events, commits, named, rfl, _⟩
  refine ⟨(call.request.proposal.core.runId, events.decision),
    ⟨added_reached kept inside ?_, commit_pair commits⟩, ?_⟩
  · change _ ∈ call.added (.run workspaceId call.request.proposal.core.runId)
    rw [← named]
    change _ ∈ call.added (AdmissionRequestV1.runKey call.request)
    rw [added_run commits, AdmissionEvents.runEvents]
    simp
  · rintro ⟨runId, event⟩ ⟨listed, decision, found, decides, reads, same⟩
    rcases decision_written kept listed decides with
      ⟨other, within, next, more, also, key, rfl, _⟩
    rcases key_names key with ⟨theirs, run⟩
    rw [(events_built commits.built).workspace.payload] at reads
    obtain rfl := Option.some.inj reads
    rcases one_commit kept replayed inside within commits also named theirs same with ⟨rfl, rfl⟩
    rw [run]

theorem pair_agrees (kept : Kept calls state)
    (replayed : deterministicWorkspaceReplay (state.rows (.workspace workspaceId)) = .ok workspace)
    {decision : RecordedDecision} {record : AdmissionRecord}
    (member : event ∈ state.rows (.run workspaceId runId))
    (listed : item ∈ state.rows (.workspace workspaceId))
    (decides : decisionIn event.envelope.payload = some decision)
    (records : decisionOf item.envelope.payload = some record)
    (same : record.decisionEventId = event.envelope.eventId) :
    record.proposalDigest = decision.proposalDigest ∧ record.state = decision.state := by
  rcases decision_written kept member decides with
    ⟨call, inside, admission, events, commits, key, rfl, rfl⟩
  rcases record_written kept listed records with
    ⟨other, within, next, more, also, theirs, rfl, rfl⟩
  rcases one_commit kept replayed inside within commits also (key_names key).1 theirs same.symm with
    ⟨rfl, rfl⟩
  obtain rfl := (commits_unique commits also).1
  exact ⟨rfl, rfl⟩

end Pairs

section Acceptance

variable [Engine] {start state : Authority} {calls front back : List AdmissionCall}
  {call : AdmissionCall} {admission : AdmissionCase} {events : AdmissionEvents}
  {workspaceId runId proposalId : JsString} {run : ReplayResult} {workspace : WorkspaceState}
  {record : ProposalRecord}

/-- The call appends the one delta of the proposal together with its decision, which consumes its
quota; the delta continues the document that was there, one revision on. -/
structure AcceptedBy (state : Authority) (workspaceId runId proposalId : JsString)
    (call : AdmissionCall) (delta : AcceptedDelta) (decision item : HashedEventEnvelopeV1)
    (before after : ReplayResult) : Prop where
  one : deltasOn proposalId (state.rows (.run workspaceId runId)) = [delta]
  appended : deltas (call.added (.run workspaceId runId)) = [delta]
  decided : decision ∈ call.added (.run workspaceId runId)
  decides : (decisionOn proposalId decision.envelope.payload).isSome = true
  recorded : item ∈ call.added (.workspace workspaceId)
  consumed : ∃ record, decisionOf item.envelope.payload = some record ∧
    record.decisionEventId = decision.envelope.eventId ∧ record.consumed = .yes
  replayed : deterministicReplay (call.before.rows (.run workspaceId runId)) = .ok before
  extended : deterministicReplay (call.after.rows (.run workspaceId runId)) = .ok after
  revision : after.canonical.revision = before.canonical.revision + 1
  base : documentDigest before.canonical.document = .ok delta.priorStateHash

theorem commit_deltas (commits : call.Commits admission events) :
    deltas (call.added (AdmissionRequestV1.runKey call.request)) =
      admission.change.toList.map fun change =>
        ⟨call.request.proposal.proposalId, admission.revision.stateHash, change.1⟩ := by
  rw [deltas, reading_payloads commits, runPayloads, List.filterMap_append, List.filterMap_append]
  have submitted : (submittedPayload call.request admission).toList.filterMap
      CanonicalHistory.acceptedDelta = [] := by
    unfold submittedPayload
    split <;> rfl
  rw [submitted, List.nil_append, acceptedPayload]
  cases admission.change <;> rfl

theorem accepted_deltas (commits : call.Commits admission events) (accepted : admission.state = .accepted) :
    ∃ delta, deltas (call.added (AdmissionRequestV1.runKey call.request)) = [delta] ∧
      delta.proposalId = call.request.proposal.proposalId ∧
      delta.priorStateHash = admission.revision.stateHash := by
  rcases Option.isSome_iff_exists.mp ((change_accepted commits).mpr accepted) with ⟨change, shape⟩
  rw [commit_deltas commits, shape]
  exact ⟨_, rfl, rfl, rfl⟩

theorem delta_call {key : StreamKey} {delta : AcceptedDelta} (member : delta ∈ deltas (call.added key)) :
    ∃ admission events, call.Commits admission events ∧
      key = AdmissionRequestV1.runKey call.request ∧
      delta.proposalId = call.request.proposal.proposalId ∧ admission.state = .accepted := by
  rcases List.mem_filterMap.mp member with ⟨item, written, accepted⟩
  rcases delta_mark accepted with ⟨mark, marked⟩
  rcases mark_call (List.mem_filterMap.mpr ⟨item, written, marked⟩) with
    ⟨admission, events, commits, key, same⟩
  refine ⟨admission, events, commits, key, same, (change_accepted commits).mp ?_⟩
  rw [key, commit_deltas commits] at member
  cases changed : admission.change with
  | some change => rfl
  | none =>
      rw [changed] at member
      cases member

theorem accepting_last (kept : Kept calls state)
    (last : LastOn calls front back call admission events workspaceId runId proposalId record)
    {other : AdmissionCall} {next : AdmissionCase} {more : AdmissionEvents} (inside : other ∈ calls)
    (commits : other.Commits next more)
    (key : AdmissionRequestV1.runKey other.request = .run workspaceId runId)
    (same : other.request.proposal.proposalId = proposalId) (accepted : next.state = .accepted) :
    other = call := by
  rw [last.split, List.mem_append, List.mem_cons] at inside
  rcases inside with before | here | behind
  · exact (accepted_last kept last.split before commits accepted last.commits
      (key.trans last.key.symm) (same.trans last.proposal.symm)).elim
  · exact here
  · have said := commit_mark commits
    rw [key, same, last.behind other behind] at said
    cases said

theorem one_delta (kept : Kept calls state)
    (last : LastOn calls front back call admission events workspaceId runId proposalId record)
    {delta : AcceptedDelta}
    (own : deltas (call.added (.run workspaceId runId)) = [delta])
    (named : delta.proposalId = proposalId) :
    deltasOn proposalId (state.rows (.run workspaceId runId)) = [delta] := by
  have nothing : ∀ other ∈ front ++ back,
      deltasOn proposalId (other.added (.run workspaceId runId)) = [] := by
    intro other member
    rw [deltasOn, List.filter_eq_nil_iff]
    intro another listed same
    have said : ∃ mark, mark ∈ marksOn proposalId (other.added (.run workspaceId runId)) := by
      rcases List.mem_filterMap.mp listed with ⟨item, written, given⟩
      rcases delta_mark given with ⟨mark, marked⟩
      rw [of_decide_eq_true same] at marked
      exact ⟨mark, List.mem_filterMap.mpr ⟨item, written, marked⟩⟩
    rcases said with ⟨mark, said⟩
    rcases List.mem_append.mp member with before | behind
    · rcases delta_call listed with ⟨next, more, commits, key, proposal, done⟩
      exact accepted_last kept last.split before commits done last.commits
        (key.symm.trans last.key.symm)
        (proposal.symm.trans ((of_decide_eq_true same).trans last.proposal.symm))
    · rw [last.behind other behind] at said
      cases said
  have here : deltasOn proposalId (call.added (.run workspaceId runId)) = [delta] := by
    rw [deltasOn, own, List.filter_singleton, decide_eq_true named]
    rfl
  rw [deltas_calls kept, last.split, List.flatMap_append, List.flatMap_cons, here,
    List.flatMap_eq_nil_iff.mpr fun other member => nothing other (List.mem_append_left _ member),
    List.flatMap_eq_nil_iff.mpr fun other member => nothing other (List.mem_append_right _ member)]
  rfl

-- A proposal is accepted when one call has appended its delta with its decision.
theorem accepted_iff (kept : Kept calls state)
    (replayed : deterministicReplay (state.rows (.run workspaceId runId)) = .ok run)
    (found : run.operational.proposals.get proposalId = some record) :
    record.status = .decided .accepted ↔ ∃ call ∈ calls, ∃ delta decision item before after,
      AcceptedBy state workspaceId runId proposalId call delta decision item before after := by
  rcases last_on kept replayed found with ⟨front, back, call, admission, events, last⟩
  have inside : call ∈ calls := by rw [last.split]; simp
  have commits := last.commits
  constructor
  · intro status
    have accepted : admission.state = .accepted := by
      rw [last.status] at status
      exact AdmissionTransitionStateV1.decided.inj status
    have assessed := case_assessed commits.assessed
    rcases accepted_deltas commits accepted with ⟨delta, own, proposal, prior⟩
    rcases key_names last.key with ⟨named, _⟩
    have revision := assessed.revision
    simp only [loadRevision, inDomain, bind_ok_iff, map_error_ok_iff, pure_ok_iff] at revision
    rcases revision with ⟨before, replays, revision⟩
    have started := (observed_heads assessed).started.1
    rw [last.key] at own replays started
    have grown := kept.own call inside (.run workspaceId runId)
    rcases kept.reached call inside (.run workspaceId runId) with ⟨more, whole⟩
    rw [← whole] at replayed
    rcases replay_prefix (by rw [grown]; simp [started]) replayed with ⟨after, extended⟩
    have old := CanonicalHistory.history_kept replays
    have new := CanonicalHistory.history_kept extended
    refine ⟨call, inside, delta, events.decision, events.workspaceEvent, before, after, ?_⟩
    constructor
    · exact one_delta kept last own (proposal.trans last.proposal)
    · exact own
    · rw [← last.key, added_run commits, AdmissionEvents.runEvents]
      simp
    · rw [(events_built commits.built).decided.payload, ← last.proposal]
      exact Option.isSome_iff_exists.mpr ⟨_, if_pos rfl⟩
    · rw [← named]
      change _ ∈ call.added (AdmissionRequestV1.workspaceKey call.request)
      rw [added_workspace commits]
      exact List.mem_singleton.mpr rfl
    · refine ⟨recordOf call.request admission events.decision.envelope.eventId, ?_, rfl, ?_⟩
      · rw [(events_built commits.built).workspace.payload]
        rfl
      · exact if_pos accepted
    · exact replays
    · exact extended
    · have more : deltas (call.after.rows (.run workspaceId runId)) =
          deltas (call.before.rows (.run workspaceId runId)) ++ [delta] := by
        rw [grown, deltas, List.filterMap_append]
        exact congrArg _ own
      rw [new.revision, old.revision, more, List.length_append, List.length_singleton]
    · rw [old.hashed, prior, ← revision]
  · rintro ⟨other, within, delta, decision, item, before, after, accepted⟩
    have listed : delta ∈ deltas (other.added (.run workspaceId runId)) := by
      rw [accepted.appended]
      exact List.mem_singleton.mpr rfl
    have chosen : delta ∈ deltasOn proposalId (state.rows (.run workspaceId runId)) := by
      rw [accepted.one]
      exact List.mem_singleton.mpr rfl
    have named : delta.proposalId = proposalId := of_decide_eq_true (List.mem_filter.mp chosen).2
    rcases delta_call listed with ⟨next, more, also, key, proposal, done⟩
    obtain rfl := accepting_last kept last within also key.symm (proposal.symm.trans named) done
    rw [last.status, (commits_unique commits also).1, done]

/-- What the two streams of a workspace and its runs say of proposals. -/
structure StreamsAgree (calls : List AdmissionCall) (state : Authority) (workspaceId : JsString)
    (workspace : WorkspaceState) : Prop where
  status : ∀ runId run, deterministicReplay (state.rows (.run workspaceId runId)) = .ok run →
    ∀ proposalId record, run.operational.proposals.get proposalId = some record →
      ∃ decided projection, record.status = .decided decided ∧
        workspace.admissions.get record.proposalDigest = some projection ∧
        projection.state = decided
  paired : ∀ runId, ∀ event ∈ state.rows (.run workspaceId runId),
    (decisionIn event.envelope.payload).isSome = true →
      ∃! item, item ∈ state.rows (.workspace workspaceId) ∧ SameDecision event item
  known : ∀ item ∈ state.rows (.workspace workspaceId),
    (decisionOf item.envelope.payload).isSome = true →
      ∃! place : JsString × HashedEventEnvelopeV1,
        place.2 ∈ state.rows (.run workspaceId place.1) ∧ SameDecision place.2 item
  agree : ∀ runId, ∀ event ∈ state.rows (.run workspaceId runId),
    ∀ item ∈ state.rows (.workspace workspaceId), ∀ decision record,
      decisionIn event.envelope.payload = some decision →
      decisionOf item.envelope.payload = some record →
      record.decisionEventId = event.envelope.eventId →
        record.proposalDigest = decision.proposalDigest ∧ record.state = decision.state
  accepted : ∀ runId run, deterministicReplay (state.rows (.run workspaceId runId)) = .ok run →
    ∀ proposalId record, run.operational.proposals.get proposalId = some record →
      (record.status = .decided .accepted ↔ ∃ call ∈ calls, ∃ delta decision item before after,
        AcceptedBy state workspaceId runId proposalId call delta decision item before after)

/-- In every history in which only the admission service appends admission events, both streams
agree wherever they replay. -/
theorem two_streams_agree (unadmitted : Unadmitted start)
    (history : Runs HistoryStep start calls state) (free : CollisionFree calls)
    (replayed : deterministicWorkspaceReplay (state.rows (.workspace workspaceId)) = .ok workspace) :
    StreamsAgree calls state workspaceId workspace := by
  have kept := AdmissionHistories.history_kept unadmitted history
  constructor
  · intro runId run replays proposalId record found
    rcases last_on kept replays found with ⟨front, back, call, admission, events, last⟩
    exact status_recorded kept free replayed last
  · intro runId event member decides
    rcases Option.isSome_iff_exists.mp decides with ⟨decision, decides⟩
    exact decision_paired kept replayed member decides
  · intro item member records
    rcases Option.isSome_iff_exists.mp records with ⟨record, records⟩
    exact record_paired kept replayed member records
  · intro runId event member item listed decision record decides records same
    exact pair_agrees kept replayed member listed decides records same
  · intro runId run replays proposalId record found
    exact accepted_iff kept replays found

end Acceptance

section Recorded

attribute [local instance] admissionEngine

/-- Both streams of the scenario verify, and its request is for them. -/
instance plain_computed : Fact ((∀ row ∈ plainScenario.authority.events, admissionIn row.event = false ∧
      row.key ∈ [StreamKey.workspace (js "w"), .run (js "w") (js "r")]) ∧
    (∀ key ∈ [StreamKey.workspace (js "w"), .run (js "w") (js "r")],
      endsIn (fun _ => true) (authenticatedRows plainScenario.authority key) = true) ∧
    AdmissionRequestV1.runKey plainScenario.request = .run (js "w") (js "r") ∧
      AdmissionRequestV1.workspaceKey plainScenario.request = .workspace (js "w")) :=
  ⟨by decide +kernel⟩

theorem plain_unadmitted : Unadmitted plainScenario.authority := by
  rcases plain_computed.out with ⟨listed, verified, -⟩
  constructor
  · intro key
    by_cases known : key ∈ [StreamKey.workspace (js "w"), .run (js "w") (js "r")]
    · rcases ends_in_exists (verified key known) with ⟨rows, authenticated, _⟩
      exact ⟨rows, authenticated⟩
    · -- a stream that the scenario does not have is empty
      have empty : plainScenario.authority.rows key = [] := by
        rw [List.eq_nil_iff_forall_not_mem]
        intro event member
        exact known (listed _ (mem_rows_iff.mp member)).2
      have missing : plainScenario.authority.streams.get key = none := by
        rw [List.mem_cons, List.mem_singleton, not_or] at known
        simp only [Scenario.authority, Record.get_set, if_neg (Ne.symm known.1),
          if_neg (Ne.symm known.2)]
        rfl
      exact ⟨[], by rw [authenticatedRows, missing, empty]; rfl⟩
  · intro key event member
    exact (listed _ (mem_rows_iff.mp member)).1

def plainCall : AdmissionCall := ⟨openSession, plainScenario.request, plainScenario.authority⟩

/-- A history with one accepted proposal, on which both streams agree. -/
theorem plain_streams_agree : ∃ state run workspace record,
    Runs HistoryStep plainScenario.authority [plainCall] state ∧
    deterministicReplay (state.rows (.run (js "w") (js "r"))) = .ok run ∧
    run.operational.proposals.get plainScenario.request.proposal.proposalId = some record ∧
    record.status = .decided .accepted ∧ StreamsAgree [plainCall] state (js "w") workspace := by
  rcases ends_in_exists plain_admission_computed.out.2 with ⟨⟨result, pictured⟩, ran, extended⟩
  rcases evaluate_unrecorded ran with ⟨after, applied, same⟩
  simp only [Bool.and_eq_true, Authority.rows, ← same] at extended
  rcases extended with ⟨⟨_, runExtended⟩, workspaceExtended⟩
  rcases ends_in_exists runExtended with ⟨run, runReplayed, accepted⟩
  rcases ends_in_exists workspaceExtended with ⟨workspace, workspaceReplayed, _⟩
  rcases (Option.any_eq_true _ _).mp accepted with ⟨record, found, status⟩
  have left : plainCall.after = after := call_after applied
  have history : Runs HistoryStep plainScenario.authority [plainCall] after := by
    rw [← left]
    exact Runs.step .start (.called openSession plainScenario.request)
  have free : CollisionFree [plainCall] := by
    rintro _ ⟨left, one, rfl⟩ _ ⟨right, two, rfl⟩ _
    rw [List.mem_singleton.mp one, List.mem_singleton.mp two]
  have named := plain_computed.out.2.2
  rw [named.1] at runReplayed
  rw [named.2] at workspaceReplayed
  exact ⟨after, run, workspace, record, history, runReplayed, found, of_decide_eq_true status,
    two_streams_agree plain_unadmitted history free workspaceReplayed⟩

end Recorded

end Horseness.AdmissionAgreement
