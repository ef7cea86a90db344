import Horseness.AdmissionReplays
import Horseness.GroupedLogs

/-!
Histories in which every admission event comes from the admission service. Other clients write
whatever else they like between its calls, and the authority's other tables change as they may.
-/

namespace Horseness.AdmissionHistories

open ScriptText ScriptEngine EventPayloads EventChains Replay CanonicalHistory QuotaLedger
  AuthorityLog AppendLog AdmissionService ProposalHistory AdmissionCommits Turns

section Events

def admissionPayload : DomainEventPayloadV1 → Bool
  | .run (.proposalSubmittedV1 ..) | .run (.deltaAcceptedV1 ..)
  | .run (.admissionDecisionRecordedV1 ..) | .workspace (.workspaceAdmissionRecordedV1 ..) => true
  | _ => false

def admissionIn (event : HashedEventEnvelopeV1) : Bool := admissionPayload event.envelope.payload

def decisionIn : DomainEventPayloadV1 → Option RecordedDecision
  | .run (.admissionDecisionRecordedV1 _ _ _ proposalDigest _ state provenanceDigest _ _) =>
      some ⟨proposalDigest, state, provenanceDigest⟩
  | _ => none

def deltasOn (proposalId : JsString) (events : List HashedEventEnvelopeV1) : List AcceptedDelta :=
  (deltas events).filter fun delta => delta.proposalId = proposalId

variable {given : DomainEventPayloadV1}

theorem mark_silent (proposalId : JsString) (other : admissionPayload given = false) :
    about proposalId (markOf given) = none := by
  unfold markOf
  split <;> first | cases other | rfl

theorem delta_silent (other : admissionPayload given = false) :
    CanonicalHistory.acceptedDelta given = none := by
  unfold CanonicalHistory.acceptedDelta
  split <;> first | cases other | rfl

theorem record_silent (other : admissionPayload given = false) : decisionOf given = none := by
  unfold decisionOf
  split <;> first | cases other | rfl

theorem decision_silent (other : admissionPayload given = false) : decisionIn given = none := by
  unfold decisionIn
  split <;> first | cases other | rfl

theorem delta_mark {delta : AcceptedDelta}
    (accepted : CanonicalHistory.acceptedDelta given = some delta) :
    ∃ mark, about delta.proposalId (markOf given) = some mark := by
  unfold CanonicalHistory.acceptedDelta at accepted
  split at accepted
  · cases accepted
    exact ⟨_, if_pos rfl⟩
  · cases accepted

end Events

section Calls

/-- A call of the admission service on the tables as they stood. -/
structure AdmissionCall where
  around : Surroundings
  request : AdmissionRequestV1
  before : Authority

variable [Engine]

def AdmissionCall.answer (call : AdmissionCall) : Except StoreError (AdmissionResultV1 × Authority) :=
  evaluateAndApply call.around call.request call.before

def AdmissionCall.after (call : AdmissionCall) : Authority :=
  match call.answer with
  | .ok (_, after) => after
  | .error _ => call.before

theorem call_after {call : AdmissionCall} {after : Authority}
    (answered : evaluateAndApply call.around call.request call.before = .ok (result, after)) :
    call.after = after := by
  unfold AdmissionCall.after AdmissionCall.answer
  rw [answered]

def AdmissionCall.added (call : AdmissionCall) (key : StreamKey) : List HashedEventEnvelopeV1 :=
  (call.after.rows key).drop (call.before.rows key).length

abbrev AdmissionCall.Commits (call : AdmissionCall) (admission : AdmissionCase)
    (events : AdmissionEvents) : Prop :=
  Admitted call.around call.request call.before admission events call.after

/-- One step of a history: a call, a request of another client, or a change beside the streams. -/
inductive HistoryStep (state : Authority) : List AdmissionCall → Authority → Prop
  | called (around : Surroundings) (request : AdmissionRequestV1) :
      HistoryStep state [⟨around, request, state⟩] (AdmissionCall.after ⟨around, request, state⟩)
  | served (around : Surroundings) (request : StoreRequest)
      (others : ∀ row ∈ rowsOf request, admissionIn row.event = false) :
      HistoryStep state [] (serve around request state).2
  | beside (after : Authority) (streams : after.streams = state.streams)
      (events : after.events = state.events) : HistoryStep state [] after

/-- The tables before the first admission: every stream verifies, and none has an admission event. -/
structure Unadmitted (state : Authority) : Prop where
  authentic : ∀ key, Authentic state key
  nothing : ∀ key, ∀ event ∈ state.rows key, admissionIn event = false

variable {call : AdmissionCall} {admission : AdmissionCase} {events : AdmissionEvents}
  {key : StreamKey}

theorem call_effect (call : AdmissionCall) :
    call.after = call.before ∨ ∃ admission events, call.Commits admission events := by
  unfold AdmissionCall.Commits AdmissionCall.after
  cases answered : call.answer with
  | error failure => exact .inl rfl
  | ok answer =>
      rcases admission_effect answered with same | ⟨admission, events, admitted, _⟩
      · exact .inl same
      · exact .inr ⟨admission, events, admitted⟩

theorem added_still (same : call.after = call.before) : call.added key = [] := by
  rw [AdmissionCall.added, same, List.drop_length]

theorem added_run (commits : call.Commits admission events) :
    call.added (AdmissionRequestV1.runKey call.request) = events.runEvents := by
  rw [AdmissionCall.added, (admitted_rows commits).run, List.drop_left]

theorem added_workspace (commits : call.Commits admission events) :
    call.added (AdmissionRequestV1.workspaceKey call.request) = [events.workspaceEvent] := by
  rw [AdmissionCall.added, (admitted_rows commits).workspace, List.drop_left]

-- Only a commit adds events, and only to its own run and workspace.
theorem added_by (filled : call.added key ≠ []) : ∃ admission events,
    call.Commits admission events ∧ (key = AdmissionRequestV1.runKey call.request ∨
      key = AdmissionRequestV1.workspaceKey call.request) := by
  rcases call_effect call with same | ⟨admission, events, commits⟩
  · exact absurd (added_still same) filled
  · refine ⟨admission, events, commits, ?_⟩
    by_contra apart
    rw [not_or] at apart
    refine filled ?_
    rw [AdmissionCall.added, (admitted_rows commits).others key apart.1 apart.2, List.drop_length]

theorem call_extends (authentic : Authentic call.before key) : Authentic call.after key ∧
    call.after.rows key = call.before.rows key ++ call.added key := by
  rcases call_effect call with same | ⟨admission, events, commits⟩
  · rw [added_still same, List.append_nil, same]
    exact ⟨authentic, rfl⟩
  · rcases commits.extended with ⟨row, extended⟩
    refine ⟨extends_authentic extended authentic, ?_⟩
    rcases rows_extended (authenticated_safe (authentic_rows authentic)).1 extended with ⟨new, shape, _⟩
    rw [AdmissionCall.added, shape, List.drop_left]

theorem sealed_payloads {request : AdmissionRequestV1} {number : Nat}
    {payloads : List DomainEventPayloadV1} {items : List HashedEventEnvelopeV1}
    (run : SealedRun request key number payloads items) :
    items.map (fun item => item.envelope.payload) = payloads := by
  induction run with
  | done => rfl
  | next first rest ih => rw [List.map_cons, ih, first.payload]

theorem run_payloads (commits : call.Commits admission events) :
    events.runEvents.map (fun item => item.envelope.payload) =
      runPayloads call.request admission events.digests :=
  sealed_payloads (events_built commits.built).run

omit [Engine] in
theorem payloads_admission {request : AdmissionRequestV1} {digests : ProvenanceDigests}
    (member : given ∈ runPayloads request admission digests) : admissionPayload given = true := by
  simp only [runPayloads, submittedPayload, acceptedPayload, decisionPayload, List.mem_append,
    List.mem_singleton, Option.mem_toList, Option.map_eq_some_iff] at member
  rcases member with (submitted | ⟨change, _, rfl⟩) | rfl
  · split at submitted
    · cases submitted
      rfl
    · cases submitted
  · rfl
  · rfl

theorem added_admission {event : HashedEventEnvelopeV1} (member : event ∈ call.added key) :
    admissionIn event = true := by
  rcases added_by (List.ne_nil_of_mem member) with ⟨admission, events, commits, rfl | rfl⟩
  · rw [added_run commits] at member
    have listed : event.envelope.payload ∈ runPayloads call.request admission events.digests := by
      rw [← run_payloads commits]
      exact List.mem_map_of_mem member
    exact payloads_admission listed
  · rw [added_workspace commits, List.mem_singleton] at member
    rw [member, admissionIn, (events_built commits.built).workspace.payload]
    rfl

end Calls

section Histories

variable [Engine] {start state after : Authority} {calls emitted : List AdmissionCall}

/-- What a history keeps: its streams verify, their admission events are those of its calls, and
no call has moved an event. -/
structure Kept (calls : List AdmissionCall) (state : Authority) : Prop where
  authentic : ∀ key, Authentic state key
  events : ∀ key, (state.rows key).filter admissionIn = calls.flatMap fun call => call.added key
  own : ∀ call ∈ calls, ∀ key, call.after.rows key = call.before.rows key ++ call.added key
  reached : ∀ call ∈ calls, ∀ key, call.after.rows key <+: state.rows key
  ordered : calls.Pairwise fun call later => ∀ key, call.after.rows key <+: later.before.rows key

theorem kept_start (unadmitted : Unadmitted start) : Kept [] start where
  authentic := unadmitted.authentic
  events key := by
    rw [List.flatMap_nil, List.filter_eq_nil_iff]
    intro event member admits
    rw [unadmitted.nothing key event member] at admits
    cases admits
  own call member := by cases member
  reached call member := by cases member
  ordered := .nil

theorem kept_between (kept : Kept calls state) (authentic : ∀ key, Authentic after key)
    (grown : ∀ key, ∃ new, after.rows key = state.rows key ++ new ∧
      ∀ event ∈ new, admissionIn event = false) : Kept calls after where
  authentic := authentic
  events key := by
    rcases grown key with ⟨new, shape, others⟩
    have nothing : new.filter admissionIn = [] :=
      List.filter_eq_nil_iff.mpr fun event member => by rw [others event member]; exact Bool.false_ne_true
    rw [shape, List.filter_append, nothing, List.append_nil, kept.events key]
  own := kept.own
  reached call member key := by
    rcases grown key with ⟨new, shape, _⟩
    rw [shape]
    exact (kept.reached call member key).trans (List.prefix_append _ _)
  ordered := kept.ordered

theorem served_grows {around : Surroundings} {request : StoreRequest}
    (authentic : ∀ key, Authentic state key)
    (others : ∀ row ∈ rowsOf request, admissionIn row.event = false) (key : StreamKey) :
    Authentic (serve around request state).2 key ∧ ∃ new,
      (serve around request state).2.rows key = state.rows key ++ new ∧
        ∀ event ∈ new, admissionIn event = false := by
  unfold serve
  cases performed : perform around state request with
  | error failure => exact ⟨authentic key, [], (List.append_nil _).symm, by simp⟩
  | ok answered =>
      rcases answered with ⟨answer, after⟩
      rcases perform_effect performed with ⟨_, _, _, _, effect⟩
      cases effect with
      | repeated | nothing => exact ⟨authentic key, [], (List.append_nil _).symm, by simp⟩
      | committed value _ commits =>
          have extended := commits.extended
          refine ⟨extends_authentic extended (authentic key), ?_⟩
          rcases rows_extended (authenticated_safe (authentic_rows (authentic key))).1 extended with
            ⟨new, shape, same⟩
          refine ⟨new, shape, fun event member => ?_⟩
          have listed := same.mem_iff.mp member
          simp only [List.mem_map, List.mem_filter] at listed
          rcases listed with ⟨row, ⟨written, _⟩, rfl⟩
          exact others row written

theorem kept_step (kept : Kept calls state) (stepped : HistoryStep state emitted after) :
    Kept (calls ++ emitted) after := by
  cases stepped with
  | called around request =>
      have extend := fun key => @call_extends _ ⟨around, request, state⟩ key (kept.authentic key)
      constructor
      · exact fun key => (extend key).1
      · intro key
        rw [(extend key).2, List.filter_append, kept.events key, List.flatMap_append,
          List.flatMap_singleton]
        exact congrArg _ (List.filter_eq_self.mpr fun event => added_admission)
      · intro call member key
        rcases List.mem_append.mp member with old | new
        · exact kept.own call old key
        · obtain rfl := List.mem_singleton.mp new
          exact (extend key).2
      · intro call member key
        rcases List.mem_append.mp member with old | new
        · refine (kept.reached call old key).trans ?_
          rw [(extend key).2]
          exact List.prefix_append _ _
        · obtain rfl := List.mem_singleton.mp new
          exact List.prefix_rfl
      · refine List.pairwise_append.mpr ⟨kept.ordered, List.pairwise_singleton _ _, ?_⟩
        intro call member later new key
        obtain rfl := List.mem_singleton.mp new
        exact kept.reached call member key
  | served around request others =>
      rw [List.append_nil]
      exact kept_between kept (fun key => (served_grows kept.authentic others key).1)
        fun key => (served_grows kept.authentic others key).2
  | beside after streams events =>
      rw [List.append_nil]
      have same : ∀ key, after.rows key = state.rows key := fun key => by
        rw [Authority.rows, Authority.rows, events]
      refine kept_between kept (fun key => ?_) fun key => ⟨[], by rw [same, List.append_nil], by simp⟩
      exact authentic_congr (by rw [streams]) (same key) (kept.authentic key)

theorem history_kept (unadmitted : Unadmitted start)
    (run : Runs HistoryStep start calls state) : Kept calls state :=
  runs_invariant Kept (kept_start unadmitted)
    (fun _ _ _ _ _ kept stepped => kept_step kept stepped) run

end Histories

end Horseness.AdmissionHistories
