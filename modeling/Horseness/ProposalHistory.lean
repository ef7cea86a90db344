import Horseness.AdmissionService

/-!
What a replayed run knows of a proposal: the last event about it. The events about one
proposal all name one digest, and behind a decision only a delta can speak again without one.
-/

namespace Horseness.ProposalHistory

open FallibleRuns Records ScriptText ScriptEngine EventPayloads EventChains Replay ReplaySteps
  AdmissionService

section Marks

/-- What an event says about its proposal. -/
structure Mark where
  status : AdmissionTransitionStateV1
  proposalDigest : JsString
  deriving DecidableEq

def ProposalRecord.mark (record : ProposalRecord) : Mark := ⟨record.status, record.proposalDigest⟩

def markOf : DomainEventPayloadV1 → Option (JsString × Mark)
  | .run (.proposalSubmittedV1 _ _ proposalId proposalDigest) =>
      some (proposalId, ⟨.submitted, proposalDigest⟩)
  | .run (.deltaAcceptedV1 _ _ proposalId proposalDigest _ _ _) =>
      some (proposalId, ⟨.decided .accepted, proposalDigest⟩)
  | .run (.admissionDecisionRecordedV1 _ _ proposalId proposalDigest _ state _ _ _) =>
      some (proposalId, ⟨.decided state, proposalDigest⟩)
  | _ => none

def markIn : RunOperationalPayload → Option (JsString × Mark)
  | .proposalSubmittedV1 proposalId proposalDigest =>
      some (proposalId, ⟨.submitted, proposalDigest⟩)
  | .deltaAcceptedV1 proposalId proposalDigest =>
      some (proposalId, ⟨.decided .accepted, proposalDigest⟩)
  | .admissionDecisionRecordedV1 proposalId proposalDigest state _ _ =>
      some (proposalId, ⟨.decided state, proposalDigest⟩)
  | _ => none

def about (proposalId : JsString) (said : Option (JsString × Mark)) : Option Mark :=
  said.bind fun item => if item.1 = proposalId then some item.2 else none

def marksOn (proposalId : JsString) (events : List HashedEventEnvelopeV1) : List Mark :=
  events.filterMap fun item => about proposalId (markOf item.envelope.payload)

theorem marks_append (proposalId : JsString) (front back : List HashedEventEnvelopeV1) :
    marksOn proposalId (front ++ back) = marksOn proposalId front ++ marksOn proposalId back :=
  List.filterMap_append

theorem decisions_append (proposalId : JsString) (front back : List HashedEventEnvelopeV1) :
    decisionsOn proposalId (front ++ back) =
      decisionsOn proposalId front ++ decisionsOn proposalId back :=
  List.filterMap_append

theorem decision_mark {proposalId : JsString} {given : DomainEventPayloadV1}
    {decision : RecordedDecision} (decided : decisionOn proposalId given = some decision) :
    about proposalId (markOf given) = some ⟨.decided decision.state, decision.proposalDigest⟩ := by
  unfold decisionOn at decided
  split at decided
  · next id digest _ state _ _ _ =>
      split at decided
      · next same =>
          cases decided
          simp [markOf, about, same]
      · cases decided
  · cases decided

variable [Engine]

theorem read_mark {envelope : EventEnvelopeV1} {given : DomainEventPayloadV1}
    {payload : RunOperationalPayload} (read : operationalPayload envelope given = .ok payload) :
    markIn payload = markOf given := by
  cases given with
  | workspace event => cases read
  | run event =>
      cases event <;>
        simp only [operationalPayload, bind_ok_iff, pure_ok_iff, Except.ok.injEq] at read
      case taskExecution event =>
        rcases read with ⟨_, _, _, _, rfl⟩
        rfl
      case runCreatedV1 =>
        rcases read with ⟨_, _, _, _, _, _, _, _, _, _, rfl⟩
        rfl
      case taskCreatedV1 =>
        rcases read with ⟨_, _, _, _, rfl⟩
        rfl
      case proposalSubmittedV1 | admissionDecisionRecordedV1 | attemptReceiptRecordedV1
          | taskResolvedV1 =>
        rcases read with ⟨_, _, rfl⟩
        rfl
      case deltaAcceptedV1 =>
        rcases read with ⟨_, _, _, _, rfl⟩
        rfl
      case forkCreatedV1 | contextManifestPublishedV1 =>
        subst read
        rfl

-- What is said of a proposal is said by its submission, by its delta or by a decision.
theorem mark_kind {envelope : EventEnvelopeV1} {given : DomainEventPayloadV1}
    {payload : RunOperationalPayload} {proposalId : JsString} {mark : Mark}
    (read : operationalPayload envelope given = .ok payload)
    (spoken : markOf given = some (proposalId, mark)) :
    (∃ digest, payload = .proposalSubmittedV1 proposalId digest) ∨
      mark.status = .decided .accepted ∨
      ∃ decision, decisionOn proposalId given = some decision := by
  unfold markOf at spoken
  split at spoken
  · cases spoken
    simp only [operationalPayload, bind_ok_iff, pure_ok_iff] at read
    rcases read with ⟨_, _, rfl⟩
    exact .inl ⟨_, rfl⟩
  · cases spoken
    exact .inr (.inl rfl)
  · cases spoken
    exact .inr (.inr ⟨_, if_pos rfl⟩)
  · cases spoken

end Marks

section Steps

variable [Engine] {state after : RunOperationalState} {event : RunOperationalEvent}

theorem submission_effect {proposalId proposalDigest : JsString}
    (named : event.payload = .proposalSubmittedV1 proposalId proposalDigest)
    (reduced : reduceOperationalState (some state) event = .ok after) :
    state.proposals.get proposalId = none ∧ after.proposals =
      state.proposals.set proposalId ⟨.submitted, proposalDigest, none, none⟩ := by
  rcases operational_step reduced with ⟨_, stepped⟩
  simp only [reduceOperationalPayload, named, bind_ok_iff, pure_ok_iff] at stepped
  rcases stepped with ⟨_, fresh, rfl⟩
  exact ⟨unrecorded_none fresh, rfl⟩

-- An event about a proposal writes what it says; what was known has the same digest.
theorem mark_written (reduced : reduceOperationalState (some state) event = .ok after)
    (proposalId : JsString) :
    (after.proposals.get proposalId).map ProposalRecord.mark =
        (about proposalId (markIn event.payload)).or
          ((state.proposals.get proposalId).map ProposalRecord.mark) ∧
      ∀ mark ∈ about proposalId (markIn event.payload), ∀ record,
        state.proposals.get proposalId = some record →
          record.proposalDigest = mark.proposalDigest := by
  have effect := proposal_effect reduced
  cases kind : event.payload with
  | proposalSubmittedV1 id digest =>
      rcases submission_effect kind reduced with ⟨fresh, written⟩
      rw [written, Record.get_set]
      by_cases same : id = proposalId
      · subst same
        simp [markIn, about, ProposalRecord.mark, fresh]
      · simp [markIn, about, same]
  | deltaAcceptedV1 id digest =>
      rw [kind] at effect
      cases effect with
      | unchanged _ _ noDelta _ => exact absurd rfl (noDelta id digest)
      | accepted _ _ existing found agree _ written =>
          rw [written, Record.get_set]
          by_cases same : id = proposalId
          · subst same
            simp [markIn, about, ProposalRecord.mark, found, agree]
          · simp [markIn, about, same]
  | admissionDecisionRecordedV1 id digest decision provenance artifact =>
      rw [kind] at effect
      cases effect with
      | unchanged _ _ _ noDecision => exact absurd rfl (noDecision _ _ _ _ _)
      | decided _ _ _ _ _ existing found agree _ written =>
          rw [written, Record.get_set]
          by_cases same : id = proposalId
          · subst same
            simp [markIn, about, ProposalRecord.mark, found, agree]
          · simp [markIn, about, same]
  | _ =>
      rw [kind] at effect
      cases effect with
      | unchanged _ same _ _ => simp [markIn, about, same]

end Steps

section Histories

variable [Engine] {events : List HashedEventEnvelopeV1} {result : ReplayResult}

/-- What a run knows of a proposal is what the last event about it said. -/
structure Marked (events : List HashedEventEnvelopeV1) (state : RunOperationalState)
    (proposalId : JsString) : Prop where
  last : (state.proposals.get proposalId).map ProposalRecord.mark =
    (marksOn proposalId events).getLast?
  digest : ∀ mark ∈ marksOn proposalId events, ∀ record,
    state.proposals.get proposalId = some record → record.proposalDigest = mark.proposalDigest
  decided : ∀ decision, (decisionsOn proposalId events).getLast? = some decision → ∀ record,
    state.proposals.get proposalId = some record →
      record.status = .decided decision.state ∨ record.status = .decided .accepted

theorem marked_begin {item : HashedEventEnvelopeV1} (begins : Begins item result)
    (proposalId : JsString) : Marked [item] result.operational proposalId := by
  rcases begins.created with ⟨workspaceId, runId, document, shape, _⟩
  have silent : marksOn proposalId [item] = [] := by simp [marksOn, shape, markOf, about]
  have nothing : result.operational.proposals.get proposalId = none := by
    rw [begins.operational]
    rfl
  exact ⟨by rw [silent, nothing]; rfl, by simp [silent], by simp [nothing]⟩

omit [Engine] in
theorem about_some {proposalId : JsString} {said : Option (JsString × Mark)} {mark : Mark}
    (found : about proposalId said = some mark) : said = some (proposalId, mark) := by
  cases said with
  | none => cases found
  | some item =>
      simp only [about, Option.bind_some] at found
      split at found
      · next same => rw [← same, ← Option.some.inj found]
      · cases found

omit [Engine] in
theorem decision_marked {proposalId : JsString} {decision : RecordedDecision}
    (listed : decision ∈ decisionsOn proposalId events) :
    ⟨.decided decision.state, decision.proposalDigest⟩ ∈ marksOn proposalId events := by
  rcases List.mem_filterMap.mp listed with ⟨item, member, decided⟩
  exact List.mem_filterMap.mpr ⟨item, member, decision_mark decided⟩

omit [Engine] in
theorem marked_recorded {state : RunOperationalState} {proposalId : JsString} {mark : Mark}
    (marked : Marked events state proposalId) (listed : mark ∈ marksOn proposalId events) :
    ∃ record, state.proposals.get proposalId = some record := by
  have last := marked.last
  cases found : state.proposals.get proposalId with
  | some record => exact ⟨record, rfl⟩
  | none =>
      rw [found, Option.map_none, eq_comm, List.getLast?_eq_none_iff] at last
      rw [last] at listed
      cases listed

theorem marked_continue {front : List HashedEventEnvelopeV1} {item : HashedEventEnvelopeV1}
    {before after : ReplayResult} (continues : Continues before item after) {proposalId : JsString}
    (marked : Marked front before.operational proposalId) :
    Marked (front ++ [item]) after.operational proposalId := by
  rcases continues.payload with ⟨payload, read, reduced⟩
  have written := mark_written reduced proposalId
  have told := read_mark read
  dsimp only at written
  rw [told] at written
  rcases written with ⟨known, agree⟩
  have more : marksOn proposalId (front ++ [item]) =
      marksOn proposalId front ++ (about proposalId (markOf item.envelope.payload)).toList := by
    rw [marks_append]
    cases said : about proposalId (markOf item.envelope.payload) <;> simp [marksOn, said]
  have decided : decisionsOn proposalId (front ++ [item]) =
      decisionsOn proposalId front ++ (decisionOn proposalId item.envelope.payload).toList := by
    rw [decisions_append]
    cases taken : decisionOn proposalId item.envelope.payload <;> simp [decisionsOn, taken]
  cases said : about proposalId (markOf item.envelope.payload) with
  | none =>
      -- nothing is said of the proposal, so no decision on it is recorded either
      have silent : decisionOn proposalId item.envelope.payload = none := by
        cases taken : decisionOn proposalId item.envelope.payload with
        | none => rfl
        | some decision => rw [decision_mark taken] at said; cases said
      rw [said, Option.none_or] at known
      rw [said, Option.toList_none, List.append_nil] at more
      rw [silent, Option.toList_none, List.append_nil] at decided
      have kept : ∀ record, after.operational.proposals.get proposalId = some record →
          ∃ old, before.operational.proposals.get proposalId = some old ∧
            ProposalRecord.mark old = ProposalRecord.mark record := by
        intro record found
        rw [found, Option.map_some, eq_comm, Option.map_eq_some_iff] at known
        exact known
      constructor
      · rw [known, more]
        exact marked.last
      · intro mark listed record found
        rcases kept record found with ⟨old, there, same⟩
        rw [more] at listed
        rw [← marked.digest mark listed old there]
        exact (congrArg Mark.proposalDigest same).symm
      · intro decision last record found
        rcases kept record found with ⟨old, there, same⟩
        rw [decided] at last
        have status : old.status = record.status := congrArg Mark.status same
        rw [← status]
        exact marked.decided decision last old there
  | some mark =>
      rw [said, Option.some_or] at known
      rw [said, Option.toList_some] at more
      have own : ∀ record, after.operational.proposals.get proposalId = some record →
          ProposalRecord.mark record = mark := by
        intro record found
        rw [found, Option.map_some, Option.some.injEq] at known
        exact known
      constructor
      · rw [known, more, List.getLast?_concat]
      · intro earlier listed record found
        rw [more, List.mem_append, List.mem_singleton] at listed
        have now : record.proposalDigest = mark.proposalDigest :=
          congrArg Mark.proposalDigest (own record found)
        rcases listed with old | rfl
        · rcases marked_recorded marked old with ⟨known, there⟩
          rw [now, ← agree mark (by rw [said]; rfl) known there]
          exact marked.digest earlier old known there
        · exact now
      · intro decision last record found
        have status : record.status = mark.status := congrArg Mark.status (own record found)
        rw [decided] at last
        cases taken : decisionOn proposalId item.envelope.payload with
        | some newest =>
            rw [taken, Option.toList_some, List.getLast?_concat, Option.some.injEq] at last
            rw [decision_mark taken, Option.some.injEq] at said
            rw [status, ← said, last]
            exact .inl rfl
        | none =>
            rw [taken, Option.toList_none, List.append_nil] at last
            rcases marked_recorded marked (decision_marked (List.mem_of_getLast? last)) with
              ⟨old, there⟩
            rw [status]
            -- a recorded proposal is not submitted again, so a delta has spoken
            rcases mark_kind read (about_some said) with ⟨digest, submission⟩ | delta | ⟨newest, found⟩
            · rcases submission_effect submission reduced with ⟨fresh, _⟩
              rw [there] at fresh
              cases fresh
            · exact .inr delta
            · rw [taken] at found
              cases found

theorem marked (replayed : deterministicReplay events = .ok result) (proposalId : JsString) :
    Marked events result.operational proposalId := by
  refine replay_induction (motive := fun events result =>
    Marked events result.operational proposalId) ?_ ?_ replayed
  · exact fun item result begins => marked_begin begins proposalId
  · exact fun front item before after _ continues marked => marked_continue continues marked

end Histories

end Horseness.ProposalHistory
