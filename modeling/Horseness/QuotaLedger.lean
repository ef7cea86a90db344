import Horseness.CanonicalHistory

/-!
The admission ledger of a workspace. Decisions are recorded twice, in the history of their
proposal and with their quota; both records are the decisions of the chain, grouped.
-/

namespace Horseness.QuotaLedger

open FallibleRuns Records ScriptText ScriptEngine EventPayloads EventChains Replay ReplaySteps
  RecordedRuns CanonicalHistory

section Paths

def AdmissionPath : AdmissionTransitionStateV1 → List AdmissionDecisionStateV1 → Prop
  | _, [] => True
  | before, state :: rest =>
      state ∈ admissionTransitions before ∧ AdmissionPath (.decided state) rest

def endOf (before : AdmissionTransitionStateV1) (path : List AdmissionDecisionStateV1) :
    AdmissionTransitionStateV1 :=
  (path.getLast?.map .decided).getD before

theorem path_concat {before : AdmissionTransitionStateV1} {path : List AdmissionDecisionStateV1}
    {state : AdmissionDecisionStateV1} (walked : AdmissionPath before path)
    (allowed : state ∈ admissionTransitions (endOf before path)) :
    AdmissionPath before (path ++ [state]) := by
  induction path generalizing before with
  | nil => exact ⟨allowed, trivial⟩
  | cons first rest ih =>
      apply And.intro walked.1
      apply ih walked.2
      cases rest with
      | nil => exact allowed
      | cons second later =>
          have same : endOf (.decided first) (second :: later) = endOf before (first :: second :: later) := by
            simp [endOf, List.getLast?_cons]
          rw [same]
          exact allowed

-- Nothing follows an acceptance, so a path has one at its end or none.
theorem path_accepts {before : AdmissionTransitionStateV1} {path : List AdmissionDecisionStateV1}
    (walked : AdmissionPath before path) :
    path.count .accepted = if path.getLast? = some .accepted then 1 else 0 := by
  induction path generalizing before with
  | nil => rfl
  | cons first rest ih =>
      cases rest with
      | nil => cases first <;> rfl
      | cons second later =>
          have going : first ≠ .accepted := by
            rintro rfl
            obtain ⟨_, ⟨next, _⟩⟩ := walked
            cases next
          rw [List.count_cons_of_ne going, ih walked.2, List.getLast?_cons_cons]

end Paths

section Decisions

def decisionOf : DomainEventPayloadV1 → Option AdmissionRecord
  | .workspace (.workspaceAdmissionRecordedV1 _ proposalDigest decisionEventId state quotaId
      quotaDigest consumed) =>
      some ⟨proposalDigest, decisionEventId, state, quotaId, quotaDigest, consumed⟩
  | _ => none

def decisions (events : List HashedEventEnvelopeV1) : List AdmissionRecord :=
  events.filterMap fun item => decisionOf item.envelope.payload

def historyOf (state : WorkspaceState) (proposalDigest : JsString) :
    List WorkspaceAdmissionDecisionV1 :=
  ((state.admissions.get proposalDigest).map WorkspaceAdmissionProjectionV1.history).getD []

def observedBy (state : WorkspaceState) (quotaId : JsString) : List JsString :=
  ((state.quotas.get quotaId).map WorkspaceQuotaProjectionV1.observedDecisionEventIds).getD []

def consumedBy (state : WorkspaceState) (quotaId : JsString) : List JsString :=
  ((state.quotas.get quotaId).map WorkspaceQuotaProjectionV1.consumedDecisionEventIds).getD []

def pathOf (admission : WorkspaceAdmissionProjectionV1) : List AdmissionDecisionStateV1 :=
  admission.history.map WorkspaceAdmissionDecisionV1.state

/-- Both records hold the decisions, grouped, and every history is a path. -/
structure Ledgered (decided : List AdmissionRecord) (state : WorkspaceState) : Prop where
  histories : ∀ proposalDigest, historyOf state proposalDigest =
    (decided.filter fun decision => decision.proposalDigest = proposalDigest).map
      AdmissionRecord.decision
  observed : ∀ quotaId, observedBy state quotaId =
    (decided.filter fun decision => decision.quotaId = quotaId).map AdmissionRecord.decisionEventId
  consumed : ∀ quotaId, consumedBy state quotaId =
    (decided.filter fun decision => decision.quotaId = quotaId ∧ decision.state = .accepted).map
      AdmissionRecord.decisionEventId
  apart : (decided.map AdmissionRecord.decisionEventId).Nodup
  paths : ∀ proposalDigest admission, state.admissions.get proposalDigest = some admission →
    AdmissionPath .submitted (pathOf admission) ∧
      (pathOf admission).getLast? = some admission.state

end Decisions

section Steps

variable {state after : WorkspaceState} {event : WorkspaceOperationalEvent}
  {admission : AdmissionRecord} {decided : List AdmissionRecord}

theorem continue_same {current : WorkspaceState}
    (continued : continueWorkspace (some state) event = .ok current) : current = state := by
  simp only [continueWorkspace, bind_ok_iff, required_ok_iff, ensure_ok_iff, pure_ok_iff]
    at continued
  obtain ⟨_, found, _, _, _, _, rfl⟩ := continued
  exact (Option.some.inj found).symm

/-- What an event does to the two records. -/
inductive LedgerEffect (state after : WorkspaceState) : WorkspaceOperationalPayload → Prop where
  | policy (activePolicyDigest : JsString) (admissions : after.admissions = state.admissions)
      (quotas : after.quotas = state.quotas) :
      LedgerEffect state after (.policyReferenceChangedV1 activePolicyDigest)
  | decided (admission : AdmissionRecord) (before : AdmissionTransitionStateV1)
      (consistent : admission.state = .accepted ↔ admission.consumed = .yes)
      (fresh : ∀ item ∈ state.admissions.values, ∀ decision ∈ item.history,
        decision.decisionEventId ≠ admission.decisionEventId)
      (prior : before = ((state.admissions.get admission.proposalDigest).map fun found =>
        AdmissionTransitionStateV1.decided found.state).getD .submitted)
      (allowed : admission.state ∈ admissionTransitions before)
      (admissions : after.admissions = state.admissions.set admission.proposalDigest
        (recordDecision state.admissions admission))
      (quotas : after.quotas = state.quotas.set admission.quotaId
        (recordObservation state.quotas admission)) :
      LedgerEffect state after (.workspaceAdmissionRecordedV1 admission)

theorem prior_read {admissions : Record JsString WorkspaceAdmissionProjectionV1}
    {before : AdmissionTransitionStateV1} (read : priorDecision admissions admission = .ok before) :
    before = ((admissions.get admission.proposalDigest).map fun found =>
      AdmissionTransitionStateV1.decided found.state).getD .submitted := by
  unfold priorDecision at read
  split at read
  · next missing =>
      rw [read_none missing]
      exact (Except.ok.inj read).symm
  · next prior found =>
      simp only [bind_ok_iff, required_ok_iff, ensure_ok_iff, pure_ok_iff] at read
      obtain ⟨known, rfl, _, _, rfl⟩ := read
      rw [read_some found]
      rfl

theorem ledger_effect (reduced : reduceWorkspaceState (some state) event = .ok after) :
    LedgerEffect state after event.payload := by
  unfold reduceWorkspaceState at reduced
  cases kind : event.payload with
  | workspaceCreatedV1 =>
      simp only [kind, bind_ok_iff, ensure_ok_iff, Option.isNone_some, Bool.false_eq_true, false_and,
        exists_const] at reduced
  | policyReferenceChangedV1 activePolicyDigest =>
      simp only [kind, bind_ok_iff, pure_ok_iff] at reduced
      obtain ⟨current, continued, rfl⟩ := reduced
      obtain rfl := continue_same continued
      exact .policy activePolicyDigest rfl rfl
  | workspaceAdmissionRecordedV1 admission =>
      simp only [kind, bind_ok_iff, ensure_ok_iff, pure_ok_iff, validateAdmissionTransition]
        at reduced
      obtain ⟨current, continued, _, consistent, _, fresh, before, read, _, allowed, _, _, rfl⟩ :=
        reduced
      obtain rfl := continue_same continued
      exact .decided admission before consistent fresh (prior_read read) allowed rfl rfl

theorem ledger_starts (reduced : reduceWorkspaceState none event = .ok after) :
    (∀ admission, event.payload ≠ .workspaceAdmissionRecordedV1 admission) ∧
      after.admissions = ∅ ∧ after.quotas = ∅ := by
  unfold reduceWorkspaceState at reduced
  cases kind : event.payload with
  | workspaceCreatedV1 =>
      simp only [kind, bind_ok_iff, pure_ok_iff] at reduced
      obtain ⟨_, _, rfl⟩ := reduced
      exact ⟨by simp, rfl, rfl⟩
  | policyReferenceChangedV1 => simp [kind, continueWorkspace, bind_ok_iff] at reduced
  | workspaceAdmissionRecordedV1 => simp [kind, continueWorkspace, bind_ok_iff] at reduced

theorem ledgered_empty (admissions : state.admissions = ∅) (quotas : state.quotas = ∅) :
    Ledgered [] state := by
  constructor
  · simp [historyOf, admissions]
  · simp [observedBy, quotas]
  · simp [consumedBy, quotas]
  · exact List.nodup_nil
  · simp [admissions]

theorem decision_fresh (ledger : Ledgered decided state)
    (fresh : ∀ item ∈ state.admissions.values, ∀ decision ∈ item.history,
      decision.decisionEventId ≠ admission.decisionEventId) :
    admission.decisionEventId ∉ decided.map AdmissionRecord.decisionEventId := by
  intro member
  obtain ⟨earlier, inside, same⟩ := List.mem_map.mp member
  have listed : earlier.decision ∈ historyOf state earlier.proposalDigest := by
    rw [ledger.histories]
    exact List.mem_map_of_mem (List.mem_filter.mpr ⟨inside, by simp⟩)
  unfold historyOf at listed
  cases found : state.admissions.get earlier.proposalDigest with
  | none => simp [found] at listed
  | some item =>
      rw [found] at listed
      exact fresh item ((Record.mem_values_iff _ _).mpr ⟨_, found⟩) earlier.decision listed same

theorem ledgered_decided (ledger : Ledgered decided state) {before : AdmissionTransitionStateV1}
    (fresh : ∀ item ∈ state.admissions.values, ∀ decision ∈ item.history,
      decision.decisionEventId ≠ admission.decisionEventId)
    (consistent : admission.state = .accepted ↔ admission.consumed = .yes)
    (prior : before = ((state.admissions.get admission.proposalDigest).map fun found =>
      AdmissionTransitionStateV1.decided found.state).getD .submitted)
    (allowed : admission.state ∈ admissionTransitions before)
    (admissions : after.admissions = state.admissions.set admission.proposalDigest
      (recordDecision state.admissions admission))
    (quotas : after.quotas = state.quotas.set admission.quotaId
      (recordObservation state.quotas admission)) :
    Ledgered (decided ++ [admission]) after := by
  constructor
  · intro proposalDigest
    have earlier := ledger.histories proposalDigest
    unfold historyOf at earlier ⊢
    rw [admissions, Record.get_set]
    by_cases same : admission.proposalDigest = proposalDigest
    · subst same
      simp [recordDecision, earlier, List.filter_append]
    · simp [same, earlier, List.filter_append]
  · intro quotaId
    have earlier := ledger.observed quotaId
    unfold observedBy at earlier ⊢
    rw [quotas, Record.get_set]
    by_cases same : admission.quotaId = quotaId
    · subst same
      simp [recordObservation, earlier, List.filter_append]
    · simp [same, earlier, List.filter_append]
  · intro quotaId
    have earlier := ledger.consumed quotaId
    unfold consumedBy at earlier ⊢
    rw [quotas, Record.get_set]
    by_cases same : admission.quotaId = quotaId
    · subst same
      by_cases accepted : admission.state = .accepted
      · have yes := consistent.mp accepted
        simp [recordObservation, earlier, List.filter_append, accepted, yes]
      · have no : admission.consumed ≠ .yes := fun yes => accepted (consistent.mpr yes)
        simp [recordObservation, earlier, List.filter_append, accepted, no]
    · simp [same, earlier, List.filter_append]
  · rw [List.map_append]
    simpa using ledger.apart.concat (decision_fresh ledger fresh)
  · intro proposalDigest found there
    rw [admissions, Record.get_set] at there
    by_cases same : admission.proposalDigest = proposalDigest
    · subst same
      obtain rfl : recordDecision state.admissions admission = found := by simpa using there
      cases old : state.admissions.get admission.proposalDigest with
      | none =>
          rw [old] at prior
          subst prior
          simp only [pathOf, recordDecision, old]
          exact ⟨⟨allowed, trivial⟩, rfl⟩
      | some item =>
          obtain ⟨walked, ended⟩ := ledger.paths _ item old
          have here : endOf .submitted (pathOf item) = before := by
            rw [prior, old, endOf, ended]
            rfl
          have longer : pathOf (recordDecision state.admissions admission) =
              pathOf item ++ [admission.state] := by
            simp [pathOf, recordDecision, old, AdmissionRecord.decision]
          rw [longer]
          exact ⟨path_concat walked (here ▸ allowed), by simp [recordDecision]⟩
    · rw [if_neg same] at there
      exact ledger.paths proposalDigest found there

end Steps

section Chains

variable {events : List HashedEventEnvelopeV1} {state : WorkspaceState}

def decisionIds (events : List HashedEventEnvelopeV1) : List JsString :=
  (decisions events).map AdmissionRecord.decisionEventId

def observedIds (state : WorkspaceState) : List JsString :=
  state.quotas.values.flatMap WorkspaceQuotaProjectionV1.observedDecisionEventIds

def consumedIds (state : WorkspaceState) : List JsString :=
  state.quotas.values.flatMap WorkspaceQuotaProjectionV1.consumedDecisionEventIds

def recordedIds (state : WorkspaceState) : List JsString :=
  state.admissions.values.flatMap fun admission =>
    admission.history.map WorkspaceAdmissionDecisionV1.decisionEventId

theorem read_decision {given : DomainEventPayloadV1} {payload : WorkspaceOperationalPayload}
    (read : workspacePayload given = .ok payload) :
    (∃ admission, decisionOf given = some admission ∧
      payload = .workspaceAdmissionRecordedV1 admission) ∨
    (decisionOf given = none ∧ ∀ admission, payload ≠ .workspaceAdmissionRecordedV1 admission) := by
  cases given with
  | run event => cases read
  | workspace event =>
      cases event <;> simp only [workspacePayload, bind_ok_iff, pure_ok_iff] at read <;>
        obtain ⟨_, _, rfl⟩ := read
      case workspaceAdmissionRecordedV1 => exact Or.inl ⟨_, rfl, rfl⟩
      all_goals exact Or.inr ⟨rfl, by simp⟩

theorem admitted_key (ledger : Ledgered (decisions events) state) {decision : AdmissionRecord}
    (inside : decision ∈ decisions events) :
    decision.proposalDigest ∈ state.admissions.keys ∧ decision.quotaId ∈ state.quotas.keys := by
  constructor
  · have listed : decision.decision ∈ historyOf state decision.proposalDigest := by
      rw [ledger.histories]
      exact List.mem_map_of_mem (List.mem_filter.mpr ⟨inside, by simp⟩)
    cases found : state.admissions.get decision.proposalDigest with
    | none => simp [historyOf, found] at listed
    | some item => exact (Record.mem_keys_iff _ _).mpr ⟨item, found⟩
  · have listed : decision.decisionEventId ∈ observedBy state decision.quotaId := by
      rw [ledger.observed]
      exact List.mem_map_of_mem (List.mem_filter.mpr ⟨inside, by simp⟩)
    cases found : state.quotas.get decision.quotaId with
    | none => simp [observedBy, found] at listed
    | some item => exact (Record.mem_keys_iff _ _).mpr ⟨item, found⟩

theorem observed_perm (ledger : Ledgered (decisions events) state) :
    (observedIds state).Perm (decisionIds events) := by
  apply Record.values_perm state.quotas _ AdmissionRecord.quotaId
  · intro quotaId quota found
    have observed := ledger.observed quotaId
    rwa [observedBy, found] at observed
  · exact fun decision inside => (admitted_key ledger inside).2

theorem recorded_perm (ledger : Ledgered (decisions events) state) :
    (recordedIds state).Perm (decisionIds events) := by
  apply Record.values_perm state.admissions _ AdmissionRecord.proposalDigest
  · intro proposalDigest admission found
    have history := ledger.histories proposalDigest
    rw [historyOf, found] at history
    rw [show admission.history = _ from history, List.map_map]
    rfl
  · exact fun decision inside => (admitted_key ledger inside).1

theorem consumed_iff (ledger : Ledgered (decisions events) state) {decision : AdmissionRecord}
    (inside : decision ∈ decisions events) :
    decision.decisionEventId ∈ consumedIds state ↔ decision.state = .accepted := by
  simp only [consumedIds, List.mem_flatMap, Record.mem_values_iff]
  constructor
  · rintro ⟨quota, ⟨quotaId, found⟩, member⟩
    have consumed := ledger.consumed quotaId
    rw [consumedBy, found] at consumed
    rw [show quota.consumedDecisionEventIds = _ from consumed] at member
    obtain ⟨other, chosen, same⟩ := List.mem_map.mp member
    obtain ⟨among, bound⟩ := List.mem_filter.mp chosen
    -- event ids are all different, so the consumed decision is this one
    obtain rfl := List.inj_on_of_nodup_map ledger.apart among inside same
    exact (of_decide_eq_true bound).2
  · intro accepted
    obtain ⟨quota, found⟩ := (Record.mem_keys_iff _ _).mp (admitted_key ledger inside).2
    refine ⟨quota, ⟨_, found⟩, ?_⟩
    have consumed := ledger.consumed decision.quotaId
    rw [consumedBy, found] at consumed
    rw [show quota.consumedDecisionEventIds = _ from consumed]
    exact List.mem_map_of_mem (List.mem_filter.mpr ⟨inside, by simp [accepted]⟩)

-- A proposal contributes one consumed decision when it is accepted, and none otherwise.
theorem contributed (ledger : Ledgered (decisions events) state) {proposalDigest : JsString}
    {admission : WorkspaceAdmissionProjectionV1}
    (found : state.admissions.get proposalDigest = some admission) :
    (admission.history.filter fun decision => decision.decisionEventId ∈ consumedIds state).length =
      if admission.state = .accepted then 1 else 0 := by
  obtain ⟨walked, ended⟩ := ledger.paths proposalDigest admission found
  have accepting : (admission.history.filter fun decision =>
      decision.decisionEventId ∈ consumedIds state) =
      admission.history.filter fun decision => decision.state = .accepted := by
    apply List.filter_congr
    intro decision member
    have history := ledger.histories proposalDigest
    rw [historyOf, found] at history
    rw [show admission.history = _ from history] at member
    obtain ⟨recorded, chosen, rfl⟩ := List.mem_map.mp member
    exact decide_eq_decide.mpr (consumed_iff ledger (List.mem_filter.mp chosen).1)
  have counted : (admission.history.filter fun decision => decision.state = .accepted).length =
      (pathOf admission).count .accepted := by
    rw [pathOf, List.count_eq_countP, List.countP_map, List.countP_eq_length_filter]
    congr 1
  rw [accepting, counted, path_accepts walked, ended]
  simp

def LedgerSoFar (events : List HashedEventEnvelopeV1) : Option WorkspaceState → Prop
  | none => decisions events = []
  | some state => Ledgered (decisions events) state

theorem ledger_continues {front : List HashedEventEnvelopeV1} {item : HashedEventEnvelopeV1}
    {before after : Option WorkspaceState} (ledger : LedgerSoFar front before)
    (replayed : replayWorkspaceEvent before item = .ok after) :
    LedgerSoFar (front ++ [item]) after := by
  simp only [replayWorkspaceEvent, bind_ok_iff, pure_ok_iff] at replayed
  obtain ⟨_, _, _, _, _, _, payload, read, next, reduced, rfl⟩ := replayed
  have more : decisions (front ++ [item]) =
      decisions front ++ (decisionOf item.envelope.payload).toList := by
    cases given : decisionOf item.envelope.payload <;> simp [decisions, given]
  rw [LedgerSoFar, more]
  cases before with
  | none =>
      obtain ⟨other, admissions, quotas⟩ := ledger_starts reduced
      have start : decisions front = [] := ledger
      rcases read_decision read with ⟨admission, _, decides⟩ | ⟨noDecision, _⟩
      · exact absurd decides (other admission)
      · rw [start, noDecision]
        exact ledgered_empty admissions quotas
  | some state =>
      have ledger : Ledgered (decisions front) state := ledger
      have effect := ledger_effect reduced
      rcases read_decision read with ⟨admission, given, rfl⟩ | ⟨noDecision, other⟩
      · rw [given]
        cases effect with
        | decided _ before consistent fresh prior allowed admissions quotas =>
            exact ledgered_decided ledger fresh consistent prior allowed admissions quotas
      · rw [noDecision, Option.toList_none, List.append_nil]
        cases effect with
        | decided admission => exact absurd rfl (other admission)
        | policy _ admissions quotas =>
            obtain ⟨histories, observed, consumed, apart, paths⟩ := ledger
            constructor
            · simpa [historyOf, admissions] using histories
            · simpa [observedBy, quotas] using observed
            · simpa [consumedBy, quotas] using consumed
            · exact apart
            · simpa [admissions] using paths

variable [Engine]

theorem workspace_ledgered (replayed : deterministicWorkspaceReplay events = .ok state) :
    Ledgered (decisions events) state := by
  simp only [deterministicWorkspaceReplay, bind_ok_iff, required_ok_iff] at replayed
  obtain ⟨_, _, _, _, _, _, final, folded, rfl⟩ := replayed
  suffices soFar : ∀ events final, events.foldlM replayWorkspaceEvent none = .ok final →
      LedgerSoFar events final from soFar events _ folded
  intro events
  induction events using List.reverseRecOn with
  | nil =>
      intro final folded
      rw [List.foldlM_nil, pure_ok_iff] at folded
      subst folded
      rfl
  | append_singleton front item ih =>
      intro final folded
      obtain ⟨before, folded, stepped⟩ := (foldlM_concat_ok_iff _ _ _ _ _).mp folded
      exact ledger_continues (ih before folded) stepped

/-- The accounts of a workspace, read off its chain. -/
structure QuotaAccounts (events : List HashedEventEnvelopeV1) (state : WorkspaceState) : Prop where
  observedOnce : ∀ id ∈ decisionIds events, (observedIds state).count id = 1
  recordedOnce : ∀ id ∈ decisionIds events, (recordedIds state).count id = 1
  known : ∀ id, id ∈ observedIds state ∨ id ∈ recordedIds state → id ∈ decisionIds events
  consumed : ∀ quotaId quota, state.quotas.get quotaId = some quota →
    quota.consumedDecisionEventIds =
      ((decisions events).filter fun decision =>
        decision.quotaId = quotaId ∧ decision.state = .accepted).map
        AdmissionRecord.decisionEventId
  contributes : ∀ proposalDigest admission,
    state.admissions.get proposalDigest = some admission →
    (admission.history.filter fun decision =>
      decision.decisionEventId ∈ consumedIds state).length =
      if admission.state = .accepted then 1 else 0
  path : ∀ proposalDigest admission, state.admissions.get proposalDigest = some admission →
    AdmissionPath .submitted (pathOf admission) ∧
      (pathOf admission).getLast? = some admission.state

theorem quota_accounts (replayed : deterministicWorkspaceReplay events = .ok state) :
    QuotaAccounts events state := by
  have ledger := workspace_ledgered replayed
  have observed := observed_perm ledger
  have recorded := recorded_perm ledger
  constructor
  · intro id member
    rw [observed.count_eq]
    exact List.count_eq_one_of_mem ledger.apart member
  · intro id member
    rw [recorded.count_eq]
    exact List.count_eq_one_of_mem ledger.apart member
  · exact fun id member => member.elim observed.mem_iff.mp recorded.mem_iff.mp
  · intro quotaId quota found
    have consumed := ledger.consumed quotaId
    rw [consumedBy, found] at consumed
    exact consumed
  · exact fun proposalDigest admission found => contributed ledger found
  · exact ledger.paths

end Chains

section Recorded

def ledgerDigests : List (Nat × JsString) :=
  [(5255095637123649113, js "592749a8f202ab1ab0c69caa04dc979610429b2010482bf5e367e8c3709d3cf1"),
    (7202208118882661983, js "b48923debafe354688d0654c27afa617b6fb1d8d19a0e73b795e2f79abf3aacb"),
    (5918039202959084574, js "dc368012f2845787f91b8664fd3369c8fcb9ba9e4362f4726eefbe5cab70ee03"),
    (10488734434443426897, js "3d82438a620d98086acb92628c987e88ed45944f1b4803b2ecd41c66f408fde8"),
    (16292146602678263522, js "9015ef2960676760684a1e7cc27beb81071889d7668f7c7ca36a9c79536c7f2a"),
    (7081489006821953521, js "8db77547073339c141ae07666194a8207e7b19746e572820f6a48337963b6cc2")]

@[reducible] def ledgerEngine : Engine :=
  { recordedEngine with
    sha256Hex := fun text => (ledgerDigests.lookup (fingerprint text)).getD (122 :: text) }

attribute [local instance] ledgerEngine

def recordedDecision (id : String) (state : AdmissionDecisionStateV1) (consumed : Consumption) :
    DomainEventPayloadV1 :=
  .workspace (.workspaceAdmissionRecordedV1 (js "w") (js "q") (js id) state (js "n") (js "z") consumed)

def ledgerChain : List HashedEventEnvelopeV1 :=
  sealedChain .workspace
    [.workspace (.workspaceCreatedV1 (js "w") (js "u") (js "g") (js "m") (js "d")),
      recordedDecision "d1" .quarantined .no, recordedDecision "d2" .accepted .yes]

theorem ledger_chain_accounts : ∃ state, deterministicWorkspaceReplay ledgerChain = .ok state ∧
    consumedIds state = [js "d2"] ∧ QuotaAccounts ledgerChain state := by
  have accepted : endsIn (fun state => decide (consumedIds state = [js "d2"]))
      (deterministicWorkspaceReplay ledgerChain) = true := by
    decide +kernel
  obtain ⟨state, ran, consumed⟩ := ends_in_exists accepted
  exact ⟨state, ran, of_decide_eq_true consumed, quota_accounts ran⟩

end Recorded

end Horseness.QuotaLedger
