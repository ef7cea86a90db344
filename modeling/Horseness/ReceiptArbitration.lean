import Horseness.Recovery
import Horseness.Resolvable

/-!
Two arbitrations of one attempt. A projection decides receipt by receipt and keeps its first
answer; `resolveTask` decides over the states of all generations at once. The projection goes by
the outcomes that receipts brought, so the two agree on the generations as it reports them. On a
cancellation it also names the generation that was cancelled first, where `resolveTask` names
none.
-/

namespace Horseness.ReceiptArbitration

open FallibleRuns Records ScriptText PlainObjects ScriptEngine Canonical Cursors Tasks
  AttemptReceipts ReceiptProjection BoundAttempts Resolvable RecordedRuns LeaseFences
  DispatchRecords Recovery AttemptSteps

section Batch

variable {input : ResolveInput} {result : Option TaskResolutionV1}

theorem successes_iff (item : GenerationOutcomeV1) :
    item ∈ ((((input.generations.insertionSort
      (fun left right => left.generation ≤ right.generation)).filterMap terminalOutcome).filter
        (fun item => item.outcome = .succeeded)).insertionSort earlier) ↔
      (∃ a ∈ input.generations, terminalOutcome a = some item) ∧ item.outcome = .succeeded := by
  simp only [List.mem_insertionSort, List.mem_filter, List.mem_filterMap, decide_eq_true_eq]

/-- The answers of `resolveTask`: a success where there is one, nothing while a generation is
open, else what the request says. -/
theorem resolve_answer (answered : resolveTask input = .ok result) :
    (∃ a ∈ input.generations, ∃ item t, terminalOutcome a = some item ∧
      item.outcome = .succeeded ∧ result = some t ∧ t.resolution = .succeeded ∧
      t.winningGeneration = some item.generation) ∨
    ((∀ a ∈ input.generations, ∀ item, terminalOutcome a = some item →
        item.outcome ≠ .succeeded) ∧
      ((result = none ∧ ((∃ a ∈ input.generations, isTerminal a.state = false) ∨
          input.retryPermitted = true)) ∨
        ∃ t, result = some t ∧ (∀ a ∈ input.generations, isTerminal a.state = true) ∧
          t.winningGeneration = none ∧
          t.resolution = if input.cancellationRequested then .cancelled else .failed)) := by
  simp only [resolveTask, bind_ok_iff, ensure_ok_iff] at answered
  rcases answered with ⟨_, _, answered⟩
  have choices := @successes_iff input
  split at answered
  next first rest chosen =>
    left
    rw [chosen] at choices
    rcases (choices first).mp List.mem_cons_self with ⟨⟨a, listed, ended⟩, success⟩
    exact ⟨a, listed, first, _, ended, success, (pure_ok_iff _ _).mp answered |>.symm, rfl, rfl⟩
  next chosen =>
    right
    rw [chosen] at choices
    constructor
    · intro a listed item ended success
      exact List.not_mem_nil ((choices item).mpr ⟨⟨a, listed, ended⟩, success⟩)
    · by_cases waiting : ((input.generations.insertionSort
          (fun left right => left.generation ≤ right.generation)).any
            (fun attempt => !isTerminal attempt.state) || input.retryPermitted) = true
      · left
        rw [if_pos waiting] at answered
        refine ⟨((pure_ok_iff _ _).mp answered).symm, ?_⟩
        rcases Bool.or_eq_true_iff.mp waiting with unresolved | permitted
        · rcases List.any_eq_true.mp unresolved with ⟨a, listed, running⟩
          exact Or.inl ⟨a, (List.mem_insertionSort _).mp listed, by simpa using running⟩
        · exact Or.inr permitted
      · right
        rw [if_neg waiting] at answered
        have ended : ∀ a ∈ input.generations, isTerminal a.state = true := by
          intro a listed
          by_contra running
          apply waiting
          apply Bool.or_eq_true_iff.mpr
          left
          exact List.any_eq_true.mpr ⟨a, (List.mem_insertionSort _).mpr listed, by simpa using running⟩
        by_cases cancelled : input.cancellationRequested = true
        · rw [if_pos cancelled] at answered
          exact ⟨_, ((pure_ok_iff _ _).mp answered).symm, ended, rfl, by simp [cancelled]⟩
        · rw [if_neg cancelled] at answered
          exact ⟨_, ((pure_ok_iff _ _).mp answered).symm, ended, rfl, by simp [cancelled]⟩

end Batch

section Incremental

/-- The first outcome of a kind, as the projection orders its outcomes. -/
def FirstOutcome (state : AttemptReceiptProjectionV1) (outcome : AttemptTerminalState)
    (first : ReceiptGenerationOutcomeV1) : Prop :=
  first ∈ state.outcomes.values ∧ first.outcome = outcome ∧
    ∀ other ∈ state.outcomes.values, other.outcome = outcome → outcomeBefore first other

theorem outcome_total (left right : ReceiptGenerationOutcomeV1) :
    outcomeBefore left right ∨ outcomeBefore right left := by
  unfold outcomeBefore
  omega

theorem outcome_trans {left middle right : ReceiptGenerationOutcomeV1}
    (first : outcomeBefore left middle) (second : outcomeBefore middle right) :
    outcomeBefore left right := by
  unfold outcomeBefore at *
  omega

instance : Std.Total outcomeBefore := ⟨outcome_total⟩

instance : IsTrans ReceiptGenerationOutcomeV1 outcomeBefore := ⟨fun _ _ _ => outcome_trans⟩

variable {state : AttemptReceiptProjectionV1} {outcome : AttemptTerminalState}

theorem first_outcome_some {winner : Nat} (chosen : firstOutcome state outcome = some winner) :
    ∃ first, FirstOutcome state outcome first ∧ first.generation = winner := by
  rw [firstOutcome, Option.map_eq_some_iff] at chosen
  rcases chosen with ⟨first, head, named⟩
  rcases List.head?_eq_some_iff.mp head with ⟨rest, sorted⟩
  have order := List.pairwise_insertionSort outcomeBefore
    (state.outcomes.values.filter fun item => item.outcome = outcome)
  have members : ∀ item, item ∈ first :: rest ↔
      item ∈ state.outcomes.values ∧ item.outcome = outcome := by
    intro item
    rw [← sorted, List.mem_insertionSort, List.mem_filter, decide_eq_true_eq]
  rw [sorted, List.pairwise_cons] at order
  have here := (members first).mp List.mem_cons_self
  refine ⟨first, ⟨here.1, here.2, fun other listed same => ?_⟩, named⟩
  rcases List.mem_cons.mp ((members other).mpr ⟨listed, same⟩) with rfl | later
  · exact (outcome_total other other).elim id id
  · exact order.1 other later

theorem first_outcome_none (missing : firstOutcome state outcome = none) :
    ∀ item ∈ state.outcomes.values, item.outcome ≠ outcome := by
  intro item listed same
  rw [firstOutcome, Option.map_eq_none_iff, List.head?_eq_none_iff] at missing
  have member : item ∈ (state.outcomes.values.filter
      fun item => item.outcome = outcome).insertionSort outcomeBefore := by
    rw [List.mem_insertionSort, List.mem_filter, decide_eq_true_eq]
    exact ⟨listed, same⟩
  rw [missing] at member
  exact List.not_mem_nil member

end Incremental

section Reports

/-- The state of a generation as its projection reports it: the outcome of its receipt. One that
was terminal when it was registered has no receipt here and counts as failed. -/
def reportedState (state : AttemptReceiptProjectionV1) (generation : AttemptGenerationStateV1) :
    DispatchState :=
  match state.outcomes.get generation.generation with
  | some item => .terminal item.outcome
  | none => if isTerminal generation.state then .terminal .failed else generation.state

def reports (state : AttemptReceiptProjectionV1) : List AttemptGenerationStateV1 :=
  state.generations.values.map fun generation =>
    { generation with state := reportedState state generation }

/-- `resolveTask` where no retry is permitted, and cancelled exactly where a generation is. -/
def arbitration (taskId retryPolicyDigest : JsString) (observationCursor : CompositeCursorV1)
    (generations : List AttemptGenerationStateV1) : Except DomainError (Option TaskResolutionV1) :=
  resolveTask {
    taskId := taskId
    generations := generations
    retryPolicyDigest := retryPolicyDigest
    retryPermitted := false
    cancellationRequested := generations.any fun item => item.state = .terminal .cancelled
    observationCursor := observationCursor }

/-- Both arbitrations of what a projection reports: one answer, one winner of a success, and on a
cancellation the generation that was cancelled first. -/
structure Agreed (state : AttemptReceiptProjectionV1) (decided : TaskResolvedProjectionV1)
    (t : TaskResolutionV1) : Prop where
  resolution : decided.resolution = t.resolution
  recorded : state.winningGeneration = decided.winningGeneration
  winner : decided.resolution ≠ .cancelled → decided.winningGeneration = t.winningGeneration
  cancelled : decided.resolution = .cancelled → t.winningGeneration = none ∧
    ∃ first, FirstOutcome state .cancelled first ∧
      decided.winningGeneration = some first.generation

/-- The generations and outcomes of a projection that was begun with `registered`. -/
structure Tallied (registered state : AttemptReceiptProjectionV1) : Prop where
  named : ∀ key generation, state.generations.get key = some generation →
    generation.generation = key ∧ 1 ≤ key
  recorded : ∀ key item, state.outcomes.get key = some item → item.generation = key ∧
    ∃ generation, state.generations.get key = some generation ∧
      generation.terminalEventSequence = some item.terminalEventSequence ∧
      (generation.state = .terminal item.outcome ∨
        ∃ first ∈ registered.generations.get key, isTerminal first.state = true)
  unrecorded : ∀ key generation, state.generations.get key = some generation →
    state.outcomes.get key = none → isTerminal generation.state = true →
      ∃ first ∈ registered.generations.get key, isTerminal first.state = true
  uncancelled : state.explicitCancellationEventSequence = none

/-- The projection has decided as `resolveTask` does on its reports, and has not missed a success. -/
structure Arbitrated (registered state : AttemptReceiptProjectionV1) : Prop
    extends Tallied registered state where
  undecided : state.resolution = none → ∀ key item, state.outcomes.get key = some item →
    item.outcome ≠ .succeeded
  decided : ∀ decided, state.resolution = some decided →
    ∀ taskId retryPolicyDigest observationCursor, ∃ t,
      arbitration taskId retryPolicyDigest observationCursor (reports state) = .ok (some t) ∧
        Agreed state decided t

variable {registered state : AttemptReceiptProjectionV1}

theorem report_member {item : AttemptGenerationStateV1} (listed : item ∈ reports state) :
    ∃ key generation, state.generations.get key = some generation ∧
      item = { generation with state := reportedState state generation } := by
  rcases List.mem_map.mp listed with ⟨generation, member, rfl⟩
  rcases (Record.mem_values_iff _ _).mp member with ⟨key, found⟩
  exact ⟨key, generation, found, rfl⟩

theorem reported_member {key : Nat} {generation : AttemptGenerationStateV1}
    (found : state.generations.get key = some generation) :
    { generation with state := reportedState state generation } ∈ reports state :=
  List.mem_map.mpr ⟨generation, (Record.mem_values_iff _ _).mpr ⟨key, found⟩, rfl⟩

theorem reported_outcome {generation : AttemptGenerationStateV1}
    {item : ReceiptGenerationOutcomeV1}
    (found : state.outcomes.get generation.generation = some item) :
    reportedState state generation = .terminal item.outcome := by
  simp only [reportedState, found]

theorem reported_terminal (generation : AttemptGenerationStateV1)
    (ended : isTerminal generation.state = true) :
    isTerminal (reportedState state generation) = true := by
  unfold reportedState
  cases state.outcomes.get generation.generation with
  | some item => rfl
  | none =>
      simp only [ended]
      rfl

-- A generation is reported as a success or as cancelled for its receipt only.
theorem reported_receipt {generation : AttemptGenerationStateV1} {outcome : AttemptTerminalState}
    (reported : reportedState state generation = .terminal outcome)
    (unfailed : outcome ≠ .failed) :
    ∃ item, state.outcomes.get generation.generation = some item ∧ item.outcome = outcome := by
  unfold reportedState at reported
  cases found : state.outcomes.get generation.generation with
  | some item =>
      rw [found] at reported
      exact ⟨item, rfl, DispatchState.terminal.inj reported⟩
  | none =>
      rw [found] at reported
      by_cases ended : isTerminal generation.state = true
      · simp only [ended, if_true] at reported
        exact absurd (DispatchState.terminal.inj reported).symm unfailed
      · simp only [ended, Bool.false_eq_true, if_false] at reported
        rw [reported] at ended
        exact absurd rfl ended

variable (sound : Tallied registered state)

include sound

theorem reports_valid : ((reports state).map AttemptGenerationStateV1.generation).Nodup ∧
    ∀ item ∈ reports state, 1 ≤ item.generation := by
  constructor
  · have keys : (reports state).map AttemptGenerationStateV1.generation = state.generations.keys := by
      rw [reports, List.map_map, Record.values, Record.keys, List.map_map]
      apply List.map_congr_left
      intro entry member
      exact (sound.named entry.1 entry.2 ((Record.mem_entries_iff _ _ _).mp member)).1
    rw [keys]
    exact Record.keys_nodup _
  · intro item listed
    rcases report_member listed with ⟨key, generation, found, rfl⟩
    have named := sound.named key generation found
    exact named.1 ▸ named.2

theorem arbitration_answers (taskId retryPolicyDigest : JsString)
    (observationCursor : CompositeCursorV1) : ∃ result,
    arbitration taskId retryPolicyDigest observationCursor (reports state) = .ok result :=
  resolve_total (reports_valid sound).1 (reports_valid sound).2

-- A receipt's outcome is what `resolveTask` considers of its generation.
theorem recorded_considered {key : Nat} {item : ReceiptGenerationOutcomeV1}
    (found : state.outcomes.get key = some item) : ∃ a ∈ reports state,
      terminalOutcome a = some ⟨key, item.outcome, item.terminalEventSequence⟩ := by
  rcases sound.recorded key item found with ⟨_, generation, held, sequence, _⟩
  have named := (sound.named key generation held).1
  refine ⟨_, reported_member held, ?_⟩
  have reported : reportedState state generation = .terminal item.outcome :=
    reported_outcome (named.symm ▸ found)
  simp only [terminalOutcome, reported, sequence, named]

omit sound in
theorem considered_recorded {a : AttemptGenerationStateV1} {item : GenerationOutcomeV1}
    (listed : a ∈ reports state) (considered : terminalOutcome a = some item)
    (unfailed : item.outcome ≠ .failed) : ∃ found,
      state.outcomes.get item.generation = some found ∧ found.outcome = item.outcome := by
  rcases report_member listed with ⟨key, generation, _, rfl⟩
  unfold terminalOutcome at considered
  split at considered
  next outcome sequence reported _ =>
    rcases Option.some.inj considered with rfl
    exact reported_receipt reported unfailed
  next => cases considered

-- A generation is cancelled in the reports where a receipt says so.
theorem cancellation_requested_iff :
    ((reports state).any fun item => item.state = .terminal .cancelled) = true ↔
      ∃ item ∈ state.outcomes.values, item.outcome = .cancelled := by
  simp only [List.any_eq_true, decide_eq_true_eq]
  constructor
  · rintro ⟨a, listed, cancelled⟩
    rcases report_member listed with ⟨key, generation, _, rfl⟩
    rcases reported_receipt cancelled (by simp) with ⟨item, found, outcome⟩
    exact ⟨item, (Record.mem_values_iff _ _).mpr ⟨_, found⟩, outcome⟩
  · rintro ⟨item, listed, cancelled⟩
    rcases (Record.mem_values_iff _ _).mp listed with ⟨key, found⟩
    rcases sound.recorded key item found with ⟨_, generation, held, _, _⟩
    have named := (sound.named key generation held).1
    refine ⟨_, reported_member held, ?_⟩
    have reported : reportedState state generation = .terminal item.outcome :=
      reported_outcome (named.symm ▸ found)
    exact reported.trans (congrArg _ cancelled)

-- Where nothing was terminal when it was registered, the reports are the states themselves.
theorem reports_states (opened : ∀ generation ∈ registered.generations.values,
    isTerminal generation.state = false) : reports state = state.generations.values := by
  have absent : ∀ key, ¬ ∃ first ∈ registered.generations.get key,
      isTerminal first.state = true := by
    rintro key ⟨first, found, ended⟩
    have running := opened first ((Record.mem_values_iff _ _).mpr ⟨key, found⟩)
    rw [running] at ended
    cases ended
  have same : ∀ generation ∈ state.generations.values,
      reportedState state generation = generation.state := by
    intro generation listed
    rcases (Record.mem_values_iff _ _).mp listed with ⟨key, found⟩
    have named := (sound.named key generation found).1
    cases outcome : state.outcomes.get key with
    | some item =>
        rcases sound.recorded key item outcome with ⟨_, held, stored, _, ended⟩
        obtain rfl : held = generation := Option.some.inj (stored.symm.trans found)
        rw [reported_outcome (named.symm ▸ outcome)]
        exact (ended.resolve_right (absent key)).symm
    | none =>
        have running : ¬ isTerminal generation.state = true := fun ended =>
          absent key (sound.unrecorded key generation found outcome ended)
        simp only [reportedState, named, outcome, running, Bool.false_eq_true, if_false]
  rw [reports]
  conv_rhs => rw [← List.map_id state.generations.values]
  apply List.map_congr_left
  intro generation listed
  rw [same generation listed]
  rfl

end Reports

section Resolution

variable [Engine] {registered state projected : AttemptReceiptProjectionV1}

theorem resolved_ok {resolution : TaskResolution} {winner : Option Nat} {eventSequence : Nat}
    (known : truthy state.taskId = true)
    (written : resolved state resolution winner eventSequence = .ok projected) :
    ∃ decided : TaskResolvedProjectionV1, decided.resolution = resolution ∧
      decided.winningGeneration = winner ∧
      projected = { state with resolution := some decided, winningGeneration := winner } := by
  unfold resolved at written
  rw [if_neg (by simp [known]), bind_ok_iff] at written
  rcases written with ⟨digest, _, written⟩
  exact ⟨_, rfl, rfl, ((pure_ok_iff _ _).mp written).symm⟩

omit [Engine] in
theorem tallied_resolved (tallied : Tallied registered state)
    (decided : Option TaskResolvedProjectionV1) (winner : Option Nat) : Tallied registered
      { state with resolution := decided, winningGeneration := winner } :=
  ⟨tallied.named, tallied.recorded, tallied.unrecorded, tallied.uncancelled⟩

-- A first resolution is the one of `resolveTask`, if one receipt at most is a success.
theorem resolve_agrees {eventSequence : Nat} (tallied : Tallied registered state)
    (known : truthy state.taskId = true) (waiting : state.resolution = none)
    (single : ∀ key item other found, state.outcomes.get key = some item →
      state.outcomes.get other = some found → item.outcome = .succeeded →
        found.outcome = .succeeded → key = other)
    (accepted : resolve state eventSequence = .ok projected) : Arbitrated registered projected := by
  unfold resolve at accepted
  rw [if_neg (by simp [waiting])] at accepted
  cases success : firstOutcome state .succeeded with
  | some winner =>
      simp only [success] at accepted
      rcases resolved_ok known accepted with ⟨decided, resolution, winning, rfl⟩
      refine ⟨tallied_resolved tallied _ _, (fun missing => nomatch missing), ?_⟩
      rintro _ ⟨⟩ taskId retryPolicyDigest observationCursor
      rcases first_outcome_some success with ⟨first, ⟨listed, succeeded, _⟩, rfl⟩
      rcases (Record.mem_values_iff _ _).mp listed with ⟨key, found⟩
      have named := (tallied.recorded key first found).1
      rcases arbitration_answers tallied taskId retryPolicyDigest observationCursor with
        ⟨result, answered⟩
      rcases resolve_answer answered with
        ⟨a, reported, item, t, considered, outcome, rfl, chosen, won⟩ | ⟨failed, _⟩
      · rcases considered_recorded reported considered (by simp [outcome]) with
          ⟨other, held, same⟩
        have here := single key first item.generation other found held succeeded
          (same.trans outcome)
        refine ⟨t, answered, ⟨resolution.trans chosen.symm, winning.symm, fun _ => ?_, ?_⟩⟩
        · rw [winning, won, named, here]
        · intro cancelled
          rw [resolution] at cancelled
          cases cancelled
      · rcases recorded_considered tallied found with ⟨a, reported, considered⟩
        exact absurd succeeded (failed a reported _ considered)
  | none =>
      have unsuccessful : ∀ key item, state.outcomes.get key = some item →
          item.outcome ≠ .succeeded := fun key item found =>
        first_outcome_none success item ((Record.mem_values_iff _ _).mpr ⟨key, found⟩)
      simp only [success, tallied.uncancelled] at accepted
      by_cases open' : state.generations.entries = [] ∨
          state.generations.values.any (fun item => !isTerminal item.state) ∨
          retryPending state
      · rw [if_pos open'] at accepted
        obtain rfl := Except.ok.inj accepted
        exact ⟨tallied, fun _ => unsuccessful, fun decided found => by rw [waiting] at found; cases found⟩
      · rw [if_neg open'] at accepted
        have ended : ∀ item ∈ reports state, isTerminal item.state = true := by
          intro item reported
          rcases report_member reported with ⟨key, generation, found, rfl⟩
          apply reported_terminal
          by_contra running
          refine open' (Or.inr (Or.inl (List.any_eq_true.mpr ⟨generation, ?_, ?_⟩)))
          · exact (Record.mem_values_iff _ _).mpr ⟨key, found⟩
          · simpa using running
        -- nothing is open and nothing succeeded, so the request decides
        have answer : ∀ taskId retryPolicyDigest observationCursor, ∃ t,
            arbitration taskId retryPolicyDigest observationCursor (reports state) =
              .ok (some t) ∧ t.winningGeneration = none ∧
            t.resolution = if (reports state).any fun item => item.state = .terminal .cancelled
              then .cancelled else .failed := by
          intro taskId retryPolicyDigest observationCursor
          rcases arbitration_answers tallied taskId retryPolicyDigest observationCursor with
            ⟨result, answered⟩
          rcases resolve_answer answered with
            ⟨a, reported, item, _, considered, outcome, _⟩ | ⟨_, ⟨_, running | permitted⟩ | decided⟩
          · rcases considered_recorded reported considered (by simp [outcome]) with
              ⟨other, held, same⟩
            exact absurd (same.trans outcome) (unsuccessful _ other held)
          · rcases running with ⟨a, reported, running⟩
            rw [ended a reported] at running
            cases running
          · cases permitted
          · rcases decided with ⟨t, rfl, _, winner, resolution⟩
            exact ⟨t, answered, winner, resolution⟩
        cases cancelled : firstOutcome state .cancelled with
        | some winner =>
            simp only [cancelled] at accepted
            rcases resolved_ok known accepted with ⟨decided, resolution, winning, rfl⟩
            refine ⟨tallied_resolved tallied _ _, (fun missing => nomatch missing), ?_⟩
            rintro _ ⟨⟩ taskId retryPolicyDigest observationCursor
            rcases first_outcome_some cancelled with ⟨first, chosen, rfl⟩
            rcases answer taskId retryPolicyDigest observationCursor with ⟨t, answered, none', outcome⟩
            rw [if_pos ((cancellation_requested_iff tallied).mpr
              ⟨first, chosen.1, chosen.2.1⟩)] at outcome
            exact ⟨t, answered, ⟨resolution.trans outcome.symm, winning.symm,
              fun other => absurd resolution other, fun _ => ⟨none', first, chosen, winning⟩⟩⟩
        | none =>
            simp only [cancelled] at accepted
            rcases resolved_ok known accepted with ⟨decided, resolution, winning, rfl⟩
            refine ⟨tallied_resolved tallied _ _, (fun missing => nomatch missing), ?_⟩
            rintro _ ⟨⟩ taskId retryPolicyDigest observationCursor
            rcases answer taskId retryPolicyDigest observationCursor with ⟨t, answered, none', outcome⟩
            rw [if_neg] at outcome
            · refine ⟨t, answered, ⟨resolution.trans outcome.symm, winning.symm,
                fun _ => winning.trans none'.symm, fun other => ?_⟩⟩
              rw [resolution] at other
              cases other
            · intro requested
              rcases (cancellation_requested_iff tallied).mp requested with ⟨item, listed, outcome⟩
              exact first_outcome_none cancelled item listed outcome

end Resolution

section Receipts

variable [Engine] {event : VerifiedReceiptEventV1} {authority : VerifiedAttemptAuthorityV1}
  {registered state projected : AttemptReceiptProjectionV1}

theorem verified_task {receipt : AttemptReceiptEnvelopeV1}
    (verified : verifyAttemptReceipt receipt = .ok ()) : receipt.taskId ≠ [] := by
  simp only [verifyAttemptReceipt, bind_ok_iff] at verified
  rcases verified with ⟨_, _, _, _, _, valid, _⟩
  simp only [validateAttemptReceiptCore, check_ok_iff, List.forM_eq_forM, forM_ok_iff] at valid
  have named := valid.1 receipt.taskId (by simp [AttemptReceiptCoreV1.requiredTexts])
  simpa [receiptText, nonEmpty] using named

/-- A receipt is noted as a finding, or settles its generation and may resolve the task. -/
inductive ReceiptEffect (event : VerifiedReceiptEventV1) (state projected : AttemptReceiptProjectionV1) :
    Prop where
  | noted (codes : List JsString) (same : projected = { state with findings := codes })
  | found (generation : AttemptGenerationStateV1) (code : FindingCode) (codes : List JsString)
      (waiting : state.resolution = none)
      (fresh : state.outcomes.get event.receipt.generation = none)
      (stored : state.generations.get event.receipt.generation = some generation)
      (same : projected = { state with
        generations := state.generations.set (finding generation code).generation
          (finding generation code)
        findings := codes })
  | settled (generation reduced : AttemptGenerationStateV1) (item : ReceiptGenerationOutcomeV1)
      (waiting : state.resolution = none)
      (fresh : state.outcomes.get event.receipt.generation = none)
      (stored : state.generations.get event.receipt.generation = some generation)
      (identity : reduced.generation = generation.generation)
      (ended : isTerminal generation.state = true ∨
        reduced.state = .terminal event.receipt.outcome)
      (sequence : reduced.terminalEventSequence = some event.eventSequence)
      (outcome : item.outcome = event.receipt.outcome)
      (recorded : item.generation = reduced.generation ∧
        item.terminalEventSequence = event.eventSequence)
      (resolves : resolve { state with
        taskId := some event.receipt.taskId
        generations := state.generations.set reduced.generation reduced
        outcomes := state.outcomes.set reduced.generation item } event.eventSequence = .ok projected)

theorem receipt_noted (accepted : projectAuthenticatedReceipt state event authority = .ok projected)
    (late : state.outcomes.get event.receipt.generation ≠ none ∨ state.resolution ≠ none) :
    ∃ codes, projected = { state with findings := codes } := by
  rw [projectAuthenticatedReceipt, bind_ok_iff] at accepted
  rcases accepted with ⟨_, _, accepted⟩
  cases prior : state.outcomes.get event.receipt.generation with
  | some item =>
      simp only [prior] at accepted
      exact ⟨_, ((pure_ok_iff _ _).mp accepted).symm⟩
  | none =>
      have decided := Option.isSome_iff_ne_none.mpr (late.resolve_left (not_not.mpr prior))
      simp only [prior] at accepted
      rw [if_pos decided] at accepted
      exact ⟨_, ((pure_ok_iff _ _).mp accepted).symm⟩

theorem receipt_reduced (accepted : projectAuthenticatedReceipt state event authority = .ok projected)
    (fresh : state.outcomes.get event.receipt.generation = none) (waiting : state.resolution = none) :
    ∃ held reduced, state.generations.get event.receipt.generation = some held ∧
      reduceDispatch held (.terminalReceipt event.receipt.outcome event.eventSequence
        authority.providerHandle) = .ok reduced ∧
      (((isTerminal reduced.state = false ∨
          reduced.terminalEventSequence ≠ some event.eventSequence) ∧ ∃ codes,
        projected = { state with
          generations := state.generations.set reduced.generation reduced
          findings := codes }) ∨
      (isTerminal reduced.state = true ∧
        reduced.terminalEventSequence = some event.eventSequence ∧ ∃ item,
        item.outcome = event.receipt.outcome ∧ item.generation = reduced.generation ∧
        item.terminalEventSequence = event.eventSequence ∧
        resolve { state with
          taskId := some event.receipt.taskId
          generations := state.generations.set reduced.generation reduced
          outcomes := state.outcomes.set reduced.generation item } event.eventSequence =
            .ok projected)) := by
  rw [projectAuthenticatedReceipt, bind_ok_iff] at accepted
  rcases accepted with ⟨generation, valid, accepted⟩
  simp only [validateAuthority, bind_ok_iff, ensure_ok_iff, required_ok_iff, pure_ok_iff] at valid
  rcases valid with ⟨_, _, _, _, _, _, _, _, held, stored, _, _, _, _, _, _, rfl⟩
  simp only [fresh] at accepted
  rw [if_neg (by simp [waiting]), bind_ok_iff] at accepted
  rcases accepted with ⟨reduced, dispatched, accepted⟩
  rw [map_error_ok_iff] at dispatched
  refine ⟨held, reduced, stored, dispatched, ?_⟩
  split at accepted
  · next skipped => exact .inl ⟨skipped, _, ((pure_ok_iff _ _).mp accepted).symm⟩
  · next taken =>
      simp only [not_or, not_not, Bool.not_eq_false] at taken
      rw [check_ok_iff, ensure_ok_iff] at accepted
      rcases accepted with ⟨task, accepted⟩
      rw [task] at accepted
      exact .inr ⟨taken.1, taken.2, _, rfl, rfl, rfl, accepted⟩

omit [Engine] in
-- What a receipt makes of its generation: a terminal one keeps its state.
theorem receipt_reduces {held reduced : AttemptGenerationStateV1} {outcome : AttemptTerminalState}
    {eventSequence : Nat} {handle : Option JsString}
    (dispatched : reduceDispatch held (.terminalReceipt outcome eventSequence handle) = .ok reduced) :
    (∃ code, reduced = finding held code) ∨
      (isTerminal held.state = false ∧ reduced = { held with
        state := .terminal outcome
        providerHandle := held.providerHandle.or handle
        terminalEventSequence := some eventSequence }) := by
  cases running : isTerminal held.state with
  | true => exact .inl (dispatch_terminal dispatched running)
  | false =>
      have change := (dispatch_receipt dispatched running).2.2
      split at change
      · exact .inl ⟨_, change⟩
      · exact .inr ⟨rfl, change⟩

theorem receipt_effect (accepted : projectAuthenticatedReceipt state event authority = .ok projected) :
    ReceiptEffect event state projected := by
  by_cases late : state.outcomes.get event.receipt.generation ≠ none ∨ state.resolution ≠ none
  · rcases receipt_noted accepted late with ⟨codes, same⟩
    exact .noted codes same
  · simp only [not_or, not_not] at late
    rcases receipt_reduced accepted late.1 late.2 with
      ⟨held, reduced, stored, dispatched, ⟨skipped, codes, same⟩ | ⟨ended, sequence, item, outcome,
        generation, recorded, resolves⟩⟩
    · rcases receipt_reduces dispatched with ⟨code, rfl⟩ | ⟨_, rfl⟩
      · exact .found held code codes late.2 late.1 stored same
      · simp [isTerminal] at skipped
    · refine .settled held reduced item late.2 late.1 stored (receipt_advances dispatched).generation
        ?_ sequence outcome ⟨generation, recorded⟩ resolves
      rcases receipt_reduces dispatched with ⟨code, rfl⟩ | ⟨_, rfl⟩
      · exact .inl (by simpa using ended)
      · exact .inr rfl

omit [Engine] in
theorem arbitrated_noted (sound : Arbitrated registered state) (codes : List JsString) :
    Arbitrated registered { state with findings := codes } where
  named := sound.named
  recorded := sound.recorded
  unrecorded := sound.unrecorded
  uncancelled := sound.uncancelled
  undecided := sound.undecided
  decided decided found taskId retryPolicyDigest observationCursor := by
    rcases sound.decided decided found taskId retryPolicyDigest observationCursor with
      ⟨t, answered, agreed⟩
    exact ⟨t, answered, agreed.resolution, agreed.recorded, agreed.winner, agreed.cancelled⟩

theorem arbitrated_step (sound : Arbitrated registered state)
    (accepted : projectAuthenticatedReceipt state event authority = .ok projected) :
    Arbitrated registered projected := by
  cases receipt_effect accepted with
  | noted codes same => exact same ▸ arbitrated_noted sound codes
  | found generation code codes waiting fresh stored same =>
      subst same
      have named := sound.named _ _ stored
      have identity : (finding generation code).generation = event.receipt.generation :=
        (advances_finding generation code).generation.trans named.1
      rw [identity]
      constructor
      · constructor
        · intro key held found
          rw [Record.get_set] at found
          by_cases here : event.receipt.generation = key
          · rw [if_pos here] at found
            obtain rfl := Option.some.inj found
            exact ⟨identity.trans here, here ▸ named.2⟩
          · rw [if_neg here] at found
            exact sound.named key held found
        · intro key item found
          rcases sound.recorded key item found with ⟨same, held, at_key, rest⟩
          have other : event.receipt.generation ≠ key := by
            rintro rfl
            rw [fresh] at found
            cases found
          exact ⟨same, held, (Record.get_set_other _ _ other).trans at_key, rest⟩
        · intro key held found missing ended
          rw [Record.get_set] at found
          by_cases here : event.receipt.generation = key
          · rw [if_pos here] at found
            obtain rfl := Option.some.inj found
            rw [finding_state] at ended
            exact here ▸ sound.unrecorded _ _ stored fresh ended
          · rw [if_neg here] at found
            exact sound.unrecorded key held found missing ended
        · exact sound.uncancelled
      · exact sound.undecided
      · intro decided found
        rw [show state.resolution = some decided from found] at waiting
        cases waiting
  | settled generation reduced item waiting fresh stored identity ended sequence outcome recorded
      resolves =>
      have named := sound.named _ _ stored
      have here : reduced.generation = event.receipt.generation := identity.trans named.1
      rw [here] at resolves recorded
      have before := sound.undecided waiting
      apply resolve_agrees _ _ _ _ resolves
      · constructor
        · intro key held found
          rw [Record.get_set] at found
          by_cases same : event.receipt.generation = key
          · rw [if_pos same] at found
            obtain rfl := Option.some.inj found
            exact ⟨here.trans same, same ▸ named.2⟩
          · rw [if_neg same] at found
            exact sound.named key held found
        · intro key held found
          rw [Record.get_set] at found
          by_cases same : event.receipt.generation = key
          · rw [if_pos same] at found
            obtain rfl := Option.some.inj found
            subst same
            refine ⟨recorded.1, reduced, Record.get_set_same _ _ _, recorded.2 ▸ sequence, ?_⟩
            rcases ended with before | after
            · exact Or.inr (sound.unrecorded _ _ stored fresh before)
            · exact Or.inl (after.trans (congrArg _ outcome.symm))
          · rw [if_neg same] at found
            rcases sound.recorded key held found with ⟨first, generation, stored, rest⟩
            exact ⟨first, generation, (Record.get_set_other _ _ same).trans stored, rest⟩
        · intro key held found missing settled
          rw [Record.get_set] at found missing
          by_cases same : event.receipt.generation = key
          · rw [if_pos same] at missing
            cases missing
          · rw [if_neg same] at found missing
            exact sound.unrecorded key held found missing settled
        · exact sound.uncancelled
      · have task := verified_task event.verified
        cases text : event.receipt.taskId with
        | nil => exact absurd text task
        | cons unit rest => simp [truthy]
      · exact waiting
      · -- only the new outcome can be a success
        intro key first other second found held success also
        rw [Record.get_set] at found held
        by_cases same : event.receipt.generation = key
        · by_cases too : event.receipt.generation = other
          · exact same.symm.trans too
          · rw [if_neg too] at held
            exact absurd also (before other second held)
        · rw [if_neg same] at found
          exact absurd success (before key first found)

end Receipts

section Runs

variable [Engine]

/-- The projection after a receipt; a refused one leaves it as it was. -/
def afterReceipt (state : AttemptReceiptProjectionV1)
    (receipt : VerifiedReceiptEventV1 × VerifiedAttemptAuthorityV1) : AttemptReceiptProjectionV1 :=
  finalOf state (projectAuthenticatedReceipt state receipt.1 receipt.2)

def registerGenerations (attemptId : JsString) (generations : List AttemptGenerationStateV1) :
    Except DispatchError AttemptReceiptProjectionV1 := do
  let state ← emptyReceiptProjection attemptId
  generations.foldlM registerReceiptGeneration state

omit [Engine] in
theorem registered_start {attemptId : JsString} {generations : List AttemptGenerationStateV1}
    {registered : AttemptReceiptProjectionV1}
    (begun : registerGenerations attemptId generations = .ok registered) :
    Arbitrated registered registered := by
  simp only [registerGenerations, emptyReceiptProjection, bind_ok_iff, ensure_ok_iff,
    pure_ok_iff] at begun
  rcases begun with ⟨state, ⟨_, _, rfl⟩, folded⟩
  have holds := foldlM_invariant registerReceiptGeneration
    (fun state => (∀ key generation, state.generations.get key = some generation →
        generation.generation = key ∧ 1 ≤ key) ∧ state.outcomes = ∅ ∧ state.resolution = none ∧
      state.explicitCancellationEventSequence = none) generations ?_ _ _ ?_ folded
  · rcases holds with ⟨named, empty, waiting, uncancelled⟩
    have missing : ∀ key, registered.outcomes.get key = none := fun key => by
      rw [empty]
      exact Record.get_empty key
    refine ⟨⟨named, ?_, ?_, uncancelled⟩, ?_, ?_⟩
    · intro key item found
      rw [missing] at found
      cases found
    · intro key generation found _ ended
      exact ⟨generation, found, ended⟩
    · intro _ key item found
      rw [missing] at found
      cases found
    · intro decided found
      rw [waiting] at found
      cases found
  · rintro state generation after _ ⟨named, empty, waiting, uncancelled⟩ accepted
    simp only [registerReceiptGeneration, bind_ok_iff, ensure_ok_iff, pure_ok_iff] at accepted
    rcases accepted with ⟨_, valid, _, _, rfl⟩
    refine ⟨fun key found stored => ?_, empty, waiting, uncancelled⟩
    rw [Record.get_set] at stored
    by_cases here : generation.generation = key
    · rw [if_pos here] at stored
      obtain rfl := Option.some.inj stored
      exact ⟨here, here ▸ valid.2.1⟩
    · rw [if_neg here] at stored
      exact named key found stored
  · refine ⟨fun key generation found => ?_, rfl, rfl, rfl⟩
    cases found

theorem arbitrated_run {registered state : AttemptReceiptProjectionV1}
    (sound : Arbitrated registered state)
    (receipts : List (VerifiedReceiptEventV1 × VerifiedAttemptAuthorityV1)) :
    Arbitrated registered (receipts.foldl afterReceipt state) := by
  induction receipts generalizing state with
  | nil => exact sound
  | cons receipt rest ih =>
      apply ih
      unfold afterReceipt
      cases taken : projectAuthenticatedReceipt state receipt.1 receipt.2 with
      | ok projected => exact arbitrated_step sound taken
      | error _ => exact sound

/-- Whatever generations were registered and whatever receipts came, a projection has resolved as
`resolveTask` resolves its reports; these are the generation states themselves where nothing was
terminal when it was registered. -/
theorem arbitrations_agree {attemptId : JsString} {generations : List AttemptGenerationStateV1}
    {registered : AttemptReceiptProjectionV1}
    (begun : registerGenerations attemptId generations = .ok registered)
    (receipts : List (VerifiedReceiptEventV1 × VerifiedAttemptAuthorityV1))
    (taskId retryPolicyDigest : JsString) (observationCursor : CompositeCursorV1) :
    let state := receipts.foldl afterReceipt registered
    (∀ decided, state.resolution = some decided → ∃ t,
      arbitration taskId retryPolicyDigest observationCursor (reports state) = .ok (some t) ∧
        Agreed state decided t) ∧
    (arbitration taskId retryPolicyDigest observationCursor (reports state) = .ok none →
      state.resolution = none) ∧
    ((∀ generation ∈ registered.generations.values, isTerminal generation.state = false) →
      reports state = state.generations.values) := by
  have sound := arbitrated_run (registered_start begun) receipts
  refine ⟨fun decided found => sound.decided decided found taskId retryPolicyDigest
    observationCursor, ?_, reports_states sound.toTallied⟩
  intro open'
  by_contra resolved
  rcases Option.ne_none_iff_exists'.mp resolved with ⟨decided, found⟩
  rcases sound.decided decided found taskId retryPolicyDigest observationCursor with
    ⟨t, answered, _⟩
  rw [open'] at answered
  cases answered

end Runs

section Recorded

attribute [local instance] leaseEngine

structure ArbitrationRun where
  attemptId : JsString
  generations : List AttemptGenerationStateV1
  registered : AttemptReceiptProjectionV1
  receipts : List (VerifiedReceiptEventV1 × VerifiedAttemptAuthorityV1)

def ArbitrationRun.final (run : ArbitrationRun) : AttemptReceiptProjectionV1 :=
  run.receipts.foldl afterReceipt run.registered

def sampleGeneration (record : DispatchRecordV1) (generation : Nat) (state : DispatchState)
    (terminalEventSequence : Option Nat) : AttemptGenerationStateV1 :=
  { attemptId := record.core.attemptId
    generation := generation
    state := state
    bindingDigest := record.core.bindingDigest
    idempotencyKeyDigest := record.core.idempotencyKey.getD []
    providerHandle := none
    terminalEventSequence := terminalEventSequence
    findingCodes := [] }

def sampleArbitration (outcome : AttemptTerminalState)
    (others : DispatchRecordV1 → List AttemptGenerationStateV1) :
    Except DispatchError ArbitrationRun := do
  let (_, record) ← launchedRecord
  let receipt ← (sealAttemptReceipt { sampleReceiptCore record with outcome := outcome }).mapError
    DispatchError.domain
  let generations := sampleGeneration record record.core.generation .acknowledged none ::
    others record
  let registered ← registerGenerations record.core.attemptId generations
  if verified : verifyAttemptReceipt receipt = .ok () then
    return ⟨record.core.attemptId, generations, registered,
      [(⟨1, js "e", js "u", receipt, Nat.one_pos, verified⟩, sampleAuthority record none)]⟩
  else throw (.domain .receiptMismatch)

def bothAnswers (run : ArbitrationRun) :
    Option (TaskResolution × Option Nat) × Option (TaskResolution × Option Nat) :=
  (run.final.resolution.map fun decided => (decided.resolution, decided.winningGeneration),
    match arbitration (js "t") (js "p") sampleCursor run.final.generations.values with
    | .ok (some t) => some (t.resolution, t.winningGeneration)
    | _ => none)

/-- A cancellation that one of the two gives a winner, and a success that only one counts. -/
instance sample_arbitrations : Fact (endsIn (fun run => bothAnswers run == (some (.cancelled, some 1), some (.cancelled, none)))
      (sampleArbitration .cancelled fun _ => []) = true ∧
    endsIn (fun run => bothAnswers run == (some (.failed, none), some (.succeeded, some 2)))
      (sampleArbitration .failed fun record =>
        [sampleGeneration record 2 (.terminal .succeeded) (some 7)]) = true) := ⟨by decide +kernel⟩

def Alike (state : AttemptReceiptProjectionV1) : Prop :=
  ∀ taskId retryPolicyDigest observationCursor,
    (∀ decided, state.resolution = some decided → ∃ t,
      arbitration taskId retryPolicyDigest observationCursor state.generations.values =
        .ok (some t) ∧ decided.resolution = t.resolution ∧
          decided.winningGeneration = t.winningGeneration) ∧
    (arbitration taskId retryPolicyDigest observationCursor state.generations.values = .ok none →
      state.resolution = none)

theorem sample_registered {outcome : AttemptTerminalState}
    {others : DispatchRecordV1 → List AttemptGenerationStateV1} {run : ArbitrationRun}
    (made : sampleArbitration outcome others = .ok run) :
    registerGenerations run.attemptId run.generations = .ok run.registered ∧
      (run.receipts.map fun receipt => receipt.1.eventSequence).Pairwise (· < ·) := by
  simp only [sampleArbitration, bind_ok_iff] at made
  rcases made with ⟨_, _, _, _, registered, begun, made⟩
  split at made
  · obtain rfl := (pure_ok_iff _ _).mp made
    exact ⟨begun, List.pairwise_singleton _ _⟩
  · cases made

theorem alike_answers {run : ArbitrationRun} (alike : Alike run.final)
    {resolution : TaskResolution} {winner : Option Nat}
    (first : (bothAnswers run).1 = some (resolution, winner)) :
    (bothAnswers run).2 = some (resolution, winner) := by
  rcases Option.map_eq_some_iff.mp first with ⟨decided, found, pair⟩
  rcases (alike (js "t") (js "p") sampleCursor).1 decided found with ⟨t, answered, same, won⟩
  simp only [bothAnswers, answered, ← same, ← won, pair]

/-- A cancelled generation wins in the projection only; a success that was registered counts for
`resolveTask` only. -/
theorem arbitrations_differ :
    (¬ ∀ (attemptId : JsString) (generations : List AttemptGenerationStateV1)
      (registered : AttemptReceiptProjectionV1)
      (receipts : List (VerifiedReceiptEventV1 × VerifiedAttemptAuthorityV1)),
      registerGenerations attemptId generations = .ok registered →
        (receipts.map fun receipt => receipt.1.eventSequence).Pairwise (· < ·) →
          Alike (receipts.foldl afterReceipt registered)) ∧
    ¬ ∀ (attemptId : JsString) (generations : List AttemptGenerationStateV1)
      (registered : AttemptReceiptProjectionV1)
      (receipts : List (VerifiedReceiptEventV1 × VerifiedAttemptAuthorityV1)),
      registerGenerations attemptId generations = .ok registered →
        (receipts.map fun receipt => receipt.1.eventSequence).Pairwise (· < ·) →
          (∀ decided, (receipts.foldl afterReceipt registered).resolution = some decided →
            decided.resolution ≠ .cancelled) →
          Alike (receipts.foldl afterReceipt registered) := by
  constructor
  · intro claim
    rcases ends_in_exists sample_arbitrations.out.1 with ⟨run, made, answers⟩
    rw [beq_iff_eq] at answers
    rcases sample_registered made with ⟨begun, ordered⟩
    have alike : Alike run.final := claim _ _ _ _ begun ordered
    have second := alike_answers alike (congrArg Prod.fst answers)
    rw [answers] at second
    cases second
  · intro claim
    rcases ends_in_exists sample_arbitrations.out.2 with ⟨run, made, answers⟩
    rw [beq_iff_eq] at answers
    rcases sample_registered made with ⟨begun, ordered⟩
    have alike : Alike run.final := claim _ _ _ _ begun ordered (by
      intro decided found cancelled
      have first := congrArg Prod.fst answers
      have shown : (bothAnswers run).1 = some (decided.resolution, decided.winningGeneration) :=
        Option.map_eq_some_iff.mpr ⟨decided, found, rfl⟩
      rw [shown, cancelled] at first
      cases first)
    have second := alike_answers alike (congrArg Prod.fst answers)
    rw [answers] at second
    cases second

/-- The run of the cancelled generation: both cancel, and the projection names the generation. -/
theorem arbitrations_agree_cancelled : ∃ (run : ArbitrationRun) (decided : TaskResolvedProjectionV1)
    (t : TaskResolutionV1), run.final.resolution = some decided ∧ decided.winningGeneration = some 1 ∧
      arbitration (js "t") (js "p") sampleCursor (reports run.final) = .ok (some t) ∧
        Agreed run.final decided t := by
  rcases ends_in_exists sample_arbitrations.out.1 with ⟨run, made, answers⟩
  rw [beq_iff_eq] at answers
  rcases Option.map_eq_some_iff.mp (congrArg Prod.fst answers) with ⟨decided, found, pair⟩
  have agree := arbitrations_agree (sample_registered made).1 run.receipts (js "t") (js "p")
    sampleCursor
  rcases agree.1 decided found with ⟨t, answered, agreed⟩
  exact ⟨run, decided, t, found, (Prod.mk.inj pair).2, answered, agreed⟩

end Recorded

end Horseness.ReceiptArbitration
