import Horseness.ReceiptArbitration

/-!
The operations on the receipt projection of an attempt. A registration replaces the state of its
generation as a whole, also after an outcome was recorded for it.
-/

namespace Horseness.ReceiptOperations

open FallibleRuns Records ScriptText ScriptEngine Cursors PlainObjects Tasks AttemptReceipts
  BoundAttempts LeaseFences DispatchRecords Recovery ReceiptProjection ReceiptArbitration
  AttemptSteps

inductive RetryDecision where
  | permitted
  | denied
  deriving DecidableEq

structure VerifiedRetryDecisionV1 where
  workspaceId : JsString
  runId : JsString
  taskId : JsString
  attemptId : JsString
  generation : Nat
  decision : RetryDecision
  eventSequence : Nat
  cursor : CompositeCursorV1

structure VerifiedCancellationV1 where
  workspaceId : JsString
  runId : JsString
  taskId : JsString
  attemptId : JsString
  generation : Nat
  eventSequence : Nat
  cursor : CompositeCursorV1

/-- The cursor of the view that is read; nothing where reading throws. -/
structure TrustedAuthorityReader where
  authenticatedView : JsString → JsString → Option CompositeCursorV1

inductive ArbitrationError where
  | authorityUnread
  | authorityStale
  | dispatch (failure : DispatchError)
  deriving DecidableEq

section Operations

variable [Engine]

/-- What both decisions ask of the projection before they are applied to it. -/
def applicable (state : AttemptReceiptProjectionV1) (attemptId taskId : JsString) (generation : Nat) :
    Prop :=
  attemptId = state.attemptId ∧ (state.generations.get generation).isSome = true ∧
    (state.taskId ≠ none → state.taskId = some taskId)

instance (state : AttemptReceiptProjectionV1) (attemptId taskId : JsString) (generation : Nat) :
    Decidable (applicable state attemptId taskId generation) := inferInstanceAs (Decidable (_ ∧ _))

def decidedRetries (permitted : List Nat) (capability : VerifiedRetryDecisionV1) : List Nat :=
  match capability.decision with
  | .permitted =>
      if capability.generation ∈ permitted then permitted else permitted ++ [capability.generation]
  | .denied => permitted.filter (· ≠ capability.generation)

def applyStoredRetryDecision (state : AttemptReceiptProjectionV1) (reader : TrustedAuthorityReader)
    (capability : VerifiedRetryDecisionV1) : Except ArbitrationError AttemptReceiptProjectionV1 := do
  let cursor ← required (reader.authenticatedView capability.workspaceId capability.runId)
    .authorityUnread
  ensure (cursor = capability.cursor) .authorityStale
  ensure (applicable state capability.attemptId capability.taskId capability.generation)
    (.dispatch (.domain .receiptMismatch))
  (resolve { state with
    taskId := some (state.taskId.getD capability.taskId)
    retryPermittedGenerations := decidedRetries state.retryPermittedGenerations capability }
    capability.eventSequence).mapError .dispatch

def applyStoredCancellation (state : AttemptReceiptProjectionV1) (reader : TrustedAuthorityReader)
    (capability : VerifiedCancellationV1) : Except ArbitrationError AttemptReceiptProjectionV1 := do
  let cursor ← required (reader.authenticatedView capability.workspaceId capability.runId)
    .authorityUnread
  ensure (cursor = capability.cursor) .authorityStale
  ensure (applicable state capability.attemptId capability.taskId capability.generation)
    (.dispatch (.domain .receiptMismatch))
  if state.resolution.isSome then
    return { state with
      findings := findings (state.findings ++ [js "LATE_EXPLICIT_CANCELLATION"]) }
  else
    (resolve { state with
      taskId := some capability.taskId
      explicitCancellationEventSequence :=
        state.explicitCancellationEventSequence.or (some capability.eventSequence) }
      capability.eventSequence).mapError .dispatch

inductive ProjectionCall where
  | registerReceiptGeneration (generation : AttemptGenerationStateV1)
  | projectAuthenticatedReceipt (event : VerifiedReceiptEventV1)
      (authority : VerifiedAttemptAuthorityV1)
  | applyStoredRetryDecision (reader : TrustedAuthorityReader) (capability : VerifiedRetryDecisionV1)
  | applyStoredCancellation (reader : TrustedAuthorityReader) (capability : VerifiedCancellationV1)

def perform (state : AttemptReceiptProjectionV1) :
    ProjectionCall → Except ArbitrationError AttemptReceiptProjectionV1
  | .registerReceiptGeneration generation =>
      (ReceiptProjection.registerReceiptGeneration state generation).mapError .dispatch
  | .projectAuthenticatedReceipt event authority =>
      (ReceiptProjection.projectAuthenticatedReceipt state event authority).mapError .dispatch
  | .applyStoredRetryDecision reader capability =>
      ReceiptOperations.applyStoredRetryDecision state reader capability
  | .applyStoredCancellation reader capability =>
      ReceiptOperations.applyStoredCancellation state reader capability

/-- A generation with an outcome is in the state of that outcome. -/
def Consistent (state : AttemptReceiptProjectionV1) : Prop :=
  ∀ key item, state.outcomes.get key = some item → ∃ generation,
    state.generations.get key = some generation ∧
      generation.state = .terminal item.outcome ∧
      generation.terminalEventSequence = some item.terminalEventSequence

/-- Nothing is registered that contradicts an outcome, and no receipt contradicts what is
registered. -/
def Coherent (state : AttemptReceiptProjectionV1) : ProjectionCall → Prop
  | .registerReceiptGeneration generation =>
      ∀ item, state.outcomes.get generation.generation = some item →
        generation.state = .terminal item.outcome ∧
          generation.terminalEventSequence = some item.terminalEventSequence
  | .projectAuthenticatedReceipt event _ =>
      state.outcomes.get event.receipt.generation = none → state.resolution = none →
        ∀ generation, state.generations.get event.receipt.generation = some generation →
          isTerminal generation.state = true →
            generation.terminalEventSequence = some event.eventSequence →
              generation.state = .terminal event.receipt.outcome
  | _ => True

instance (state : AttemptReceiptProjectionV1) : (call : ProjectionCall) →
    Decidable (Coherent state call)
  | .registerReceiptGeneration generation =>
      inferInstanceAs (Decidable (∀ item ∈ state.outcomes.get generation.generation, _ ∧ _))
  | .projectAuthenticatedReceipt event _ =>
      inferInstanceAs (Decidable (_ → _ →
        ∀ generation ∈ state.generations.get event.receipt.generation, _ → _ → _))
  | .applyStoredRetryDecision _ _ => inferInstanceAs (Decidable True)
  | .applyStoredCancellation _ _ => inferInstanceAs (Decidable True)

end Operations

section Effects

variable [Engine] {state projected : AttemptReceiptProjectionV1}

/-- What holds of a projection whatever was done to it. -/
structure Ordered (state : AttemptReceiptProjectionV1) : Prop where
  named : ∀ key generation, state.generations.get key = some generation → generation.generation = key
  registered : ∀ key item, state.outcomes.get key = some item →
    (state.generations.get key).isSome = true
  known : ∀ key item, state.outcomes.get key = some item → truthy state.taskId = true

/-- Only the resolution is another. -/
structure Resolves (state projected : AttemptReceiptProjectionV1) : Prop where
  generations : projected.generations = state.generations
  outcomes : projected.outcomes = state.outcomes
  taskId : projected.taskId = state.taskId
  permitted : projected.retryPermittedGenerations = state.retryPermittedGenerations
  cancelled : projected.explicitCancellationEventSequence = state.explicitCancellationEventSequence
  kept : state.resolution ≠ none → projected.resolution = state.resolution

omit [Engine] in
theorem resolves_refl (state : AttemptReceiptProjectionV1) : Resolves state state :=
  ⟨rfl, rfl, rfl, rfl, rfl, fun _ => rfl⟩

theorem resolved_resolves {resolution : TaskResolution} {winner : Option Nat} {eventSequence : Nat}
    (waiting : state.resolution = none)
    (written : resolved state resolution winner eventSequence = .ok projected) :
    Resolves state projected := by
  unfold resolved at written
  split at written
  · rw [← Except.ok.inj written]
    exact resolves_refl state
  · rw [bind_ok_iff] at written
    rcases written with ⟨digest, _, written⟩
    rw [← (pure_ok_iff _ _).mp written]
    exact ⟨rfl, rfl, rfl, rfl, rfl, fun decided => absurd waiting decided⟩

theorem resolve_resolves {eventSequence : Nat} (done : resolve state eventSequence = .ok projected) :
    Resolves state projected := by
  unfold resolve at done
  by_cases decided : state.resolution.isSome = true
  · rw [if_pos decided] at done
    rw [← Except.ok.inj done]
    exact resolves_refl state
  · have waiting : state.resolution = none := by simpa using decided
    rw [if_neg decided] at done
    split at done
    · exact resolved_resolves waiting done
    · exact resolved_resolves waiting done
    · split at done
      · rw [← Except.ok.inj done]
        exact resolves_refl state
      · split at done
        · exact resolved_resolves waiting done
        · exact resolved_resolves waiting done

/-- What an accepted call has done. -/
inductive CallEffect (state : AttemptReceiptProjectionV1) :
    ProjectionCall → AttemptReceiptProjectionV1 → Prop where
  | registered (generation : AttemptGenerationStateV1) : CallEffect state
      (.registerReceiptGeneration generation)
      { state with generations := state.generations.set generation.generation generation }
  | noted (call : ProjectionCall) (codes : List JsString) (coherent : Coherent state call) :
      CallEffect state call { state with findings := codes }
  | found (event : VerifiedReceiptEventV1) (authority : VerifiedAttemptAuthorityV1)
      (held : AttemptGenerationStateV1) (code : FindingCode) (codes : List JsString)
      (fresh : state.outcomes.get event.receipt.generation = none)
      (stored : state.generations.get event.receipt.generation = some held)
      (skipped : isTerminal held.state = false ∨
        held.terminalEventSequence ≠ some event.eventSequence) :
      CallEffect state (.projectAuthenticatedReceipt event authority)
        { state with
          generations := state.generations.set (finding held code).generation (finding held code)
          findings := codes }
  | settled (event : VerifiedReceiptEventV1) (authority : VerifiedAttemptAuthorityV1)
      (held reduced : AttemptGenerationStateV1) (item : ReceiptGenerationOutcomeV1)
      (after : AttemptReceiptProjectionV1)
      (waiting : state.resolution = none)
      (fresh : state.outcomes.get event.receipt.generation = none)
      (stored : state.generations.get event.receipt.generation = some held)
      (identity : reduced.generation = held.generation)
      (ended : (isTerminal held.state = true ∧ reduced.state = held.state ∧
          held.terminalEventSequence = some event.eventSequence) ∨
        (isTerminal held.state = false ∧ reduced.state = .terminal event.receipt.outcome))
      (sequence : reduced.terminalEventSequence = some event.eventSequence)
      (outcome : item.outcome = event.receipt.outcome)
      (recorded : item.terminalEventSequence = event.eventSequence)
      (resolves : resolve { state with
        taskId := some event.receipt.taskId
        generations := state.generations.set reduced.generation reduced
        outcomes := state.outcomes.set reduced.generation item } event.eventSequence = .ok after) :
      CallEffect state (.projectAuthenticatedReceipt event authority) after
  | decided (reader : TrustedAuthorityReader) (capability : VerifiedRetryDecisionV1)
      (after : AttemptReceiptProjectionV1)
      (present : applicable state capability.attemptId capability.taskId capability.generation)
      (resolves : resolve { state with
        taskId := some (state.taskId.getD capability.taskId)
        retryPermittedGenerations := decidedRetries state.retryPermittedGenerations capability }
        capability.eventSequence = .ok after) :
      CallEffect state (.applyStoredRetryDecision reader capability) after
  | cancelled (reader : TrustedAuthorityReader) (capability : VerifiedCancellationV1)
      (after : AttemptReceiptProjectionV1) (waiting : state.resolution = none)
      (present : applicable state capability.attemptId capability.taskId capability.generation)
      (resolves : resolve { state with
        taskId := some capability.taskId
        explicitCancellationEventSequence :=
          state.explicitCancellationEventSequence.or (some capability.eventSequence) }
        capability.eventSequence = .ok after) :
      CallEffect state (.applyStoredCancellation reader capability) after

theorem receipt_call_effect {event : VerifiedReceiptEventV1} {authority : VerifiedAttemptAuthorityV1}
    (accepted : ReceiptProjection.projectAuthenticatedReceipt state event authority = .ok projected) :
    CallEffect state (.projectAuthenticatedReceipt event authority) projected := by
  by_cases late : state.outcomes.get event.receipt.generation ≠ none ∨ state.resolution ≠ none
  · rcases receipt_noted accepted late with ⟨codes, rfl⟩
    refine .noted _ codes fun fresh waiting => ?_
    exact absurd late (not_or.mpr ⟨not_not.mpr fresh, not_not.mpr waiting⟩)
  · simp only [not_or, not_not] at late
    rcases receipt_reduced accepted late.1 late.2 with
      ⟨held, reduced, stored, dispatched, ⟨skipped, codes, rfl⟩ | ⟨ended, sequence, item, outcome,
        generation, recorded, resolves⟩⟩
    · rcases receipt_reduces dispatched with ⟨code, rfl⟩ | ⟨_, rfl⟩
      · refine .found event authority held code codes late.1 stored ?_
        simpa using skipped
      · simp [isTerminal] at skipped
    · refine .settled event authority held reduced item projected late.2 late.1 stored
        (receipt_advances dispatched).generation ?_ sequence outcome recorded resolves
      rcases receipt_reduces dispatched with ⟨code, rfl⟩ | ⟨running, rfl⟩
      · rw [finding_state] at ended
        rw [finding_sequence] at sequence
        exact .inl ⟨ended, finding_state held code, sequence⟩
      · exact .inr ⟨running, rfl⟩

theorem call_effect {call : ProjectionCall} (accepted : perform state call = .ok projected) :
    CallEffect state call projected := by
  cases call with
  | registerReceiptGeneration generation =>
      rw [perform, map_error_ok_iff] at accepted
      simp only [ReceiptProjection.registerReceiptGeneration, bind_ok_iff, ensure_ok_iff,
        pure_ok_iff] at accepted
      rcases accepted with ⟨_, _, _, _, rfl⟩
      exact .registered generation
  | projectAuthenticatedReceipt event authority =>
      rw [perform, map_error_ok_iff] at accepted
      exact receipt_call_effect accepted
  | applyStoredRetryDecision reader capability =>
      simp only [perform, applyStoredRetryDecision, bind_ok_iff, ensure_ok_iff,
        map_error_ok_iff] at accepted
      rcases accepted with ⟨_, _, _, _, _, present, resolves⟩
      exact .decided reader capability projected present resolves
  | applyStoredCancellation reader capability =>
      simp only [perform, applyStoredCancellation, bind_ok_iff, ensure_ok_iff] at accepted
      rcases accepted with ⟨_, _, _, _, _, present, accepted⟩
      split at accepted
      · rw [← (pure_ok_iff _ _).mp accepted]
        exact .noted _ _ trivial
      · next waiting =>
          rw [map_error_ok_iff] at accepted
          exact .cancelled reader capability projected (by simpa using waiting) present accepted

end Effects

section Steps

variable [Engine] {state projected : AttemptReceiptProjectionV1} {call : ProjectionCall}

omit [Engine] in
theorem resolves_ordered (ordered : Ordered state) (resolves : Resolves state projected) :
    Ordered projected := by
  rcases resolves with ⟨generations, outcomes, taskId, _, _, _⟩
  constructor
  · rw [generations]
    exact ordered.named
  · rw [generations, outcomes]
    exact ordered.registered
  · rw [outcomes, taskId]
    exact ordered.known

omit [Engine] in
theorem stored_named {generations : Record Nat AttemptGenerationStateV1}
    (named : ∀ key generation, generations.get key = some generation →
      generation.generation = key) (added : AttemptGenerationStateV1) (key : Nat)
    (generation : AttemptGenerationStateV1)
    (found : (generations.set added.generation added).get key = some generation) :
    generation.generation = key := by
  rw [Record.get_set] at found
  by_cases same : added.generation = key
  · rw [if_pos same] at found
    rw [← Option.some.inj found]
    exact same
  · rw [if_neg same] at found
    exact named key generation found

omit [Engine] in
theorem stored_present {generations : Record Nat AttemptGenerationStateV1} {key : Nat}
    (present : (generations.get key).isSome = true) (added : AttemptGenerationStateV1) :
    ((generations.set added.generation added).get key).isSome = true := by
  rw [Record.get_set]
  by_cases same : added.generation = key
  · rw [if_pos same]
    rfl
  · rw [if_neg same]
    exact present

omit [Engine] in
theorem known_task (known : truthy state.taskId = true) : ∃ taskId, state.taskId = some taskId := by
  cases given : state.taskId with
  | none =>
      rw [given] at known
      cases known
  | some text => exact ⟨text, rfl⟩

theorem receipt_known (event : VerifiedReceiptEventV1) :
    truthy (some event.receipt.taskId) = true :=
  truthy_of_known (Option.some_ne_none _) fun empty => verified_task event.verified (Option.some.inj empty)

theorem ordered_step (ordered : Ordered state) (effect : CallEffect state call projected) :
    Ordered projected := by
  cases effect with
  | registered generation =>
      exact ⟨stored_named ordered.named generation,
        fun key item found => stored_present (ordered.registered key item found) generation,
        ordered.known⟩
  | noted _ codes _ => exact ⟨ordered.named, ordered.registered, ordered.known⟩
  | found event authority held code codes fresh stored skipped =>
      exact ⟨stored_named ordered.named (finding held code),
        fun key item found => stored_present (ordered.registered key item found) (finding held code),
        ordered.known⟩
  | settled event authority held reduced item after waiting fresh stored identity ended sequence
      outcome recorded resolves =>
      refine resolves_ordered ⟨stored_named ordered.named reduced, fun key other found => ?_,
        fun _ _ _ => receipt_known event⟩ (resolve_resolves resolves)
      rw [Record.get_set] at found
      by_cases same : reduced.generation = key
      · rw [← same, Record.get_set_same]
        rfl
      · rw [if_neg same] at found
        exact stored_present (ordered.registered key other found) reduced
  | decided reader capability after present resolves =>
      apply resolves_ordered _ (resolve_resolves resolves)
      refine ⟨ordered.named, ordered.registered, fun key item found => ?_⟩
      have known := ordered.known key item found
      rcases known_task known with ⟨taskId, given⟩
      rw [given] at known ⊢
      exact known
  | cancelled reader capability after waiting present resolves =>
      apply resolves_ordered _ (resolve_resolves resolves)
      refine ⟨ordered.named, ordered.registered, fun key item found => ?_⟩
      have known := ordered.known key item found
      rcases known_task known with ⟨taskId, given⟩
      rw [present.2.2 (given ▸ Option.some_ne_none taskId)] at known
      exact known

theorem outcome_kept (ordered : Ordered state) (effect : CallEffect state call projected) {key : Nat}
    {item : ReceiptGenerationOutcomeV1} (found : state.outcomes.get key = some item) :
    projected.outcomes.get key = some item := by
  cases effect with
  | registered _ => exact found
  | noted _ _ _ => exact found
  | found _ _ _ _ _ _ _ _ => exact found
  | settled event authority held reduced other after waiting fresh stored identity ended sequence
      outcome recorded resolves =>
      have here := identity.trans (ordered.named _ _ stored)
      have different : reduced.generation ≠ key := by
        rintro rfl
        rw [here, fresh] at found
        cases found
      rw [(resolve_resolves resolves).outcomes]
      exact (Record.get_set_other _ _ different).trans found
  | decided _ _ _ _ resolves => exact (resolve_resolves resolves).outcomes ▸ found
  | cancelled _ _ _ _ _ resolves => exact (resolve_resolves resolves).outcomes ▸ found

theorem resolution_kept (effect : CallEffect state call projected)
    {decided : TaskResolvedProjectionV1} (found : state.resolution = some decided) :
    projected.resolution = some decided := by
  have given : state.resolution ≠ none := found ▸ Option.some_ne_none decided
  cases effect with
  | registered _ => exact found
  | noted _ _ _ => exact found
  | found _ _ _ _ _ _ _ _ => exact found
  | settled _ _ _ _ _ _ waiting => exact absurd waiting given
  | decided _ _ _ _ resolves => exact ((resolve_resolves resolves).kept given).trans found
  | cancelled _ _ _ waiting => exact absurd waiting given

omit [Engine] in
theorem resolves_consistent_iff (resolves : Resolves state projected) :
    Consistent projected ↔ Consistent state := by
  rw [Consistent, Consistent, resolves.generations, resolves.outcomes]

omit [Engine] in
-- Another state of a generation agrees with the outcomes if it agrees with its own.
theorem stored_consistent_iff (consistent : Consistent state) (added : AttemptGenerationStateV1)
    (codes : List JsString) : Consistent { state with
        generations := state.generations.set added.generation added
        findings := codes } ↔
      ∀ item, state.outcomes.get added.generation = some item →
        added.state = .terminal item.outcome ∧
          added.terminalEventSequence = some item.terminalEventSequence := by
  constructor
  · intro after item found
    rcases after _ item found with ⟨generation, stored, agrees⟩
    rw [Record.get_set_same] at stored
    rw [Option.some.inj stored]
    exact agrees
  · intro agrees key item found
    by_cases same : added.generation = key
    · subst same
      exact ⟨added, Record.get_set_same _ _ _, agrees item found⟩
    · rcases consistent key item found with ⟨generation, stored, agreed⟩
      exact ⟨generation, (Record.get_set_other _ _ same).trans stored, agreed⟩

-- The step lemma: a consistent projection stays one just where the call is coherent.
theorem consistent_step_iff (ordered : Ordered state) (consistent : Consistent state)
    (effect : CallEffect state call projected) : Consistent projected ↔ Coherent state call := by
  cases effect with
  | registered generation => exact stored_consistent_iff consistent generation state.findings
  | noted call codes coherent => exact ⟨fun _ => coherent, fun _ => consistent⟩
  | found event authority held code codes fresh stored skipped =>
      have named := ordered.named _ _ stored
      have here : (finding held code).generation = event.receipt.generation :=
        (advances_finding held code).generation.trans named
      constructor
      · intro _ _ _ generation known ended sequence
        obtain rfl := Option.some.inj (stored.symm.trans known)
        rcases skipped with running | other
        · rw [running] at ended
          cases ended
        · exact absurd sequence other
      · intro _
        refine (stored_consistent_iff consistent (finding held code) codes).mpr fun item known => ?_
        rw [here, fresh] at known
        cases known
  | settled event authority held reduced item after waiting fresh stored identity ended sequence
      outcome recorded resolves =>
      have here := identity.trans (ordered.named _ _ stored)
      rw [resolves_consistent_iff (resolve_resolves resolves)]
      have settles : Consistent { state with
          taskId := some event.receipt.taskId
          generations := state.generations.set reduced.generation reduced
          outcomes := state.outcomes.set reduced.generation item } ↔
            reduced.state = .terminal event.receipt.outcome := by
        constructor
        · intro consistent
          rcases consistent reduced.generation item (Record.get_set_same _ _ _) with
            ⟨generation, known, agrees, _⟩
          rw [Record.get_set_same] at known
          rw [Option.some.inj known, agrees, outcome]
        · intro agrees key other found
          by_cases same : reduced.generation = key
          · subst same
            rw [Record.get_set_same] at found
            obtain rfl := Option.some.inj found
            exact ⟨reduced, Record.get_set_same _ _ _, outcome ▸ agrees, recorded ▸ sequence⟩
          · rw [Record.get_set, if_neg same] at found
            rcases consistent key other found with ⟨generation, known, agreed⟩
            exact ⟨generation, (Record.get_set_other _ _ same).trans known, agreed⟩
      rw [settles]
      constructor
      · intro agrees _ _ generation known settled _
        obtain rfl := Option.some.inj (stored.symm.trans known)
        rcases ended with ⟨_, same, _⟩ | ⟨running, _⟩
        · exact same.symm.trans agrees
        · rw [running] at settled
          cases settled
      · intro coherent
        rcases ended with ⟨settled, same, known⟩ | ⟨_, agrees⟩
        · exact same.trans (coherent fresh waiting held stored settled known)
        · exact agrees
  | decided reader capability after present resolves =>
      rw [resolves_consistent_iff (resolve_resolves resolves)]
      exact ⟨fun _ => trivial, fun _ => consistent⟩
  | cancelled reader capability after waiting present resolves =>
      rw [resolves_consistent_iff (resolve_resolves resolves)]
      exact ⟨fun _ => trivial, fun _ => consistent⟩

end Steps

section Runs

variable [Engine] {start state later : AttemptReceiptProjectionV1}

def anyCall (_ : AttemptReceiptProjectionV1) (_ : ProjectionCall) : Prop := True

omit [Engine] in
theorem empty_consistent {attemptId : JsString}
    (begun : emptyReceiptProjection attemptId = .ok start) : Ordered start ∧ Consistent start := by
  simp only [emptyReceiptProjection, bind_ok_iff, ensure_ok_iff, pure_ok_iff] at begun
  rcases begun with ⟨_, _, rfl⟩
  exact ⟨⟨nofun, nofun, nofun⟩, nofun⟩

theorem reached_ordered {allow : AttemptReceiptProjectionV1 → ProjectionCall → Prop}
    (ordered : Ordered start) (reached : Reaches perform allow start state) : Ordered state :=
  reaches_invariant Ordered ordered
    (fun _ _ _ _ held _ accepted => ordered_step held (call_effect accepted)) reached

theorem reached_consistent (ordered : Ordered start) (consistent : Consistent start)
    (reached : Reaches perform Coherent start state) : Consistent state :=
  reaches_invariant Consistent consistent
    (fun _ _ _ before held coherent accepted => (consistent_step_iff (reached_ordered ordered before)
      held (call_effect accepted)).mpr coherent) reached

theorem reached_kept (ordered : Ordered start)
    {allow : AttemptReceiptProjectionV1 → ProjectionCall → Prop}
    (reached : Reaches perform allow start state) :
    (∀ decided, start.resolution = some decided → state.resolution = some decided) ∧
      ∀ key item, start.outcomes.get key = some item → state.outcomes.get key = some item := by
  induction reached with
  | start => exact ⟨fun _ => id, fun _ _ => id⟩
  | next call before _ accepted ih =>
      have effect := call_effect accepted
      exact ⟨fun decided found => resolution_kept effect (ih.1 decided found),
        fun key item found => outcome_kept (reached_ordered ordered before) effect (ih.2 key item found)⟩

end Runs

section Recorded

attribute [local instance] leaseEngine

def generationAuthority (record : DispatchRecordV1) (generation : Nat) : VerifiedAttemptAuthorityV1 :=
  let binding := { (sampleAuthority record none).binding with generation := generation }
  { binding := binding
    providerHandle := none
    grant := ⟨js "u", js "g", false⟩
    dispatch := ⟨binding.attemptId, generation, js "p", js "o",
      record.core.idempotencyKey.getD [], none⟩
    issued := ⟨rfl, rfl, rfl, rfl⟩ }

def failure (record : DispatchRecordV1) (generation : Nat) : Except DispatchError ProjectionCall := do
  let receipt ← (sealAttemptReceipt
    { sampleReceiptCore record with generation := generation }).mapError DispatchError.domain
  if verified : verifyAttemptReceipt receipt = .ok () then
    return .projectAuthenticatedReceipt
      ⟨generation + 1, js "e", js "u", receipt, Nat.le_add_left 1 generation, verified⟩
      (generationAuthority record generation)
  else throw (.domain .receiptMismatch)

def running (record : DispatchRecordV1) (generation : Nat) : ProjectionCall :=
  .registerReceiptGeneration (sampleGeneration record generation .acknowledged none)

/-- The calls that were made on an empty projection. -/
structure ProjectionRun where
  attemptId : JsString
  start : AttemptReceiptProjectionV1
  begun : emptyReceiptProjection attemptId = .ok start
  calls : List ProjectionCall

def ProjectionRun.shows (run : ProjectionRun)
    (allowed : AttemptReceiptProjectionV1 → ProjectionCall → Bool)
    (fact : AttemptReceiptProjectionV1 → Bool) : Bool :=
  endsIn fact (run.calls.foldlM (guardedStep perform allowed .authorityStale) run.start)

def projectionRun (calls : DispatchRecordV1 → Except DispatchError (List ProjectionCall)) :
    Except DispatchError ProjectionRun := do
  let (_, record) ← launchedRecord
  let made ← calls record
  match begun : emptyReceiptProjection record.core.attemptId with
  | .ok start => return ⟨record.core.attemptId, start, begun, made⟩
  | .error failure => throw failure

def reopenedRun : Except DispatchError ProjectionRun := projectionRun fun record => do
  let failed ← failure record 1
  return [running record 1, failed, running record 1]

instance reopened_shown : Fact (endsIn (fun run => run.shows (fun _ _ => true) fun state =>
    (state.outcomes.get 1).isSome &&
      (state.generations.get 1).all fun generation => generation.state = .acknowledged)
    reopenedRun = true) := ⟨by decide +kernel⟩

end Recorded

end Horseness.ReceiptOperations
