import Horseness.AttemptSteps
import Horseness.RecordedRuns

/-!
What becomes of a requested cancellation. That one was requested is kept in the name of
the dispatch state alone, so a state that can be entered with and without it forgets it.
-/

namespace Horseness.CancelledAttempts

open FallibleRuns Records ScriptText ScriptEngine Canonical Tasks ExecutionEvents Execution
  ExecutionSteps RecordedRuns

section Dispatch

/-- The states in which a requested cancellation still stands or no longer matters. -/
def cancelling : DispatchState → Bool
  | .cancelRequested => true
  | .cancelHandedOff => true
  | .reconciliationRequired => true
  | .unknownOutcome => true
  | .terminal _ => true
  | _ => false

/-- The input takes up a provider operation again after a reconciliation. -/
def readopts (a : AttemptGenerationStateV1) : DispatchInputV1 → Bool
  | .recordHandle handle =>
      a.state = .reconciliationRequired && !conflictingHandle (some handle) a.providerHandle
  | .reconcileFound handle =>
      a.state = .reconciliationRequired && !conflictingHandle (some handle) a.providerHandle
  | _ => false

variable {a next : AttemptGenerationStateV1}

theorem request_cancels (accepted : reduceDispatch a .requestCancel = .ok next) :
    cancelling next.state = true := by
  unfold reduceDispatch at accepted
  split at accepted
  · cases accepted
  · cases state : a.state <;> rw [state] at accepted <;> simp only at accepted
    case terminal =>
      obtain rfl := Except.ok.inj accepted
      simp [state, cancelling]
    all_goals first
      | (cases accepted; done)
      | (obtain rfl := Except.ok.inj accepted; rfl)

theorem note_handle_cancels {handle : JsString} {state : DispatchState}
    (noted : noteHandle a handle state = .ok next) (held : cancelling a.state = true) :
    cancelling next.state = (conflictingHandle (some handle) a.providerHandle || cancelling state) := by
  unfold noteHandle at noted
  split at noted
  · cases noted
  · split at noted
    · rename_i conflict
      obtain rfl := Except.ok.inj noted
      simp [conflict, held]
    · rename_i agrees
      obtain rfl := Except.ok.inj noted
      simp [agrees]

/-- One dispatch input forgets the cancellation exactly where it takes up an operation
again. -/
theorem dispatch_cancels {input : DispatchInputV1} (accepted : reduceDispatch a input = .ok next)
    (held : cancelling a.state = true) (absent : input ≠ .reconcileNotFoundIdempotent) :
    cancelling next.state = !readopts a input := by
  unfold reduceDispatch at accepted
  split at accepted
  · cases accepted
  · cases input
    case terminalReceipt outcome sequence handle =>
      simp only at accepted
      split at accepted
      · cases accepted
      · split at accepted
        · rename_i state
          obtain rfl := Except.ok.inj accepted
          simp [state, cancelling, readopts]
        · cases accepted
        · split at accepted
          · obtain rfl := Except.ok.inj accepted
            simp [held, readopts]
          · obtain rfl := Except.ok.inj accepted
            rfl
    case reconcileNotFoundIdempotent => exact absurd rfl absent
    -- The states before a cancellation are excluded; a handle may be noted in the others.
    all_goals cases state : a.state <;> rw [state] at accepted held <;> simp only at accepted
    all_goals first
      | (cases held; done)
      | (cases accepted; done)
      | (have kept := note_handle_cancels accepted (by simp [state, cancelling])
         rw [kept]
         simp [readopts, state, cancelling])
      | (split at accepted
         · obtain rfl := Except.ok.inj accepted
           rfl
         · cases accepted)
      | (obtain rfl := Except.ok.inj accepted
         simp [readopts, state, cancelling])

end Dispatch

section Runs

variable {s after : TaskExecutionProjectionV1}

/-- The attempt of this key is prepared, and its cancellation is not forgotten. -/
structure Held (key : JsString) (s : TaskExecutionProjectionV1) : Prop where
  prepared : ∃ p, s.prepared.get key = some p
  attempt : ∃ a, s.attempts.get key = some a ∧ cancelling a.state = true

/-- The event takes up the operation of an attempt whose reconciliation is required. -/
def Readopts (key : JsString) (s : TaskExecutionProjectionV1)
    (input : TaskExecutionEventV1 × Nat) : Prop :=
  ∃ attempt dispatch a, input.1.payload = .taskExecutionTransitionV1 attempt dispatch ∧
    AttemptReference.key attempt = key ∧ s.attempts.get key = some a ∧ readopts a dispatch = true

theorem Held.of_same {key : JsString} (held : Held key s) (prepared : after.prepared = s.prepared)
    (attempts : after.attempts = s.attempts) : Held key after :=
  ⟨prepared ▸ held.prepared, attempts ▸ held.attempt⟩

-- One attempt is replaced: its own cancellation must survive, the others are untouched.
theorem Held.of_set {key other : JsString} {next : AttemptGenerationStateV1} (held : Held key s)
    (prepared : after.prepared = s.prepared) (attempts : after.attempts = s.attempts.set other next)
    (own : other = key → cancelling next.state = true) : Held key after := by
  refine ⟨prepared ▸ held.prepared, ?_⟩
  rw [attempts, Record.get_set]
  split
  · rename_i hit
    exact ⟨next, rfl, own hit⟩
  · exact held.attempt

variable [Engine]

/-- An accepted event keeps the cancellation of an attempt, or it takes up its operation
again. -/
theorem held_step {key : JsString} {input : TaskExecutionEventV1 × Nat}
    (accepted : executionStep s input = .ok after) (held : Held key s)
    (allowed : ¬ Readopts key s input) : Held key after := by
  obtain ⟨-, accepted⟩ := check_ok_iff.mp accepted
  cases payload : input.1.payload <;> rw [payload] at accepted
  case taskExecutionPreparedV1 prepared =>
    obtain ⟨-, unused, -, -, -, -, _, _, -, rfl⟩ := prepared_ok accepted
    obtain ⟨p, known⟩ := held.prepared
    have different : attemptKey prepared.attemptId prepared.generation ≠ key := by
      rintro rfl
      exact Option.some_ne_none p (known.symm.trans unused)
    constructor
    · exact ⟨p, by simp [Record.get_set_other _ _ different, known]⟩
    · simpa [Record.get_set_other _ _ different] using held.attempt
  case taskExecutionTransitionV1 attempt dispatch =>
    obtain ⟨_, a, next, -, stored, absent, -, dispatched, rfl⟩ := transition_ok accepted
    suffices own : AttemptReference.key attempt = key → cancelling next.state = true from
      held.of_set rfl rfl own
    intro hit
    obtain ⟨current, found, standing⟩ := held.attempt
    obtain rfl := Option.some.inj ((hit ▸ stored).symm.trans found)
    have kept := dispatch_cancels dispatched standing absent
    cases again : readopts a dispatch with
    | false => rw [kept, again]; rfl
    | true => exact absurd ⟨attempt, dispatch, a, payload, hit, found, again⟩ allowed
  case taskExecutionReceiptV1 attempt receipt =>
    obtain ⟨_, a, _, -, stored, -, -, -, -, -, ⟨rfl, -⟩ | ⟨-, next, dispatched, rfl⟩⟩ :=
      receipt_ok accepted
    · exact held
    · suffices own : AttemptReference.key attempt = key → cancelling next.state = true from
        held.of_set rfl rfl own
      intro hit
      obtain ⟨current, found, standing⟩ := held.attempt
      obtain rfl := Option.some.inj ((hit ▸ stored).symm.trans found)
      exact dispatch_cancels dispatched standing (by simp)
  case taskExecutionAbortedV1 attempt reasonCode clock =>
    obtain ⟨_, a, -, -, -, -, rfl⟩ := aborted_ok accepted
    exact held.of_set rfl rfl (fun _ => rfl)
  -- The other events leave the attempts alone.
  case taskCreatedV2 contract =>
    have frame := add_contract_frame accepted
    exact held.of_same frame.prepared frame.attempts
  case taskActivatedV1 taskId =>
    obtain ⟨-, rfl⟩ := activated_ok accepted
    exact held.of_same rfl rfl
  case dependencyAddedV1 edge =>
    obtain ⟨-, -, -, rfl⟩ := dependency_added_ok accepted
    exact held.of_same rfl rfl
  case taskResolvedV2 resolution clock =>
    obtain ⟨_, _, -, -, -, -, rfl⟩ := resolved_ok accepted
    exact held.of_same rfl rfl
  case taskPlanProposedV1 plannerTaskId plan =>
    have frame := (proposed_frame accepted).attemptFrame
    exact held.of_same frame.prepared frame.attempts
  case taskPlanRevisedV1 basePlanDigest plan =>
    have frame := (revised_frame accepted).attemptFrame
    exact held.of_same frame.prepared frame.attempts
  case taskPlanRejectedV1 taskId plannerTaskId reasonCode =>
    have frame := (rejected_frame accepted).attemptFrame
    exact held.of_same frame.prepared frame.attempts
  case taskPlanAdoptedV1 taskId planDigest =>
    obtain rfl | ⟨plan, adoption, grown, -, -, -, -, -, added, -, rfl⟩ := adopted_ok accepted
    · exact held.of_same rfl rfl
    · have frame := add_contracts_frame adoption.contracts added
      exact held.of_same frame.prepared frame.attempts
  case taskWorkflowStartedV1 authorization =>
    obtain ⟨-, -, rfl⟩ := started_ok accepted
    exact held.of_same rfl rfl
  case taskWorkflowPlanBoundV1 workflowId planDigest graphDigest =>
    obtain ⟨_, -, -, -, -, rfl⟩ := plan_bound_ok accepted
    exact held.of_same rfl rfl
  case taskWorkflowStoppedV1 workflowId ended reasonCode =>
    obtain ⟨_, -, -, rfl⟩ := stopped_ok accepted
    exact held.of_same rfl rfl

theorem readopted_forgets {key : JsString} {input : TaskExecutionEventV1 × Nat}
    (accepted : executionStep s input = .ok after) (held : Held key s)
    (again : Readopts key s input) : ¬ Held key after := by
  obtain ⟨attempt, dispatch, a, payload, rfl, found, again⟩ := again
  obtain ⟨current, stored, standing⟩ := held.attempt
  obtain rfl := Option.some.inj (found.symm.trans stored)
  obtain ⟨-, accepted⟩ := check_ok_iff.mp accepted
  rw [payload] at accepted
  obtain ⟨_, old, next, -, before, absent, -, dispatched, rfl⟩ := transition_ok accepted
  obtain rfl := Option.some.inj (before.symm.trans found)
  intro still
  obtain ⟨last, now, forgotten⟩ := still.attempt
  obtain rfl : next = last := by simpa using now
  rw [dispatch_cancels dispatched standing absent, again] at forgotten
  cases forgotten

-- An accepted event keeps a cancellation exactly if it does not take up the operation.
theorem held_step_iff {key : JsString} {input : TaskExecutionEventV1 × Nat}
    (accepted : executionStep s input = .ok after) (held : Held key s) :
    Held key after ↔ ¬ Readopts key s input :=
  ⟨fun still again => readopted_forgets accepted held again still, held_step accepted held⟩

theorem requested_held {workspaceId runId : JsString} {attempt : AttemptReference} {sequence : Nat}
    (accepted : executionStep s (⟨workspaceId, runId,
      .taskExecutionTransitionV1 attempt .requestCancel⟩, sequence) = .ok after) :
    Held (AttemptReference.key attempt) after := by
  obtain ⟨-, accepted⟩ := check_ok_iff.mp accepted
  obtain ⟨p, a, next, known, -, -, -, dispatched, rfl⟩ := transition_ok accepted
  exact ⟨⟨p, known⟩, next, by simp, request_cancels dispatched⟩

/-- A cancellation that was requested in some run is not forgotten in any state reached
after it without taking up the attempt's operation again. -/
theorem cancellation_kept {final : TaskExecutionProjectionV1} {workspaceId runId : JsString}
    {attempt : AttemptReference} {sequence : Nat} (reached : Reachable s)
    (requested : executionStep s (⟨workspaceId, runId,
      .taskExecutionTransitionV1 attempt .requestCancel⟩, sequence) = .ok after)
    (later : Reaches executionStep
      (fun state input => ¬ Readopts (AttemptReference.key attempt) state input) after final) :
    Reachable final ∧ ∃ a, final.attempts.get (AttemptReference.key attempt) = some a ∧
      cancelling a.state = true := by
  constructor
  · exact reaches_trans (.next _ reached trivial requested)
      (reaches_weaken (fun _ _ _ => trivial) later)
  · exact (reaches_invariant (Held (AttemptReference.key attempt)) (requested_held requested)
      (fun _ _ _ _ held allowed accepted => (held_step_iff accepted held).mpr allowed) later).attempt

end Runs

section Recorded

attribute [local instance] recordedEngine

def launchedPayloads : Except DomainError (List TaskExecutionPayloadV1) := do
  let prepared ← samplePrepared (js "t") (js "a") 1 []
  return [.taskCreatedV2 (sampleTask (js "t")), .taskActivatedV1 (js "t"),
    .taskExecutionPreparedV1 prepared,
    .taskExecutionTransitionV1 (sampleReference prepared) .commitLaunchIntent]

def launchedAttempt : AttemptReference :=
  finalOf ⟨[], [], 0, []⟩ (do return sampleReference (← samplePrepared (js "t") (js "a") 1 []))

def dispatchEvent (input : DispatchInputV1) : TaskExecutionEventV1 × Nat :=
  (⟨js "w", js "r", .taskExecutionTransitionV1 launchedAttempt input⟩, 1)

def cancelRun (allowed : RunGuard) (later : List DispatchInputV1) : Except DomainError
    (TaskExecutionProjectionV1 × TaskExecutionProjectionV1 × TaskExecutionProjectionV1) := do
  let before ← sampleRun anything launchedPayloads
  let after ← executionStep before (dispatchEvent .requestCancel)
  let final ← (later.map dispatchEvent).foldlM
    (guardedStep executionStep allowed .executionInvalid) after
  return (before, after, final)

def endsAs (state : DispatchState) (run : TaskExecutionProjectionV1 × TaskExecutionProjectionV1 ×
    TaskExecutionProjectionV1) : Bool :=
  (run.2.2.attempts.get (AttemptReference.key launchedAttempt)).any (fun a => a.state = state)

theorem cancel_run_reaches {allowed : RunGuard} {later : List DispatchInputV1}
    {state : DispatchState} (ended : endsIn (endsAs state) (cancelRun allowed later) = true) :
    ∃ before after final, Reachable before ∧
      executionStep before (dispatchEvent .requestCancel) = .ok after ∧
      Reaches executionStep (fun s input => allowed s input = true) after final ∧
      ∃ a, final.attempts.get (AttemptReference.key launchedAttempt) = some a ∧
        a.state = state := by
  obtain ⟨run, completed, passed⟩ := ends_in_exists ended
  obtain ⟨before, launched, rest⟩ := bind_ok_iff.mp completed
  obtain ⟨after, requested, rest⟩ := bind_ok_iff.mp rest
  obtain ⟨final, followed, rest⟩ := bind_ok_iff.mp rest
  obtain rfl := (pure_ok_iff _ _).mp rest
  obtain ⟨listed, -, folded⟩ := bind_ok_iff.mp launched
  have reached := reaches_weaken (fun _ _ _ => trivial)
    (guarded_reaches (sampleEvents listed) _ _ folded)
  have later := guarded_reaches _ _ _ followed
  refine ⟨before, after, final, reached, requested, later, ?_⟩
  obtain ⟨a, stored, same⟩ := (Option.any_eq_true _ _).mp passed
  exact ⟨a, stored, by simpa using same⟩

def sparing : RunGuard := fun state input =>
  match input.1.payload with
  | .taskExecutionTransitionV1 attempt dispatch =>
      (state.attempts.get (AttemptReference.key attempt)).all (fun a => !readopts a dispatch)
  | _ => true

theorem sparing_spares {key : JsString} {s : TaskExecutionProjectionV1}
    {input : TaskExecutionEventV1 × Nat} (spared : sparing s input = true) :
    ¬ Readopts key s input := by
  rintro ⟨attempt, dispatch, a, payload, rfl, stored, again⟩
  simp [sparing, payload, stored, again] at spared

/-- A run that takes the operation up again, and one that does not. -/
instance cancel_runs_end : Fact
    (endsIn (endsAs .providerHandleRecorded) (cancelRun anything
      [.requireReconciliation, .reconcileFound (js "op")]) = true ∧
    endsIn (endsAs .unknownOutcome) (cancelRun sparing [.recordHandle (js "op"),
      .cancelHandedOff, .requireReconciliation, .reconcileAmbiguous]) = true) where
  out := by
    constructor
    · decide +kernel
    · decide +kernel

/-- A reconciliation after the request finds the operation: the attempt runs on as if no
one had cancelled it. -/
theorem cancellation_forgotten :
    ∃ (before after final : TaskExecutionProjectionV1) (attempt : AttemptReference),
      Reachable before ∧
      executionStep before (⟨js "w", js "r", .taskExecutionTransitionV1 attempt .requestCancel⟩, 1) =
        .ok after ∧
      Reaches executionStep (fun _ _ => True) after final ∧
      ∃ a, final.attempts.get (AttemptReference.key attempt) = some a ∧
        a.state = .providerHandleRecorded := by
  obtain ⟨before, after, final, reached, requested, later, a, stored, state⟩ :=
    cancel_run_reaches cancel_runs_end.out.1
  exact ⟨before, after, final, launchedAttempt, reached, requested,
    reaches_weaken (fun _ _ _ => trivial) later, a, stored, state⟩

theorem cancellation_kept_ambiguous :
    ∃ final, Reachable final ∧
      ∃ a, final.attempts.get (AttemptReference.key launchedAttempt) = some a ∧
        cancelling a.state = true := by
  obtain ⟨before, after, final, reached, requested, later, -⟩ :=
    cancel_run_reaches cancel_runs_end.out.2
  exact ⟨final, cancellation_kept reached requested
    (reaches_weaken (fun _ _ spared => sparing_spares spared) later)⟩

end Recorded

end Horseness.CancelledAttempts
