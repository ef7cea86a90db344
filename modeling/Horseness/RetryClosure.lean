import Horseness.ReceiptOperations

/-!
Retries and the end of a task. A permission to retry a failed generation is not used up by the
generation that follows, so it keeps the task open until it is withdrawn.
-/

namespace Horseness.RetryClosure

open FallibleRuns Records ScriptText ScriptEngine PlainObjects Tasks BoundAttempts LeaseFences
  DispatchRecords ReceiptProjection ReceiptArbitration ReceiptOperations

/-- Every registered generation is terminal and has an outcome. -/
structure Closed (state : AttemptReceiptProjectionV1) : Prop where
  ended : ∀ key generation, state.generations.get key = some generation →
    isTerminal generation.state = true
  recorded : ∀ key generation, state.generations.get key = some generation →
    (state.outcomes.get key).isSome = true

/-- Something was registered, and no failed generation is still to be retried. -/
structure Spent (state : AttemptReceiptProjectionV1) : Prop where
  registered : state.generations.entries ≠ []
  retried : retryPending state = false

def Unsuccessful (state : AttemptReceiptProjectionV1) : Prop :=
  ∀ key item, state.outcomes.get key = some item → item.outcome ≠ .succeeded

def PermissionsUsed (state : AttemptReceiptProjectionV1) : Prop :=
  ∀ generation ∈ state.retryPermittedGenerations, ∀ item,
    state.outcomes.get generation = some item → item.outcome = .failed →
      ∃ later, generation < later ∧ (state.generations.get later).isSome = true

section Resolutions

variable [Engine] {state projected : AttemptReceiptProjectionV1} {eventSequence : Nat}

def retryCall (_ : AttemptReceiptProjectionV1) : ProjectionCall → Prop
  | .applyStoredCancellation _ _ => False
  | _ => True

def coherentRetryCall (state : AttemptReceiptProjectionV1) (call : ProjectionCall) : Prop :=
  Coherent state call ∧ retryCall state call

omit [Engine] in
theorem terminal_iff : state.generations.values.any (fun item => !isTerminal item.state) = false ↔
    ∀ key generation, state.generations.get key = some generation →
      isTerminal generation.state = true := by
  rw [List.any_eq_false]
  constructor
  · intro each key generation found
    simpa using each generation ((Record.mem_values_iff _ _).mpr ⟨key, found⟩)
  · intro each generation listed
    rcases (Record.mem_values_iff _ _).mp listed with ⟨key, found⟩
    simpa using each key generation found

theorem resolved_decides {resolution : TaskResolution} {winner : Option Nat}
    (known : truthy state.taskId = true)
    (written : resolved state resolution winner eventSequence = .ok projected) :
    projected.resolution ≠ none := by
  rcases resolved_ok known written with ⟨decided, _, _, rfl⟩
  exact Option.some_ne_none decided

-- A projection that stays open at its end is empty, or to be retried.
theorem resolve_waits (known : truthy state.taskId = true)
    (done : resolve state eventSequence = .ok projected) (waiting : projected.resolution = none)
    (closed : Closed state) : ¬ Spent state := by
  rintro ⟨registered, retried⟩
  unfold resolve at done
  split at done
  · next decided =>
      rw [← Except.ok.inj done] at waiting
      rw [waiting] at decided
      cases decided
  · split at done
    · exact resolved_decides known done waiting
    · exact resolved_decides known done waiting
    · rw [terminal_iff.mpr closed.ended, retried, if_neg (by simpa using registered)] at done
      split at done
      · exact resolved_decides known done waiting
      · exact resolved_decides known done waiting

-- What is resolved without a success or a cancellation is at its end.
theorem resolve_ends (waiting : state.resolution = none) (unsuccessful : Unsuccessful state)
    (uncancelled : state.explicitCancellationEventSequence = none)
    (done : resolve state eventSequence = .ok projected) (decided : projected.resolution ≠ none) :
    Spent state ∧ ∀ key generation, state.generations.get key = some generation →
      isTerminal generation.state = true := by
  have unwon : firstOutcome state .succeeded = none := by
    by_contra won
    rcases Option.ne_none_iff_exists'.mp won with ⟨winner, chosen⟩
    rcases first_outcome_some chosen with ⟨first, ⟨listed, succeeded, _⟩, _⟩
    rcases (Record.mem_values_iff _ _).mp listed with ⟨key, found⟩
    exact unsuccessful key first found succeeded
  unfold resolve at done
  rw [if_neg (by simp [waiting]), unwon, uncancelled] at done
  dsimp only at done
  split at done
  · rw [← Except.ok.inj done, waiting] at decided
    exact absurd rfl decided
  · next ended =>
      rw [not_or, not_or, Bool.not_eq_true, Bool.not_eq_true] at ended
      exact ⟨⟨ended.1, ended.2.2⟩, terminal_iff.mp ended.2.1⟩

end Resolutions

section Steps

variable [Engine] {state projected : AttemptReceiptProjectionV1} {call : ProjectionCall}

omit [Engine] in
theorem spent_iff (resolves : Resolves state projected) : Spent projected ↔ Spent state := by
  have pending : retryPending projected = retryPending state := by
    rw [retryPending, retryPending, resolves.permitted, resolves.outcomes]
  constructor
  · rintro ⟨registered, retried⟩
    exact ⟨resolves.generations ▸ registered, pending ▸ retried⟩
  · rintro ⟨registered, retried⟩
    exact ⟨resolves.generations ▸ registered, pending ▸ retried⟩

omit [Engine] in
theorem closed_iff (resolves : Resolves state projected) : Closed projected ↔ Closed state := by
  constructor
  · rintro ⟨ended, recorded⟩
    rw [resolves.generations] at ended recorded
    rw [resolves.outcomes] at recorded
    exact ⟨ended, recorded⟩
  · rintro ⟨ended, recorded⟩
    rw [← resolves.generations] at ended recorded
    rw [← resolves.outcomes] at recorded
    exact ⟨ended, recorded⟩

omit [Engine] in
theorem closed_known (ordered : Ordered state) (closed : Closed state)
    (registered : state.generations.entries ≠ []) : truthy state.taskId = true := by
  rcases List.exists_cons_of_ne_nil registered with ⟨⟨key, generation⟩, rest, shape⟩
  have member : (key, generation) ∈ state.generations.entries := shape ▸ List.mem_cons_self
  have stored := (Record.mem_entries_iff _ _ _).mp member
  rcases Option.isSome_iff_exists.mp (closed.recorded key generation stored) with ⟨item, found⟩
  exact ordered.known key item found

/-- What holds on the way of a task that was not cancelled. -/
structure Waiting (state : AttemptReceiptProjectionV1) : Prop where
  uncancelled : state.explicitCancellationEventSequence = none
  waits : state.resolution = none → Closed state → ¬ Spent state

-- The step lemma: what stays open at its end is empty, or to be retried.
theorem waiting_step (ordered : Ordered state) (consistent : Consistent state)
    (waiting : Waiting state) (allowed : coherentRetryCall state call)
    (effect : CallEffect state call projected) : Waiting projected := by
  cases effect with
  | registered generation =>
      refine ⟨waiting.uncancelled, fun open' closed spent => ?_⟩
      have recorded : ∀ key held, state.generations.get key = some held →
          (state.outcomes.get key).isSome = true := by
        intro key held stored
        have present := stored_present (Option.isSome_iff_exists.mpr ⟨held, stored⟩) generation
        rcases Option.isSome_iff_exists.mp present with ⟨later, found⟩
        exact closed.recorded key later found
      refine waiting.waits open' ⟨fun key held stored => ?_, recorded⟩ ⟨?_, spent.retried⟩
      · rcases Option.isSome_iff_exists.mp (recorded key held stored) with ⟨item, found⟩
        rcases consistent key item found with ⟨same, known, settled, _⟩
        rw [Option.some.inj (stored.symm.trans known), settled]
        rfl
      · -- the registered generation has an outcome, so it was there before
        have again := closed.recorded generation.generation generation (Record.get_set_same _ _ _)
        rcases Option.isSome_iff_exists.mp again with ⟨item, found⟩
        rcases Option.isSome_iff_exists.mp (ordered.registered _ item found) with ⟨held, stored⟩
        exact List.ne_nil_of_mem ((Record.mem_entries_iff _ _ _).mpr stored)
  | noted call codes _ =>
      exact ⟨waiting.uncancelled, fun open' closed spent => waiting.waits open'
        ⟨closed.ended, closed.recorded⟩ ⟨spent.registered, spent.retried⟩⟩
  | found event authority held code codes fresh stored skipped =>
      refine ⟨waiting.uncancelled, fun _ closed _ => ?_⟩
      have here : (finding held code).generation = event.receipt.generation :=
        (AttemptSteps.advances_finding held code).generation.trans (ordered.named _ _ stored)
      have recorded := closed.recorded _ (finding held code) (Record.get_set_same _ _ _)
      rw [here, fresh] at recorded
      cases recorded
  | settled event authority held reduced item after unresolved fresh stored identity ended sequence
      outcome recorded resolves =>
      have same := resolve_resolves resolves
      refine ⟨same.cancelled.trans waiting.uncancelled, fun open' closed spent => ?_⟩
      exact resolve_waits (receipt_known event) resolves open' ((closed_iff same).mp closed)
        ((spent_iff same).mp spent)
  | decided reader capability after present resolves =>
      have same := resolve_resolves resolves
      refine ⟨same.cancelled.trans waiting.uncancelled, fun open' closed spent => ?_⟩
      have middle := (closed_iff same).mp closed
      have unspent := (spent_iff same).mp spent
      have known := closed_known ordered ⟨middle.ended, middle.recorded⟩ unspent.registered
      rcases known_task known with ⟨taskId, given⟩
      have named : truthy (some (state.taskId.getD capability.taskId)) = true := by
        rw [given] at known ⊢
        exact known
      exact resolve_waits named resolves open' middle unspent
  | cancelled reader capability after unresolved present resolves => exact absurd allowed.2 id

-- A call that resolves the task without a success finds it at its end.
theorem closing_step (waiting : Waiting state) (allowed : coherentRetryCall state call)
    (unsuccessful : Unsuccessful projected) (open' : state.resolution = none)
    (effect : CallEffect state call projected) (decided : projected.resolution ≠ none) :
    Spent projected ∧ ∀ key generation, projected.generations.get key = some generation →
      isTerminal generation.state = true := by
  have ends {middle after : AttemptReceiptProjectionV1} {eventSequence : Nat}
      (resolves : resolve middle eventSequence = .ok after) (unresolved : middle.resolution = none)
      (uncancelled : middle.explicitCancellationEventSequence = none)
      (unsuccessful : Unsuccessful after) (decided : after.resolution ≠ none) :
      Spent after ∧ ∀ key generation, after.generations.get key = some generation →
        isTerminal generation.state = true := by
    have same := resolve_resolves resolves
    have failed : Unsuccessful middle := by
      rw [Unsuccessful, ← same.outcomes]
      exact unsuccessful
    rcases resolve_ends unresolved failed uncancelled resolves decided with ⟨spent, ended⟩
    refine ⟨(spent_iff same).mpr spent, ?_⟩
    rw [same.generations]
    exact ended
  cases effect with
  | registered _ => exact absurd open' decided
  | noted _ _ _ => exact absurd open' decided
  | found _ _ _ _ _ _ _ _ => exact absurd open' decided
  | settled event authority held reduced item after unresolved fresh stored identity ended sequence
      outcome recorded resolves =>
      exact ends resolves unresolved waiting.uncancelled unsuccessful decided
  | decided reader capability after present resolves =>
      exact ends resolves open' waiting.uncancelled unsuccessful decided
  | cancelled _ _ _ _ _ _ => exact absurd allowed.2 id

theorem generation_kept (effect : CallEffect state call projected) {key : Nat}
    (present : (state.generations.get key).isSome = true) :
    (projected.generations.get key).isSome = true := by
  cases effect with
  | registered generation => exact stored_present present generation
  | noted _ _ _ => exact present
  | found _ _ held code _ _ _ _ => exact stored_present present (finding held code)
  | settled _ _ _ reduced _ _ _ _ _ _ _ _ _ _ resolves =>
      rw [(resolve_resolves resolves).generations]
      exact stored_present present reduced
  | decided _ _ _ _ resolves =>
      rw [(resolve_resolves resolves).generations]
      exact present
  | cancelled _ _ _ _ _ resolves =>
      rw [(resolve_resolves resolves).generations]
      exact present

theorem resolved_outcomes (effect : CallEffect state call projected)
    (decided : state.resolution ≠ none) : projected.outcomes = state.outcomes := by
  cases effect with
  | registered _ => rfl
  | noted _ _ _ => rfl
  | found _ _ _ _ _ _ _ _ => rfl
  | settled _ _ _ _ _ _ waiting => exact absurd waiting decided
  | decided _ _ _ _ resolves => exact (resolve_resolves resolves).outcomes
  | cancelled _ _ _ waiting => exact absurd waiting decided

end Steps

section Runs

variable [Engine] {start state : AttemptReceiptProjectionV1}

theorem reached_waiting (ordered : Ordered start) (consistent : Consistent start)
    (waiting : Waiting start) (reached : Reaches perform coherentRetryCall start state) :
    Waiting state :=
  reaches_invariant Waiting waiting (fun before call after reached held allowed accepted => by
    have coherent := reaches_weaken (fun _ _ both => both.1) reached
    exact waiting_step (reached_ordered ordered reached)
      (reached_consistent ordered consistent coherent) held allowed (call_effect accepted)) reached

-- What comes after the resolution: the same outcomes, and no generation less.
theorem reached_resolved {allow : AttemptReceiptProjectionV1 → ProjectionCall → Prop}
    (reached : Reaches perform allow start state) (decided : start.resolution ≠ none) :
    state.resolution ≠ none ∧ state.outcomes = start.outcomes ∧
      ∀ key, (start.generations.get key).isSome = true →
        (state.generations.get key).isSome = true := by
  induction reached with
  | start => exact ⟨decided, rfl, fun _ => id⟩
  | next call _ _ accepted ih =>
      have effect := call_effect accepted
      refine ⟨?_, (resolved_outcomes effect ih.1).trans ih.2.1, fun key present =>
        generation_kept effect (ih.2.2 key present)⟩
      rcases Option.ne_none_iff_exists'.mp ih.1 with ⟨resolution, found⟩
      rw [resolution_kept effect found]
      exact Option.some_ne_none resolution

/-- A task whose generations are all at their end without a success is resolved just where there was
a time at which they were and no failed one was still to be retried. -/
theorem retries_close_iff {attemptId : JsString} {start : AttemptReceiptProjectionV1}
    (begun : emptyReceiptProjection attemptId = .ok start) (state : AttemptReceiptProjectionV1)
    (reached : Reaches perform coherentRetryCall start state) (closed : Closed state)
    (unsuccessful : Unsuccessful state) :
    state.resolution ≠ none ↔ ∃ middle, Reaches perform coherentRetryCall start middle ∧
      Reaches perform coherentRetryCall middle state ∧ Closed middle ∧ Spent middle := by
  rcases empty_consistent begun with ⟨ordered, consistent⟩
  have waiting : Waiting start := by
    simp only [emptyReceiptProjection, bind_ok_iff, ensure_ok_iff, pure_ok_iff] at begun
    rcases begun with ⟨_, _, rfl⟩
    exact ⟨rfl, fun _ _ spent => spent.registered rfl⟩
  have unresolved : start.resolution = none := by
    simp only [emptyReceiptProjection, bind_ok_iff, ensure_ok_iff, pure_ok_iff] at begun
    rcases begun with ⟨_, _, rfl⟩
    rfl
  constructor
  · intro decided
    rcases reaches_origin (fun state => state.resolution ≠ none) (not_not.mpr unresolved) reached
      decided with ⟨before, call, after, front, open', allowed, accepted, resolved, back⟩
    have effect := call_effect accepted
    rcases reached_resolved back resolved with ⟨_, outcomes, present⟩
    have failed : Unsuccessful after := by
      rw [Unsuccessful, ← outcomes]
      exact unsuccessful
    rcases closing_step (reached_waiting ordered consistent waiting front) allowed failed
      (not_not.mp open') effect resolved with ⟨spent, ended⟩
    refine ⟨after, front.next call allowed accepted, back, ⟨ended, fun key generation stored => ?_⟩,
      spent⟩
    -- what is registered then has its outcome at the end, and no outcome is recorded in between
    rcases Option.isSome_iff_exists.mp (present key (Option.isSome_iff_exists.mpr ⟨_, stored⟩)) with
      ⟨later, found⟩
    rw [← outcomes]
    exact closed.recorded key later found
  · rintro ⟨middle, front, back, ended, spent⟩
    have decided : middle.resolution ≠ none := fun open' =>
      (reached_waiting ordered consistent waiting front).waits open' ended spent
    exact (reached_resolved back decided).1

end Runs

section Recorded

attribute [local instance] leaseEngine

instance : (state : AttemptReceiptProjectionV1) → (call : ProjectionCall) →
    Decidable (retryCall state call)
  | _, .registerReceiptGeneration _ => inferInstanceAs (Decidable True)
  | _, .projectAuthenticatedReceipt _ _ => inferInstanceAs (Decidable True)
  | _, .applyStoredRetryDecision _ _ => inferInstanceAs (Decidable True)
  | _, .applyStoredCancellation _ _ => inferInstanceAs (Decidable False)

instance (state : AttemptReceiptProjectionV1) (call : ProjectionCall) :
    Decidable (coherentRetryCall state call) := inferInstanceAs (Decidable (_ ∧ _))

def closedCheck (state : AttemptReceiptProjectionV1) : Bool :=
  state.generations.entries.all fun (key, generation) =>
    isTerminal generation.state && (state.outcomes.get key).isSome

def unsuccessfulCheck (state : AttemptReceiptProjectionV1) : Bool :=
  state.outcomes.values.all fun item => item.outcome ≠ .succeeded

def usedCheck (state : AttemptReceiptProjectionV1) : Bool :=
  state.retryPermittedGenerations.all fun generation =>
    (state.generations.get (generation + 1)).isSome

theorem closed_checked {state : AttemptReceiptProjectionV1} (checked : closedCheck state = true) :
    Closed state := by
  rw [closedCheck, List.all_eq_true] at checked
  have each : ∀ key generation, state.generations.get key = some generation →
      isTerminal generation.state = true ∧ (state.outcomes.get key).isSome = true := by
    intro key generation stored
    have both := checked _ ((Record.mem_entries_iff _ _ _).mpr stored)
    rwa [Bool.and_eq_true] at both
  exact ⟨fun key generation stored => (each key generation stored).1,
    fun key generation stored => (each key generation stored).2⟩

theorem unsuccessful_checked {state : AttemptReceiptProjectionV1}
    (checked : unsuccessfulCheck state = true) : Unsuccessful state := by
  rw [unsuccessfulCheck, List.all_eq_true] at checked
  intro key item found
  exact of_decide_eq_true (checked item ((Record.mem_values_iff _ _).mpr ⟨key, found⟩))

theorem used_checked {state : AttemptReceiptProjectionV1} (checked : usedCheck state = true) :
    PermissionsUsed state := by
  rw [usedCheck, List.all_eq_true] at checked
  exact fun generation member _ _ _ => ⟨generation + 1, Nat.lt_succ_self _, checked generation member⟩

def retriedRun : Except DispatchError ProjectionRun := projectionRun fun record => do
  let first ← failure record 1
  let second ← failure record 2
  let permission : VerifiedRetryDecisionV1 :=
    { workspaceId := js "w"
      runId := js "r"
      taskId := js "t"
      attemptId := record.core.attemptId
      generation := 1
      decision := .permitted
      eventSequence := 2
      cursor := RecordedRuns.sampleCursor }
  return [running record 1,
    .applyStoredRetryDecision ⟨fun _ _ => some RecordedRuns.sampleCursor⟩ permission, first,
    running record 2, second]

def failedRun : Except DispatchError ProjectionRun := projectionRun fun record => do
  let first ← failure record 1
  return [running record 1, first]

instance retry_runs_shown : Fact (endsIn (fun run => run.shows (fun state call => decide (coherentRetryCall state call))
      fun state => closedCheck state && unsuccessfulCheck state && usedCheck state &&
        !state.generations.entries.isEmpty && state.resolution.isNone) retriedRun = true ∧
    endsIn (fun run => run.shows (fun state call => decide (coherentRetryCall state call))
      fun state => closedCheck state && unsuccessfulCheck state && state.resolution.isSome)
        failedRun = true) := ⟨by decide +kernel⟩

/-- A permission that was used keeps the task from being declared failed. -/
theorem used_permission_open : ¬ ∀ (attemptId : JsString) (start state : AttemptReceiptProjectionV1),
    emptyReceiptProjection attemptId = .ok start → Reaches perform retryCall start state →
      state.generations.entries ≠ [] → Closed state → Unsuccessful state → PermissionsUsed state →
        state.resolution ≠ none := by
  intro claim
  rcases ends_in_exists retry_runs_shown.out.1 with ⟨run, _, shown⟩
  rcases ends_in_exists shown with ⟨state, done, facts⟩
  simp only [Bool.and_eq_true, Option.isNone_iff_eq_none] at facts
  rcases facts with ⟨⟨⟨⟨closed, unsuccessful⟩, used⟩, registered⟩, open'⟩
  have reached := reaches_weaken (fun _ _ allowed => (of_decide_eq_true allowed).2)
    (guarded_reaches run.calls _ _ done)
  refine claim _ _ state run.begun reached ?_ (closed_checked closed)
    (unsuccessful_checked unsuccessful) (used_checked used) open'
  intro empty
  rw [empty] at registered
  cases registered

/-- A failed generation that is not to be retried fails its task. -/
theorem failed_closes : ∃ (start state middle : AttemptReceiptProjectionV1),
    state.resolution ≠ none ∧ Reaches perform coherentRetryCall start middle ∧ Spent middle := by
  rcases ends_in_exists retry_runs_shown.out.2 with ⟨run, _, shown⟩
  rcases ends_in_exists shown with ⟨state, done, facts⟩
  simp only [Bool.and_eq_true] at facts
  rcases facts with ⟨⟨closed, unsuccessful⟩, decided⟩
  have reached := reaches_weaken (fun _ _ => of_decide_eq_true)
    (guarded_reaches run.calls _ _ done)
  have resolved := Option.isSome_iff_ne_none.mp decided
  rcases (retries_close_iff run.begun state reached (closed_checked closed)
    (unsuccessful_checked unsuccessful)).mp resolved with ⟨middle, front, _, _, spent⟩
  exact ⟨run.start, state, middle, resolved, front, spent⟩

end Recorded

end Horseness.RetryClosure
