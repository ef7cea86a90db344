import Horseness.Scheduling
import Horseness.Settlement

/-!
A task whose attempts have all ended can be resolved, provided that no two of its
attempts share a generation. Preparation only keeps the pair of attempt id and
generation apart, so two attempts under different ids may share one, and then the
task can never be resolved.
-/

namespace Horseness.Resolvable

open FallibleRuns Records ScriptText JsonValues PlainObjects ScriptEngine Canonical Cursors
  ForkContext Tasks AttemptReceipts TaskPlans ExecutionEvents Execution ExecutionSteps AttemptSteps
  Evidence Scheduling RecordedRuns

section Arbitration

/-- What a resolution of ended attempts is made of. -/
structure DrawnFrom (input : ResolveInput) (r : TaskResolutionV1) : Prop where
  taskId : r.taskId = input.taskId
  retryPolicyDigest : r.retryPolicyDigest = input.retryPolicyDigest
  observationCursor : r.observationCursor = input.observationCursor
  reason : ∃ reason : ArbitrationReason, r.arbitrationReason = reason.text
  considered : ∀ item ∈ r.consideredGenerationOutcomes, ∃ a ∈ input.generations,
    terminalOutcome a = some item
  winner : ∀ generation, r.winningGeneration = some generation → ∃ a ∈ input.generations,
    a.generation = generation

theorem earliest_mem {input : ResolveInput} {first : GenerationOutcomeV1}
    {rest : List GenerationOutcomeV1}
    (chosen : ((List.filterMap terminalOutcome (List.insertionSort
      (fun left right => left.generation ≤ right.generation) input.generations)).filter
        (fun item => item.outcome = .succeeded)).insertionSort earlier = first :: rest) :
    ∃ a ∈ input.generations, a.generation = first.generation := by
  have member : first ∈ first :: rest := List.mem_cons_self
  rw [← chosen, List.mem_insertionSort, List.mem_filter, List.mem_filterMap] at member
  obtain ⟨⟨a, listed, ended⟩, -⟩ := member
  exact ⟨a, (List.mem_insertionSort _).mp listed, (terminal_outcome_some ended).2.2⟩

theorem resolve_total {input : ResolveInput}
    (unique : (input.generations.map AttemptGenerationStateV1.generation).Nodup)
    (positive : ∀ a ∈ input.generations, 1 ≤ a.generation) :
    ∃ result, resolveTask input = .ok result := by
  have sorted := (List.perm_insertionSort
    (fun left right : AttemptGenerationStateV1 => left.generation ≤ right.generation)
    input.generations)
  simp only [resolveTask]
  rw [ensure_true _ ⟨(sorted.map _).nodup_iff.mpr unique,
    fun a member => positive a (sorted.mem_iff.mp member)⟩, ok_bind]
  split
  · exact ⟨_, rfl⟩
  · split
    · exact ⟨_, rfl⟩
    · split
      · exact ⟨_, rfl⟩
      · exact ⟨_, rfl⟩

theorem resolve_refused {input : ResolveInput}
    (shared : ¬ (input.generations.map AttemptGenerationStateV1.generation).Nodup) :
    resolveTask input = .error .invalidAttemptGeneration := by
  have sorted := (List.perm_insertionSort
    (fun left right : AttemptGenerationStateV1 => left.generation ≤ right.generation)
    input.generations)
  have invalid : ¬ ((input.generations.insertionSort
        (fun left right => left.generation ≤ right.generation)).map
          AttemptGenerationStateV1.generation).Nodup :=
    fun unique => shared ((sorted.map _).nodup_iff.mp unique)
  simp [resolveTask, ensure, invalid, bind, Except.bind]

-- Ended attempts give a resolution, and asking again for what it says gives it again.
theorem resolve_ended {input : ResolveInput}
    (unique : (input.generations.map AttemptGenerationStateV1.generation).Nodup)
    (positive : ∀ a ∈ input.generations, 1 ≤ a.generation)
    (ended : ∀ a ∈ input.generations, isTerminal a.state = true)
    (final : input.retryPermitted = false) :
    ∃ r, resolveTask input = .ok (some r) ∧ DrawnFrom input r ∧
      resolveTask { input with cancellationRequested := decide (r.resolution = .cancelled) } =
        .ok (some r) := by
  have sorted := (List.perm_insertionSort
    (fun left right : AttemptGenerationStateV1 => left.generation ≤ right.generation)
    input.generations)
  have valid : ((input.generations.insertionSort
        (fun left right => left.generation ≤ right.generation)).map
          AttemptGenerationStateV1.generation).Nodup ∧
      ∀ a ∈ input.generations.insertionSort (fun left right => left.generation ≤ right.generation),
        1 ≤ a.generation :=
    ⟨(sorted.map _).nodup_iff.mpr unique, fun a member => positive a (sorted.mem_iff.mp member)⟩
  have closed : (input.generations.insertionSort
      (fun left right => left.generation ≤ right.generation)).any
        (fun attempt => !isTerminal attempt.state) = false := by
    rw [List.any_eq_false]
    intro a member
    simp [ended a (sorted.mem_iff.mp member)]
  have considered : ∀ item ∈ (List.filterMap terminalOutcome (input.generations.insertionSort
      (fun left right => left.generation ≤ right.generation))).insertionSort
        (fun left right => left.generation ≤ right.generation), ∃ a ∈ input.generations,
          terminalOutcome a = some item := by
    intro item member
    obtain ⟨a, listed, outcome⟩ := List.mem_filterMap.mp ((List.mem_insertionSort _).mp member)
    exact ⟨a, sorted.mem_iff.mp listed, outcome⟩
  simp only [resolveTask]
  simp only [ensure_true _ valid, ok_bind]
  simp only [closed, final, Bool.or_self, Bool.false_eq_true, if_false]
  cases chosen : ((List.filterMap terminalOutcome (List.insertionSort
    (fun left right => left.generation ≤ right.generation) input.generations)).filter
      (fun item => item.outcome = .succeeded)).insertionSort earlier with
  | cons first rest =>
      refine ⟨_, rfl, ⟨rfl, rfl, rfl, ⟨.earliestTerminalSuccess, rfl⟩, considered, ?_⟩, rfl⟩
      intro generation same
      obtain rfl : first.generation = generation := Option.some.inj same
      exact earliest_mem chosen
  | nil =>
      cases cancelled : input.cancellationRequested with
      | true =>
          exact ⟨_, rfl, ⟨rfl, rfl, rfl, ⟨.explicitCancellation, rfl⟩, considered, by simp⟩, rfl⟩
      | false =>
          exact ⟨_, rfl, ⟨rfl, rfl, rfl, ⟨.allGenerationsTerminalNoSuccess, rfl⟩, considered,
            by simp⟩, rfl⟩

end Arbitration

section Preparations

/-- What a parsed preparation guarantees about its own names and numbers. -/
structure Presentable (p : TaskExecutionPreparedDataV1) : Prop where
  filled : blank p.taskId = false
  unicode : validUnicode p.taskId = true
  generation : 1 ≤ p.generation ∧ p.generation ≤ maxSafeInteger

theorem join_task_unicode [Engine] {core : DependencyJoinSnapshotCoreV1} {digest : JsString}
    (sealed : sealDependencyJoinSnapshot core = .ok digest) : validUnicode core.taskId = true := by
  simp only [sealDependencyJoinSnapshot, bind_ok_iff, ensure_ok_iff, digest_ok_iff] at sealed
  obtain ⟨_, -, valid, -⟩ := sealed
  rw [DependencyJoinSnapshotCoreV1.toJson, object, assert_obj_ok_iff] at valid
  have field := (valid.2 (js "taskId", .str core.taskId) (by simp)).2
  exact (assert_str_ok_iff core.taskId ()).mp field

theorem prepared_presentable [Engine] {workspaceId runId : JsString}
    {p : TaskExecutionPreparedDataV1} (parsed : parsePrepared workspaceId runId p = .ok ()) :
    Presentable p := by
  simp only [parsePrepared, bind_ok_iff, ensure_ok_iff] at parsed
  obtain ⟨_, texts, _, -, _, numbered, _, -, _, -, _, -, _, -, _, -, _, -, _, -, joinDigest, sealed,
    _, -, _, -, _, -, -, -, -, task, -⟩ := parsed
  refine ⟨?_, task ▸ join_task_unicode sealed, ?_⟩
  · have filled := (forM_ok_iff text _ _).mp texts p.taskId (by simp)
    simpa [text, textCheck] using filled
  · simpa [positive, positiveCheck] using numbered

end Preparations

section Runs

variable [Engine] {s after : TaskExecutionProjectionV1} {event : TaskExecutionEventV1}
  {sequence : Nat}

/-- The event has a position of a stream, and a preparation takes a generation that
the task has not used. -/
def freshGeneration (s : TaskExecutionProjectionV1) (input : TaskExecutionEventV1 × Nat) : Bool :=
  decide (1 ≤ input.2) && decide (input.2 ≤ maxSafeInteger) &&
    match input.1.payload with
    | .taskExecutionPreparedV1 p => s.prepared.values.all (fun q =>
        decide (q.taskId = p.taskId → q.generation ≠ p.generation))
    | _ => true

/-- What keeps ended tasks resolvable. -/
structure Distinguished (s : TaskExecutionProjectionV1) : Prop where
  presentable : ∀ key p, s.prepared.get key = some p → Presentable p
  positions : ∀ key a position, s.attempts.get key = some a →
    a.terminalEventSequence = some position → 1 ≤ position ∧ position ≤ maxSafeInteger
  generations : ∀ key other p q, s.prepared.get key = some p → s.prepared.get other = some q →
    p.taskId = q.taskId → p.generation = q.generation → key = other

omit [Engine] in
theorem distinguished_empty : Distinguished emptyTaskExecutionProjectionV1 := by
  constructor <;> simp [emptyTaskExecutionProjectionV1]

theorem prepared_back (step : AttemptStep event sequence s after) {key : JsString}
    {p : TaskExecutionPreparedDataV1} (known : after.prepared.get key = some p) :
    s.prepared.get key = some p ∨ (event.payload = .taskExecutionPreparedV1 p ∧ Presentable p ∧
      key = attemptKey p.attemptId p.generation) := by
  cases step with
  | same frame => exact Or.inl (frame.prepared ▸ known)
  | planned fresh bindingDigest idempotencyKeyDigest payload parsed accepted prepared attempts aborted
      receipts =>
      rw [prepared, Record.get_set] at known
      split at known
      · obtain rfl := Option.some.inj known
        exact Or.inr ⟨payload, prepared_presentable parsed, (Eq.symm ‹_›)⟩
      · exact Or.inl known
  | dispatched other a next stored advances running sequenced prepared attempts aborted receipts =>
      exact Or.inl (prepared ▸ known)
  | received attempt q a next r provenance payload found stored unaborted first matched read observed
      dispatched prepared attempts aborted receipts =>
      exact Or.inl (prepared ▸ known)
  | stopped other a record stored unlaunched prepared attempts aborted receipts =>
      exact Or.inl (prepared ▸ known)

theorem positions_step (distinguished : Distinguished s)
    (step : AttemptStep event sequence s after) (placed : 1 ≤ sequence ∧ sequence ≤ maxSafeInteger) :
    ∀ key a position, after.attempts.get key = some a →
      a.terminalEventSequence = some position → 1 ≤ position ∧ position ≤ maxSafeInteger := by
  intro key a position stored ended
  have written {other : JsString} {new : AttemptGenerationStateV1}
      (attempts : after.attempts = s.attempts.set other new)
      (fits : ∀ position, new.terminalEventSequence = some position →
        1 ≤ position ∧ position ≤ maxSafeInteger) : 1 ≤ position ∧ position ≤ maxSafeInteger := by
    rw [attempts, Record.get_set] at stored
    split at stored
    · obtain rfl := Option.some.inj stored
      exact fits position ended
    · exact distinguished.positions key a position stored ended
  cases step with
  | same frame => exact distinguished.positions key a position (frame.attempts ▸ stored) ended
  | planned p bindingDigest idempotencyKeyDigest payload parsed accepted prepared attempts aborted
      receipts => exact written attempts (by simp [plannedAttempt])
  | dispatched other old next found advances running sequenced prepared attempts aborted receipts =>
      apply written attempts
      intro position ended
      exact distinguished.positions other old position found (sequenced ▸ ended)
  | received attempt p old next r provenance payload known found unaborted first matched read observed
      dispatched prepared attempts aborted receipts =>
      apply written attempts
      intro position ended
      cases running : isTerminal old.state with
      | true =>
          have same := ((receipt_advances dispatched).terminal running).2
          exact distinguished.positions _ old position found (same ▸ ended)
      | false =>
          obtain ⟨-, -, effect⟩ := dispatch_receipt dispatched running
          split at effect
          · subst effect
            exact distinguished.positions _ old position found (by simpa using ended)
          · subst effect
            obtain rfl := Option.some.inj ended
            exact placed
  | stopped other old record found unlaunched prepared attempts aborted receipts =>
      apply written attempts
      intro position ended
      obtain rfl := Option.some.inj ended
      exact placed

theorem distinguished_step (distinguished : Distinguished s)
    (accepted : reduceTaskExecutionV1 s event sequence = .ok after)
    (fresh : freshGeneration s (event, sequence) = true) : Distinguished after := by
  have step := attempt_step accepted
  simp only [freshGeneration, Bool.and_eq_true, decide_eq_true_eq] at fresh
  obtain ⟨placed, unused⟩ := fresh
  refine ⟨?_, positions_step distinguished step placed, ?_⟩
  · intro key p known
    rcases prepared_back step known with old | ⟨-, presentable, -⟩
    · exact distinguished.presentable key p old
    · exact presentable
  · -- A preparation of this event has a generation of its own.
    have apart {p q : TaskExecutionPreparedDataV1} {other : JsString}
        (payload : event.payload = .taskExecutionPreparedV1 p)
        (old : s.prepared.get other = some q) (task : q.taskId = p.taskId)
        (generation : q.generation = p.generation) : False := by
      rw [payload] at unused
      have checked := List.all_eq_true.mp unused q ((s.prepared.mem_values_iff q).mpr ⟨other, old⟩)
      exact of_decide_eq_true checked task generation
    intro key other p q known again task generation
    rcases prepared_back step known with old | ⟨payload, -, here⟩
    · rcases prepared_back step again with before | ⟨payload, -, -⟩
      · exact distinguished.generations key other p q old before task generation
      · exact (apart payload old task generation).elim
    · rcases prepared_back step again with before | ⟨same, -, there⟩
      · exact (apart payload before task.symm generation.symm).elim
      · rw [payload] at same
        obtain rfl := TaskExecutionPayloadV1.taskExecutionPreparedV1.inj same
        exact here.trans there.symm

theorem distinguished_reaches
    (reached : Reaches executionStep (fun state input => freshGeneration state input = true)
      emptyTaskExecutionProjectionV1 s) : Distinguished s :=
  reaches_invariant Distinguished distinguished_empty
    (fun _ _ _ _ distinguished fresh accepted => distinguished_step distinguished accepted fresh)
    reached

theorem attempts_distinct (recorded : Recorded s) (distinguished : Distinguished s)
    (taskId : JsString) :
    ((taskAttempts s taskId).map AttemptGenerationStateV1.generation).Nodup ∧
      ∀ a ∈ taskAttempts s taskId, 1 ≤ a.generation ∧ a.generation ≤ maxSafeInteger := by
  constructor
  · rw [taskAttempts, List.map_map]
    refine List.Nodup.map_on ?_ (s.attempts.unique.of_map.filter _)
    rintro ⟨key, a⟩ first ⟨other, b⟩ second same
    simp only [List.mem_filter, Record.mem_entries_iff, decide_eq_true_eq,
      Option.map_eq_some_iff] at first second
    obtain ⟨stored, p, known, task⟩ := first
    obtain ⟨found, q, again, sameTask⟩ := second
    obtain ⟨p', known', -, -, generation⟩ := recorded.paired key a stored
    obtain ⟨q', again', -, -, other_generation⟩ := recorded.paired other b found
    obtain rfl := Option.some.inj (known.symm.trans known')
    obtain rfl := Option.some.inj (again.symm.trans again')
    obtain rfl := distinguished.generations key other p q known again (task.trans sameTask.symm)
      (generation.symm.trans (same.trans other_generation))
    obtain rfl := Option.some.inj (stored.symm.trans found)
    rfl
  · intro a member
    obtain ⟨key, p, stored, known, -⟩ := mem_task_attempts.mp member
    obtain ⟨p', known', -, -, generation⟩ := recorded.paired key a stored
    obtain rfl := Option.some.inj (known.symm.trans known')
    exact generation ▸ (distinguished.presentable key p known).generation

end Runs

section Requests

variable [Engine] {s : TaskExecutionProjectionV1}

/-- Who asks for a resolution and when: what the event's own checks ask of the cursor,
the clock, the policy and the stream. -/
structure ResolutionRequest where
  workspaceId : JsString
  runId : JsString
  retryPolicyDigest : JsString
  observationCursor : CompositeCursorV1
  evaluationClock : EvaluationClockV1
  streams : text workspaceId = .ok () ∧ text runId = .ok ()
  policy : text retryPolicyDigest = .ok () ∧ validUnicode retryPolicyDigest = true
  cursor : parseObservationCursorV1 (.composite observationCursor) = .ok ()
  clock : parseClock evaluationClock = .ok ()
  same : sameCanonicalJson evaluationClock.observationCursor.toJson observationCursor.toJson
    .executionInvalid = .ok ()

def ResolutionRequest.input (request : ResolutionRequest) (taskId : JsString)
    (generations : List AttemptGenerationStateV1) (cancelled : Bool) : ResolveInput :=
  { taskId := taskId
    generations := generations
    retryPolicyDigest := request.retryPolicyDigest
    retryPermitted := false
    cancellationRequested := cancelled
    observationCursor := request.observationCursor }

omit [Engine] in
theorem assert_object {fields : List (String × JsValue)}
    (names : (fields.map Prod.fst).all (fun name => validUnicode (js name)) = true)
    (values : ∀ field ∈ fields, assertJson field.2 = .ok ()) : assertJson (object fields) = .ok () := by
  rw [object, assert_obj_ok_iff]
  refine ⟨by decide, ?_⟩
  rintro entry member
  obtain ⟨field, listed, rfl⟩ := List.mem_map.mp member
  exact ⟨List.all_eq_true.mp names _ (List.mem_map.mpr ⟨field, listed, rfl⟩), values field listed⟩

omit [Engine] in
theorem assert_outcome (item : GenerationOutcomeV1) : assertJson item.toJson = .ok () := by
  rw [GenerationOutcomeV1.toJson]
  apply assert_object
  · simp only [List.map_cons, List.map_nil]
    decide
  · simp only [List.forall_mem_cons, List.not_mem_nil, false_imp_iff, implies_true, and_true]
    refine ⟨rfl, ?_, rfl⟩
    rw [assert_str_ok_iff]
    cases item.outcome <;> decide +kernel

omit [Engine] in
theorem assert_resolution {r : TaskResolutionV1} (task : validUnicode r.taskId = true)
    (policy : validUnicode r.retryPolicyDigest = true)
    (reason : ∃ reason : ArbitrationReason, r.arbitrationReason = reason.text)
    (cursor : assertJson r.observationCursor.toJson = .ok ()) : assertJson r.toJson = .ok () := by
  obtain ⟨reason, named⟩ := reason
  rw [TaskResolutionV1.toJson]
  apply assert_object
  · simp only [List.map_cons, List.map_nil]
    decide
  · simp only [List.forall_mem_cons, List.not_mem_nil, false_imp_iff, implies_true, and_true,
      assert_str_ok_iff, assert_arr_ok_iff, List.forall_mem_map, named]
    refine ⟨by decide +kernel, task, fun item _ => assert_outcome item, ?_, policy, ?_, cursor, ?_⟩
    · cases r.winningGeneration <;> rfl
    · cases reason <;> decide +kernel
    · cases r.resolution <;> decide +kernel

theorem same_canonical_self {value : JsValue} (valid : assertJson value = .ok ())
    (code : DomainError) : sameCanonicalJson value value code = .ok () := by
  have written := (canonical_ok_iff value _).mpr ⟨valid, rfl⟩
  simp only [sameCanonicalJson, written, ok_bind, ensure_ok_iff]

omit [Engine] in
theorem positive_ok {value : Nat} (fits : 1 ≤ value ∧ value ≤ maxSafeInteger) :
    positive value = .ok () := by
  simpa [positive, positiveCheck] using fits

theorem resolution_parses {request : ResolutionRequest} {taskId : JsString}
    {generations : List AttemptGenerationStateV1} {cancelled : Bool} {r : TaskResolutionV1}
    (drawn : DrawnFrom (request.input taskId generations cancelled) r)
    (filled : blank taskId = false)
    (numbered : ∀ a ∈ generations, 1 ≤ a.generation ∧ a.generation ≤ maxSafeInteger)
    (placed : ∀ a ∈ generations, ∀ position, a.terminalEventSequence = some position →
      1 ≤ position ∧ position ≤ maxSafeInteger) :
    parseResolution r request.evaluationClock = .ok () := by
  obtain ⟨reason, named⟩ := drawn.reason
  have reasonText : text reason.text = .ok () := by
    cases reason <;> decide +kernel
  have taskText : text taskId = .ok () := by simpa [text, textCheck] using filled
  simp only [parseResolution, check_ok_iff, drawn.taskId, drawn.retryPolicyDigest,
    drawn.observationCursor, named]
  refine ⟨?_, request.cursor, ?_, ?_, request.clock, request.same⟩
  · apply (forM_ok_iff text _ ()).mpr
    simp only [List.forall_mem_cons, List.not_mem_nil, false_imp_iff, implies_true, and_true]
    exact ⟨taskText, request.policy.1, reasonText⟩
  · apply (forM_ok_iff positive _ ()).mpr
    intro generation member
    obtain ⟨a, listed, rfl⟩ := drawn.winner generation (by simpa using member)
    exact positive_ok (numbered a listed)
  · apply (forM_ok_iff _ _ ()).mpr
    intro item member
    obtain ⟨a, listed, ended⟩ := drawn.considered item member
    obtain ⟨-, sequence, generation⟩ := terminal_outcome_some ended
    simp only [check_ok_iff]
    exact ⟨positive_ok (generation ▸ numbered a listed), positive_ok (placed a listed _ sequence)⟩

-- An active task is resolved by what its ended attempts resolve to.
theorem resolved_accepted {request : ResolutionRequest} {taskId : JsString} {cancelled : Bool}
    {r : TaskResolutionV1} {contract : TaskContractV2}
    (stored : s.contracts.get taskId = some contract)
    (active : s.lifecycles.get taskId = some .active) (unicode : validUnicode taskId = true)
    (drawn : DrawnFrom (request.input taskId (taskAttempts s taskId) cancelled) r)
    (again : resolveTask { request.input taskId (taskAttempts s taskId) cancelled with
      cancellationRequested := decide (r.resolution = .cancelled) } = .ok (some r)) :
    ∃ after, reduceTaskResolvedV2 s r = .ok after := by
  have task : r.taskId = taskId := drawn.taskId
  have asked : resolveInput s r = { request.input taskId (taskAttempts s taskId) cancelled with
      cancellationRequested := decide (r.resolution = .cancelled) } := by
    rw [resolveInput, task, drawn.retryPolicyDigest, drawn.observationCursor]
    rfl
  have cursor : assertJson request.observationCursor.toJson = .ok () := by
    have same := request.same
    simp only [sameCanonicalJson, bind_ok_iff] at same
    obtain ⟨_, -, text, written, -⟩ := same
    exact ((canonical_ok_iff _ text).mp written).1
  have valid : assertJson r.toJson = .ok () :=
    assert_resolution (task ▸ unicode) (drawn.retryPolicyDigest ▸ request.policy.2) drawn.reason
      (drawn.observationCursor ▸ cursor)
  have known : present s.contracts taskId = true := by simp [present, stored]
  refine ⟨{ s with
    lifecycles := s.lifecycles.set r.taskId (.resolved r.resolution)
    resolutions := assign s.resolutions r.taskId r }, ?_⟩
  simp only [reduceTaskResolvedV2, bind_ok_iff, required_ok_iff, pure_ok_iff]
  exact ⟨_, (require_task_ok_iff _ _).mpr ⟨task ▸ known, rfl⟩, some r, asked ▸ again, r, rfl, (),
    same_canonical_self valid _, .active, task ▸ active, .resolved r.resolution, rfl, rfl⟩

/-- Where every preparation took a generation of its own, resolution never throws, and
a task whose attempts have all ended is resolved by what they resolve to. -/
theorem finished_task_resolvable
    (reached : Reaches executionStep (fun state input => freshGeneration state input = true)
      emptyTaskExecutionProjectionV1 s) :
    (∀ taskId input, input.generations = taskAttempts s taskId →
      ∃ result, resolveTask input = .ok result) ∧
      ∀ taskId, s.lifecycles.get taskId = some .active → taskAttempts s taskId ≠ [] →
        (∀ a ∈ taskAttempts s taskId, isTerminal a.state = true) →
          ∀ (request : ResolutionRequest) (cancelled : Bool) (sequence : Nat), ∃ r after,
            resolveTask (request.input taskId (taskAttempts s taskId) cancelled) = .ok (some r) ∧
              reduceTaskExecutionV1 s ⟨request.workspaceId, request.runId,
                .taskResolvedV2 r request.evaluationClock⟩ sequence = .ok after := by
  have plain : Reachable s := reaches_weaken (fun _ _ _ => trivial) reached
  have recorded := recorded_reachable plain
  have distinguished := distinguished_reaches reached
  constructor
  · intro taskId input same
    obtain ⟨unique, numbered⟩ := attempts_distinct recorded distinguished taskId
    exact resolve_total (same ▸ unique) (fun a member => (numbered a (same ▸ member)).1)
  · intro taskId active attempted ended request cancelled sequence
    obtain ⟨unique, numbered⟩ := attempts_distinct recorded distinguished taskId
    have resolution := @resolve_ended (request.input taskId (taskAttempts s taskId) cancelled)
      unique (fun a member => (numbered a member).1) ended rfl
    obtain ⟨r, resolved, drawn, again⟩ := resolution
    obtain ⟨first, listed⟩ := List.exists_mem_of_ne_nil _ attempted
    obtain ⟨key, p, -, known, rfl⟩ := mem_task_attempts.mp listed
    have presentable := distinguished.presentable key p known
    obtain ⟨contract, stored⟩ := (scheduled_reachable plain).placed _ _ active
    obtain ⟨after, accepted⟩ := resolved_accepted stored active presentable.unicode drawn again
    have placed : ∀ a ∈ taskAttempts s p.taskId, ∀ position,
        a.terminalEventSequence = some position → 1 ≤ position ∧ position ≤ maxSafeInteger := by
      intro a member position ended
      obtain ⟨other, _, found, -⟩ := mem_task_attempts.mp member
      exact distinguished.positions other a position found ended
    have parsed := resolution_parses drawn presentable.filled numbered placed
    refine ⟨r, after, resolved, ?_⟩
    simp only [reduceTaskExecutionV1, parseTaskExecutionEventV1, check_ok_iff]
    exact ⟨⟨request.streams.1, request.streams.2, parsed⟩, accepted⟩

end Requests
section Generations

attribute [local instance] recordedEngine

def abortedPayloads (attemptIds : List JsString) :
    Except DomainError (List TaskExecutionPayloadV1) := do
  let attempts ← attemptIds.mapM (fun attemptId => do
    let prepared ← samplePrepared (js "t") attemptId 1 []
    return [TaskExecutionPayloadV1.taskExecutionPreparedV1 prepared,
      .taskExecutionAbortedV1 (sampleReference prepared) (js "x") sampleClock])
  return [.taskCreatedV2 (sampleTask (js "t")), .taskActivatedV1 (js "t")] ++ attempts.flatten

def endedWith (generations : List Nat) (s : TaskExecutionProjectionV1) : Bool :=
  decide (s.lifecycles.get (js "t") = some .active) &&
    (taskAttempts s (js "t")).all (fun a => isTerminal a.state) &&
    decide ((taskAttempts s (js "t")).map AttemptGenerationStateV1.generation = generations)

def sampleRequest : ResolutionRequest where
  workspaceId := js "w"
  runId := js "r"
  retryPolicyDigest := js "p"
  observationCursor := sampleCursor
  evaluationClock := sampleClock
  streams := by decide +kernel
  policy := by decide +kernel
  cursor := by decide +kernel
  clock := by decide +kernel
  same := by decide +kernel

def endedState : TaskExecutionProjectionV1 := sampleState freshGeneration (abortedPayloads [js "a"])

instance aborted_runs_end : Fact (endsIn (endedWith [1]) (sampleRun freshGeneration (abortedPayloads [js "a"])) = true ∧
      endsIn (endedWith [1, 1]) (sampleRun anything (abortedPayloads [js "a", js "b"])) = true) :=
  ⟨by decide +kernel⟩

theorem finished_task_resolvable_ended : ∃ r after,
    reduceTaskExecutionV1 endedState ⟨js "w", js "r", .taskResolvedV2 r sampleClock⟩ 2 = .ok after := by
  have ended := sample_reaches freshGeneration (abortedPayloads [js "a"]) (endedWith [1])
    aborted_runs_end.out.1
  have final := ended.2
  simp only [endedWith, Bool.and_eq_true, decide_eq_true_eq, List.all_eq_true] at final
  obtain ⟨⟨active, closed⟩, generations⟩ := final
  have attempted : taskAttempts endedState (js "t") ≠ [] := by
    intro empty
    rw [show sampleState freshGeneration (abortedPayloads [js "a"]) = endedState from rfl, empty]
      at generations
    cases generations
  obtain ⟨r, after, -, accepted⟩ := (finished_task_resolvable ended.1).2 (js "t") active attempted
    closed sampleRequest false 2
  exact ⟨r, after, accepted⟩

def sharedState : TaskExecutionProjectionV1 :=
  sampleState anything (abortedPayloads [js "a", js "b"])

/-- Two attempts under different ids took one generation: the task has ended attempts
only, and no resolution of it is ever accepted. -/
theorem finished_task_resolvable_shared :
    Reachable sharedState ∧ sharedState.lifecycles.get (js "t") = some .active ∧
      (taskAttempts sharedState (js "t")).length = 2 ∧
      (∀ a ∈ taskAttempts sharedState (js "t"), isTerminal a.state = true) ∧
      (∀ input, input.generations = taskAttempts sharedState (js "t") →
        resolveTask input = .error .invalidAttemptGeneration) ∧
      ∀ workspaceId runId r clock sequence after, r.taskId = js "t" →
        reduceTaskExecutionV1 sharedState ⟨workspaceId, runId, .taskResolvedV2 r clock⟩ sequence ≠
          .ok after := by
  have ended := sample_reachable (abortedPayloads [js "a", js "b"]) (endedWith [1, 1])
    aborted_runs_end.out.2
  have final := ended.2
  simp only [endedWith, Bool.and_eq_true, decide_eq_true_eq, List.all_eq_true] at final
  obtain ⟨⟨active, closed⟩, generations⟩ := final
  change (taskAttempts sharedState (js "t")).map _ = _ at generations
  have refused : ∀ input, input.generations = taskAttempts sharedState (js "t") →
      resolveTask input = .error .invalidAttemptGeneration := by
    intro input same
    apply resolve_refused
    rw [same, generations]
    decide
  refine ⟨ended.1, active, by simpa using congrArg List.length generations, closed, refused, ?_⟩
  intro workspaceId runId r clock sequence after task accepted
  obtain ⟨-, accepted⟩ := check_ok_iff.mp accepted
  obtain ⟨_, _, resolved, -⟩ := resolved_ok accepted
  rw [refused (resolveInput sharedState r) (by rw [resolveInput, task])] at resolved
  cases resolved

end Generations

end Horseness.Resolvable
