import Horseness.AttemptSteps
import Horseness.RecordedRuns

/-!
A success rests on a receipt. A receipt is checked against the prepared attempt when
it arrives, the attempt it settles keeps its outcome, and a resolution takes the
earliest of the settled successes; the invariant below carries the evidence through
whatever happens in between.
-/

namespace Horseness.Evidence

open FallibleRuns Records ScriptText JsonValues PlainObjects ScriptEngine Canonical ForkContext
  Tasks AttemptReceipts ExecutionEvents Execution ExecutionSteps AttemptSteps RecordedRuns

section Records

variable [Engine] {s after : TaskExecutionProjectionV1} {event : TaskExecutionEventV1}
  {sequence : Nat}

/-- What a stored receipt was checked for, against the attempt as it is now. -/
def Received (p : TaskExecutionPreparedDataV1) (a : AttemptGenerationStateV1)
    (r : AttemptReceiptEnvelopeV1) : Prop :=
  receiptMatches r.workspaceId r.runId p a r ∧ ∃ provenance,
    parseTaskExecutionReceiptProvenanceV1 r.provenance = .ok provenance ∧
      (r.outcome = .succeeded → successObserved p r provenance)

omit [Engine] in
theorem received_advances {p : TaskExecutionPreparedDataV1} {a next : AttemptGenerationStateV1}
    {r : AttemptReceiptEnvelopeV1} (advances : Advances a next) (received : Received p a r) :
    Received p next r := by
  obtain ⟨⟨task, attempt, generation, binding, manifest, pin, producer, grant, adapter, provider,
    workspace, run, idempotency⟩, observed⟩ := received
  exact ⟨⟨task, attempt, generation, binding.trans advances.bindingDigest.symm, manifest, pin,
    producer, grant, adapter, provider, workspace, run,
    idempotency.trans advances.idempotencyKeyDigest.symm⟩, observed⟩

def OpenAttempt (s : TaskExecutionProjectionV1) (taskId key : JsString) : Prop :=
  ∃ p a, s.prepared.get key = some p ∧ p.taskId = taskId ∧ s.attempts.get key = some a ∧
    isTerminal a.state = false

/-- What carries the evidence through a run. -/
structure Recorded (s : TaskExecutionProjectionV1) : Prop where
  paired : ∀ key a, s.attempts.get key = some a → ∃ p, s.prepared.get key = some p ∧
    key = attemptKey p.attemptId p.generation ∧ a.attemptId = p.attemptId ∧
      a.generation = p.generation
  manifests : ∀ key p, s.prepared.get key = some p →
    contextManifestCoreDigest p.manifest = .ok p.binding.contextManifestCoreDigest
  sequenced : ∀ key a, s.attempts.get key = some a → Sequenced a
  received : ∀ key r, s.receipts.get key = some r → ∃ p a, s.prepared.get key = some p ∧
    s.attempts.get key = some a ∧ Received p a r
  succeeded : ∀ key a, s.attempts.get key = some a → a.state = .terminal .succeeded →
    ∃ r, s.receipts.get key = some r ∧ r.outcome = .succeeded
  single : ∀ taskId key other, OpenAttempt s taskId key → OpenAttempt s taskId other → key = other

theorem recorded_empty : Recorded emptyTaskExecutionProjectionV1 := by
  constructor <;> simp [emptyTaskExecutionProjectionV1, OpenAttempt]

theorem paired_step (recorded : Recorded s) (step : AttemptStep event sequence s after) :
    ∀ key a, after.attempts.get key = some a → ∃ p, after.prepared.get key = some p ∧
      key = attemptKey p.attemptId p.generation ∧ a.attemptId = p.attemptId ∧
        a.generation = p.generation := by
  intro key next stored
  rcases attempt_back step stored with ⟨p, _, _, -, same, rfl, known⟩ | ⟨a, old, advances⟩
  · exact ⟨p, by rw [known, Record.get_set_same], same, rfl, rfl⟩
  · obtain ⟨p, known, same, attemptId, generation⟩ := recorded.paired key a old
    exact ⟨p, (attempt_forward step).1 key p known, same, advances.attemptId.trans attemptId,
      advances.generation.trans generation⟩

theorem prepared_manifest {workspaceId runId : JsString} {p : TaskExecutionPreparedDataV1}
    (parsed : parsePrepared workspaceId runId p = .ok ()) :
    contextManifestCoreDigest p.manifest = .ok p.binding.contextManifestCoreDigest := by
  simp only [parsePrepared, bind_ok_iff, ensure_ok_iff] at parsed
  obtain ⟨_, -, _, -, _, -, _, -, _, -, _, -, _, -, _, -, _, -, _, -, _, -, digest, computed, _, -,
    _, -, -, -, -, -, -, -, -, -, -, same, -⟩ := parsed
  exact same ▸ computed

theorem manifests_step (recorded : Recorded s) (step : AttemptStep event sequence s after) :
    ∀ key p, after.prepared.get key = some p →
      contextManifestCoreDigest p.manifest = .ok p.binding.contextManifestCoreDigest := by
  intro key p known
  cases step with
  | same frame => exact recorded.manifests key p (frame.prepared ▸ known)
  | planned fresh bindingDigest idempotencyKeyDigest payload parsed accepted prepared attempts aborted
      receipts =>
      rw [prepared, Record.get_set] at known
      split at known
      · exact Option.some.inj known ▸ prepared_manifest parsed
      · exact recorded.manifests key p known
  | dispatched other a next stored advances running sequenced prepared attempts aborted receipts =>
      exact recorded.manifests key p (prepared ▸ known)
  | received attempt q a next r provenance payload found stored unaborted first matched read observed
      dispatched prepared attempts aborted receipts =>
      exact recorded.manifests key p (prepared ▸ known)
  | stopped other a record stored unlaunched prepared attempts aborted receipts =>
      exact recorded.manifests key p (prepared ▸ known)

theorem sequenced_step (recorded : Recorded s) (step : AttemptStep event sequence s after) :
    ∀ key a, after.attempts.get key = some a → Sequenced a := by
  have written {other : JsString} {new : AttemptGenerationStateV1}
      (attempts : after.attempts = s.attempts.set other new) (fits : Sequenced new)
      {key : JsString} {a : AttemptGenerationStateV1}
      (stored : after.attempts.get key = some a) : Sequenced a := by
    rw [attempts, Record.get_set] at stored
    split at stored
    · exact Option.some.inj stored ▸ fits
    · exact recorded.sequenced key a stored
  intro key a stored
  cases step with
  | same frame => exact recorded.sequenced key a (frame.attempts ▸ stored)
  | planned p bindingDigest idempotencyKeyDigest payload parsed accepted prepared attempts aborted
      receipts =>
      exact written attempts (by simp [Sequenced, plannedAttempt, isTerminal]) stored
  | dispatched other old next found advances running sequenced prepared attempts aborted receipts =>
      apply written attempts _ stored
      have before : isTerminal old.state = true ↔ old.terminalEventSequence ≠ none :=
        recorded.sequenced other old found
      rw [Sequenced, sequenced, ← before]
      constructor
      · intro settled
        by_contra still
        rw [running (by simpa using still)] at settled
        cases settled
      · intro settled
        exact (advances.terminal settled).1 ▸ settled
  | received attempt p old next r provenance payload known found unaborted first matched read observed
      dispatched prepared attempts aborted receipts =>
      apply written attempts _ stored
      have before := recorded.sequenced _ old found
      cases running : isTerminal old.state with
      | true =>
          obtain ⟨code, rfl⟩ := dispatch_terminal dispatched running
          simpa [Sequenced] using before
      | false =>
          obtain ⟨-, -, effect⟩ := dispatch_receipt dispatched running
          split at effect
          · subst effect
            simpa [Sequenced] using before
          · subst effect
            simp [Sequenced, isTerminal]
  | stopped other old record found unlaunched prepared attempts aborted receipts =>
      exact written attempts (by simp [Sequenced, isTerminal]) stored

theorem received_step (recorded : Recorded s) (step : AttemptStep event sequence s after) :
    ∀ key r, after.receipts.get key = some r → ∃ p a, after.prepared.get key = some p ∧
      after.attempts.get key = some a ∧ Received p a r := by
  intro key r stored
  obtain ⟨forwardPrepared, forwardAttempts⟩ := attempt_forward step
  have kept (old : s.receipts.get key = some r) : ∃ p a, after.prepared.get key = some p ∧
      after.attempts.get key = some a ∧ Received p a r := by
    obtain ⟨p, a, known, found, received⟩ := recorded.received key r old
    obtain ⟨next, later, advances⟩ := forwardAttempts key a found ⟨p, known⟩
    exact ⟨p, next, forwardPrepared key p known, later, received_advances advances received⟩
  cases step with
  | same frame => exact kept (frame.receipts ▸ stored)
  | planned p bindingDigest idempotencyKeyDigest payload parsed accepted prepared attempts aborted
      receipts =>
      exact kept (receipts ▸ stored)
  | dispatched other old next found advances running sequenced prepared attempts aborted receipts =>
      exact kept (receipts ▸ stored)
  | received attempt p old next fresh provenance payload known found unaborted first matched read
      observed dispatched prepared attempts aborted receipts =>
      rw [receipts, Record.get_set] at stored
      split at stored
      · rename_i hit
        subst hit
        obtain rfl := Option.some.inj stored
        have workspace : fresh.workspaceId = event.workspaceId := matched.2.2.2.2.2.2.2.2.2.2.1
        have run : fresh.runId = event.runId := matched.2.2.2.2.2.2.2.2.2.2.2.1
        have received : Received p old fresh := by
          refine ⟨?_, provenance, read, observed⟩
          rw [workspace, run]
          exact matched
        exact ⟨p, next, forwardPrepared _ p known, by rw [attempts, Record.get_set_same],
          received_advances (receipt_advances dispatched) received⟩
      · exact kept stored
  | stopped other old record found unlaunched prepared attempts aborted receipts =>
      exact kept (receipts ▸ stored)

theorem succeeded_step (recorded : Recorded s) (step : AttemptStep event sequence s after) :
    ∀ key a, after.attempts.get key = some a → a.state = .terminal .succeeded →
      ∃ r, after.receipts.get key = some r ∧ r.outcome = .succeeded := by
  intro key a stored won
  cases step with
  | same frame =>
      obtain ⟨r, found, outcome⟩ := recorded.succeeded key a (frame.attempts ▸ stored) won
      exact ⟨r, frame.receipts ▸ found, outcome⟩
  | planned p bindingDigest idempotencyKeyDigest payload parsed accepted prepared attempts aborted
      receipts =>
      rw [attempts, Record.get_set] at stored
      split at stored
      · obtain rfl := Option.some.inj stored
        cases won
      · exact receipts ▸ recorded.succeeded key a stored won
  | dispatched other old next found advances running sequenced prepared attempts aborted receipts =>
      rw [attempts, Record.get_set] at stored
      split at stored
      · rename_i hit
        subst hit
        obtain rfl := Option.some.inj stored
        cases settled : isTerminal old.state with
        | true => exact receipts ▸ recorded.succeeded _ old found ((advances.terminal settled).1 ▸ won)
        | false =>
            have still := running settled
            rw [won] at still
            cases still
      · exact receipts ▸ recorded.succeeded key a stored won
  | received attempt p old next r provenance payload known found unaborted first matched read observed
      dispatched prepared attempts aborted receipts =>
      rw [attempts, Record.get_set] at stored
      split at stored
      · rename_i hit
        subst hit
        obtain rfl := Option.some.inj stored
        cases settled : isTerminal old.state with
        | true =>
            -- A success without a receipt would have been there before.
            have same := ((receipt_advances dispatched).terminal settled).1
            obtain ⟨earlier, recordedFirst, -⟩ := recorded.succeeded _ old found (same ▸ won)
            rw [first] at recordedFirst
            cases recordedFirst
        | false =>
            obtain ⟨-, -, effect⟩ := dispatch_receipt dispatched settled
            split at effect
            · subst effect
              rw [finding_state] at won
              rw [won] at settled
              cases settled
            · subst effect
              exact ⟨r, by rw [receipts, Record.get_set_same], by simpa using won⟩
      · rename_i other
        obtain ⟨earlier, found, outcome⟩ := recorded.succeeded key a stored won
        exact ⟨earlier, by rw [receipts, Record.get_set_other _ _ other, found], outcome⟩
  | stopped other old record found unlaunched prepared attempts aborted receipts =>
      rw [attempts, Record.get_set] at stored
      split at stored
      · obtain rfl := Option.some.inj stored
        cases won
      · exact receipts ▸ recorded.succeeded key a stored won

-- An attempt that is open now was open before, or is the one just planned.
theorem open_back (recorded : Recorded s) (step : AttemptStep event sequence s after)
    {taskId key : JsString} (running : OpenAttempt after taskId key) :
    OpenAttempt s taskId key ∨ ∃ p, reduceTaskExecutionPreparedV1 s p = .ok after ∧
      p.taskId = taskId ∧ s.prepared.get key = none ∧ after.prepared = s.prepared.set key p := by
  obtain ⟨q, next, known, task, stored, unsettled⟩ := running
  rcases attempt_back step stored with ⟨p, _, _, accepted, same, -, prepared⟩ | ⟨a, found, advances⟩
  · obtain ⟨-, unused, -⟩ := prepared_ok accepted
    rw [prepared, Record.get_set_same] at known
    obtain rfl := Option.some.inj known
    exact Or.inr ⟨p, accepted, task, same ▸ unused, prepared⟩
  · obtain ⟨p, before, -⟩ := recorded.paired key a found
    obtain rfl := Option.some.inj (known.symm.trans ((attempt_forward step).1 key p before))
    refine Or.inl ⟨q, a, before, task, found, ?_⟩
    by_contra settled
    have past := (advances.terminal (by simpa using settled)).1
    rw [past] at unsettled
    exact settled unsettled

-- A task is prepared again only when none of its attempts is open.
theorem prepared_none_open (recorded : Recorded s) {p : TaskExecutionPreparedDataV1}
    (accepted : reduceTaskExecutionPreparedV1 s p = .ok after) {key : JsString} :
    ¬ OpenAttempt s p.taskId key := by
  rintro ⟨q, a, known, task, stored, running⟩
  obtain ⟨-, -, finished, -⟩ := prepared_ok accepted
  have past := finished a ((s.attempts.mem_values_iff a).mpr ⟨key, stored⟩)
  obtain ⟨p', again, same, attemptId, generation⟩ := recorded.paired key a stored
  obtain rfl := Option.some.inj (known.symm.trans again)
  have unset : a.terminalEventSequence = none := by
    by_contra recordedAt
    rw [(recorded.sequenced key a stored).mpr recordedAt] at running
    cases running
  rw [unfinishedAttempt, attemptId, generation, ← same, known, unset] at past
  simp [task] at past

theorem single_step (recorded : Recorded s) (step : AttemptStep event sequence s after) :
    ∀ taskId key other, OpenAttempt after taskId key → OpenAttempt after taskId other →
      key = other := by
  intro taskId key other first second
  rcases open_back recorded step first with before | ⟨p, accepted, task, unused, prepared⟩
  · rcases open_back recorded step second with old | ⟨q, accepted, task, -, -⟩
    · exact recorded.single taskId key other before old
    · exact absurd before (task ▸ prepared_none_open recorded accepted)
  · rcases open_back recorded step second with old | ⟨q, -, -, fresh, again⟩
    · exact absurd old (task ▸ prepared_none_open recorded accepted)
    · -- One event plans one attempt.
      by_contra different
      have written : after.prepared.get other = some q := by rw [again, Record.get_set_same]
      rw [prepared, Record.get_set_other _ _ different, fresh] at written
      cases written

theorem recorded_step (recorded : Recorded s)
    (accepted : reduceTaskExecutionV1 s event sequence = .ok after) : Recorded after := by
  have step := attempt_step accepted
  exact ⟨paired_step recorded step, manifests_step recorded step, sequenced_step recorded step,
    received_step recorded step, succeeded_step recorded step, single_step recorded step⟩

theorem recorded_reachable (reached : Reachable s) : Recorded s :=
  reaches_invariant Recorded recorded_empty
    (fun _ _ _ _ recorded _ accepted => recorded_step recorded accepted) reached

end Records

section Resolutions

theorem earlier_total (left right : GenerationOutcomeV1) : earlier left right ∨ earlier right left := by
  unfold earlier
  omega

theorem earlier_trans {first second third : GenerationOutcomeV1} (front : earlier first second)
    (back : earlier second third) : earlier first third := by
  unfold earlier at *
  omega

theorem terminal_outcome_some {a : AttemptGenerationStateV1} {item : GenerationOutcomeV1}
    (ended : terminalOutcome a = some item) :
    a.state = .terminal item.outcome ∧ a.terminalEventSequence = some item.terminalEventSequence ∧
      a.generation = item.generation := by
  unfold terminalOutcome at ended
  split at ended
  · obtain rfl := Option.some.inj ended
    exact ⟨‹_›, ‹_›, rfl⟩
  · cases ended

theorem outcome_text_injective {left right : TaskResolution} (same : left.text = right.text) :
    left = right := by
  revert same
  cases left <;> cases right <;> decide +kernel

theorem resolve_succeeded {input : ResolveInput} {expected : TaskResolutionV1}
    (resolved : resolveTask input = .ok (some expected)) (won : expected.resolution = .succeeded) :
    ∃ a ∈ input.generations, ∃ sequence, a.state = .terminal .succeeded ∧
      a.terminalEventSequence = some sequence ∧ expected.winningGeneration = some a.generation ∧
      ∀ other ∈ input.generations, other.state = .terminal .succeeded → ∀ position,
        other.terminalEventSequence = some position → sequence ≤ position := by
  simp only [resolveTask, bind_ok_iff, ensure_ok_iff] at resolved
  obtain ⟨_, -, resolved⟩ := resolved
  generalize chosen : ((List.filterMap terminalOutcome (List.insertionSort
    (fun left right => left.generation ≤ right.generation) input.generations)).filter
      (fun item => item.outcome = .succeeded)).insertionSort earlier = successes at resolved
  have listed (item : GenerationOutcomeV1) : item ∈ successes ↔
      (∃ a ∈ input.generations, terminalOutcome a = some item) ∧ item.outcome = .succeeded := by
    simp [← chosen, List.mem_insertionSort]
  cases successes with
  | nil =>
      simp only at resolved
      split at resolved
      · cases (pure_ok_iff _ _).mp resolved
      · split at resolved
        · obtain rfl := Option.some.inj ((pure_ok_iff _ _).mp resolved)
          cases won
        · obtain rfl := Option.some.inj ((pure_ok_iff _ _).mp resolved)
          cases won
  | cons first rest =>
      obtain rfl := Option.some.inj ((pure_ok_iff _ _).mp resolved)
      have sorted : (first :: rest).Pairwise earlier := by
        rw [← chosen]
        exact @List.pairwise_insertionSort _ earlier _ ⟨earlier_total⟩ ⟨fun _ _ _ => earlier_trans⟩ _
      obtain ⟨⟨a, member, ended⟩, success⟩ := (listed first).mp List.mem_cons_self
      obtain ⟨state, sequence, generation⟩ := terminal_outcome_some ended
      refine ⟨a, member, first.terminalEventSequence, success ▸ state, sequence,
        congrArg some generation.symm, ?_⟩
      intro other otherMember otherState position otherSequence
      have otherEnded : terminalOutcome other = some ⟨other.generation, .succeeded, position⟩ := by
        simp [terminalOutcome, otherState, otherSequence]
      rcases List.mem_cons.mp ((listed _).mpr ⟨⟨other, otherMember, otherEnded⟩, rfl⟩) with
        same | later
      · exact same ▸ Nat.le_refl _
      · have before := List.rel_of_pairwise_cons sorted later
        unfold earlier at before
        simp only at before
        omega

-- Resolutions of one canonical text agree on the outcome and on the winner.
theorem same_resolution [Engine] {expected r : TaskResolutionV1} {code : DomainError}
    (same : sameCanonicalJson expected.toJson r.toJson code = .ok ()) :
    expected.resolution = r.resolution ∧ expected.winningGeneration = r.winningGeneration := by
  simp only [sameCanonicalJson, bind_ok_iff, ensure_ok_iff] at same
  obtain ⟨text, first, other, second, agree⟩ := same
  have meant := (canonical_eq_iff first second).mp agree
  rw [TaskResolutionV1.toJson, TaskResolutionV1.toJson] at meant
  have fields := object_meaning meant rfl
    (by simp only [List.map_cons, List.map_nil]; decide +kernel)
  simp only [List.map_cons, List.cons.injEq, meaning, JsonTree.str.injEq] at fields
  obtain ⟨-, -, -, winner, -, -, -, resolution, -⟩ := fields
  refine ⟨outcome_text_injective resolution, ?_⟩
  cases left : expected.winningGeneration <;> cases right : r.winningGeneration <;>
    simp_all [nullable, natural, meaning, JsNumber.meaning]
end Resolutions

section Runs

variable [Engine] {s : TaskExecutionProjectionV1}

-- Over a run, preparations stay and prepared attempts only advance.
theorem attempts_later (recorded : Recorded s) {later : TaskExecutionProjectionV1}
    (run : Reaches executionStep (fun _ _ => True) s later) {key : JsString}
    {p : TaskExecutionPreparedDataV1} {a : AttemptGenerationStateV1}
    (known : s.prepared.get key = some p) (stored : s.attempts.get key = some a) :
    Recorded later ∧ later.prepared.get key = some p ∧
      ∃ next, later.attempts.get key = some next ∧ Advances a next := by
  refine reaches_invariant (fun later => Recorded later ∧ later.prepared.get key = some p ∧
    ∃ next, later.attempts.get key = some next ∧ Advances a next)
    ⟨recorded, known, a, stored, .refl a⟩ ?_ run
  rintro before input after - ⟨recorded, known, middle, found, advances⟩ - accepted
  obtain ⟨forwardPrepared, forwardAttempts⟩ := attempt_forward (attempt_step accepted)
  obtain ⟨next, moved, further⟩ := forwardAttempts key middle found ⟨p, known⟩
  exact ⟨recorded_step recorded accepted, forwardPrepared key p known, next, moved,
    advances.trans further⟩

/-- The receipt that an attempt's success rests on, against what was prepared. -/
structure SuccessEvidence (p : TaskExecutionPreparedDataV1) (a : AttemptGenerationStateV1)
    (r : AttemptReceiptEnvelopeV1) : Prop where
  state : a.state = .terminal .succeeded
  outcome : r.outcome = .succeeded
  binding : r.attemptContextBindingDigest = a.bindingDigest
  idempotency : r.providerIdempotencyKeyDigest = a.idempotencyKeyDigest
  forkPin : r.forkPinDigest = p.forkPin.forkPinDigest
  manifest : contextManifestCoreDigest p.manifest = .ok r.contextManifestCoreDigest
  producer : r.producerPrincipalId = p.binding.allowedProducerPrincipalId
  grant : r.producerGrantDigest = p.binding.allowedProducerGrantDigest
  host : r.hostId = p.profile.hostId ∧ r.hostVersion = p.profile.hostVersion
  observed : ∃ provenance, parseTaskExecutionReceiptProvenanceV1 r.provenance = .ok provenance ∧
    provenance.observedHostId = some p.profile.hostId ∧
    provenance.observedHostVersion = some p.profile.hostVersion ∧
    provenance.observedProviderId = some p.profile.providerId ∧
    provenance.observedModelId = some p.profile.modelId

theorem success_evidence (recorded : Recorded s) {key : JsString} {a : AttemptGenerationStateV1}
    (stored : s.attempts.get key = some a) (won : a.state = .terminal .succeeded) :
    ∃ p r, s.prepared.get key = some p ∧ s.receipts.get key = some r ∧ SuccessEvidence p a r := by
  obtain ⟨r, receipt, outcome⟩ := recorded.succeeded key a stored won
  obtain ⟨p, same, known, again, matched, provenance, read, observed⟩ :=
    recorded.received key r receipt
  obtain rfl := Option.some.inj (stored.symm.trans again)
  obtain ⟨-, -, -, binding, manifest, pin, producer, grant, -, -, -, -, idempotency⟩ := matched
  obtain ⟨-, -, model, provider, host, version, hostId, hostVersion⟩ := observed outcome
  exact ⟨p, r, known, receipt, won, outcome, binding, idempotency, pin,
    manifest ▸ recorded.manifests key p known, producer, grant, ⟨hostId, hostVersion⟩,
    provenance, read, host, version, provider, model⟩

/-- The attempt settled earliest among the task's successes in this state. -/
def EarliestSuccess (s : TaskExecutionProjectionV1) (taskId key : JsString) : Prop :=
  ∃ a sequence, s.attempts.get key = some a ∧ a.state = .terminal .succeeded ∧
    a.terminalEventSequence = some sequence ∧
    ∀ other ∈ taskAttempts s taskId, other.state = .terminal .succeeded → ∀ position,
      other.terminalEventSequence = some position → sequence ≤ position

omit [Engine] in
theorem mem_task_attempts {taskId : JsString} {a : AttemptGenerationStateV1} :
    a ∈ taskAttempts s taskId ↔ ∃ key p, s.attempts.get key = some a ∧
      s.prepared.get key = some p ∧ p.taskId = taskId := by
  simp only [taskAttempts, List.mem_map, List.mem_filter, decide_eq_true_eq, Option.map_eq_some_iff,
    Prod.exists, exists_eq_right, Record.mem_entries_iff]
  constructor
  · rintro ⟨key, stored, p, known, task⟩
    exact ⟨key, p, stored, known, task⟩
  · rintro ⟨key, p, stored, known, task⟩
    exact ⟨key, stored, p, known, task⟩

theorem resolution_found {before after : TaskExecutionProjectionV1}
    {input : TaskExecutionEventV1 × Nat} (accepted : executionStep before input = .ok after)
    {taskId : JsString} {r : TaskResolutionV1} (absent : before.resolutions.get taskId ≠ some r)
    (stored : after.resolutions.get taskId = some r) (won : r.resolution = .succeeded) :
    ∃ key p a, before.prepared.get key = some p ∧ p.taskId = taskId ∧
      before.attempts.get key = some a ∧ a.state = .terminal .succeeded ∧
      r.winningGeneration = some a.generation ∧ EarliestSuccess before taskId key := by
  have frame (same : after.resolutions = before.resolutions) : False := absent (same ▸ stored)
  obtain ⟨-, effect⟩ := task_effect accepted
  cases effect with
  | graph kept => exact (frame kept.resolutions).elim
  | activated taskId accepted =>
      obtain ⟨-, rfl⟩ := activated_ok accepted
      exact (frame rfl).elim
  | prepared p payload accepted =>
      obtain ⟨-, -, -, -, -, -, _, _, -, rfl⟩ := prepared_ok accepted
      exact (frame rfl).elim
  | transition attempt input accepted =>
      obtain ⟨_, _, _, -, -, -, -, -, rfl⟩ := transition_ok accepted
      exact (frame rfl).elim
  | received attempt r payload accepted =>
      obtain ⟨_, _, _, -, -, -, -, -, -, -, ⟨rfl, -⟩ | ⟨-, _, -, rfl⟩⟩ := receipt_ok accepted
      · exact (frame rfl).elim
      · exact (frame rfl).elim
  | aborted attempt reasonCode accepted =>
      obtain ⟨_, _, -, -, -, -, rfl⟩ := aborted_ok accepted
      exact (frame rfl).elim
  | resolved recorded accepted =>
      obtain ⟨expected, _, resolved, same, -, -, rfl⟩ := resolved_ok accepted
      rcases get_assign_some stored with ⟨rfl, rfl⟩ | old
      · obtain ⟨outcome, winner⟩ := same_resolution same
        obtain ⟨a, member, sequence, state, at_, chosen, earliest⟩ :=
          resolve_succeeded resolved (outcome.trans won)
        obtain ⟨key, p, found, known, task⟩ := mem_task_attempts.mp member
        exact ⟨key, p, a, known, task, found, state, winner.symm.trans chosen,
          a, sequence, found, state, at_, earliest⟩
      · exact absurd old absent

/-- A stored success names an attempt of its task that succeeded with a matching
receipt and that was, when the task was resolved, the earliest success; and no task
ever has two open attempts. -/
theorem success_has_evidence (reached : Reachable s) :
    (∀ taskId resolution, s.resolutions.get taskId = some resolution →
      resolution.resolution = .succeeded →
        ∃ key p a r, s.prepared.get key = some p ∧ p.taskId = taskId ∧
          s.attempts.get key = some a ∧ resolution.winningGeneration = some a.generation ∧
          s.receipts.get key = some r ∧ SuccessEvidence p a r ∧
          ∃ before input after, Reachable before ∧ executionStep before input = .ok after ∧
            Reaches executionStep (fun _ _ => True) after s ∧
            before.resolutions.get taskId ≠ some resolution ∧
            after.resolutions.get taskId = some resolution ∧ EarliestSuccess before taskId key) ∧
      ∀ taskId key other, OpenAttempt s taskId key → OpenAttempt s taskId other → key = other := by
  refine ⟨?_, (recorded_reachable reached).single⟩
  intro taskId resolution stored won
  obtain ⟨before, input, after, front, absent, -, accepted, placed, back⟩ :=
    reaches_origin (fun state => state.resolutions.get taskId = some resolution)
      (by simp [emptyTaskExecutionProjectionV1]) reached stored
  obtain ⟨key, p, a, known, task, found, state, winner, earliest⟩ :=
    resolution_found accepted absent placed won
  have onward : Reaches executionStep (fun _ _ => True) before s :=
    reaches_trans (.next input .start trivial accepted) back
  obtain ⟨recorded, later, next, moved, advances⟩ :=
    attempts_later (recorded_reachable front) onward known found
  obtain ⟨same, -⟩ := advances.terminal (by rw [state]; rfl)
  obtain ⟨q, r, again, receipt, evidence⟩ := success_evidence recorded moved (same.trans state)
  obtain rfl := Option.some.inj (later.symm.trans again)
  exact ⟨key, p, next, r, later, task, moved, winner.trans (congrArg some advances.generation.symm),
    receipt, evidence, before, input, after, front, accepted, back, absent, placed, earliest⟩

end Runs

section Success

attribute [local instance] recordedEngine

def successResolution : TaskResolutionV1 :=
  { taskId := js "t"
    consideredGenerationOutcomes := [⟨1, .succeeded, 1⟩]
    winningGeneration := some 1
    retryPolicyDigest := js "p"
    arbitrationReason := js "earliest-terminal-success"
    observationCursor := sampleCursor
    resolution := .succeeded }

def successPayloads : Except DomainError (List TaskExecutionPayloadV1) := do
  let prepared ← samplePrepared (js "t") (js "a") 1 []
  let receipt ← sampleReceipt prepared
  return [.taskCreatedV2 (sampleTask (js "t")), .taskActivatedV1 (js "t"),
    .taskExecutionPreparedV1 prepared,
    .taskExecutionTransitionV1 (sampleReference prepared) .commitLaunchIntent,
    .taskExecutionReceiptV1 (sampleReference prepared) receipt,
    .taskResolvedV2 successResolution sampleClock]

def successState : TaskExecutionProjectionV1 := sampleState anything successPayloads

instance success_state_reachable : Fact (Reachable successState ∧
    decide (successState.resolutions.get (js "t") = some successResolution) = true) :=
  ⟨sample_reachable successPayloads
    (fun s => s.resolutions.get (js "t") = some successResolution) (by decide +kernel)⟩

theorem success_has_evidence_success :
    ∃ key p a r, successState.prepared.get key = some p ∧ p.taskId = js "t" ∧
      successState.attempts.get key = some a ∧ a.generation = 1 ∧
      successState.receipts.get key = some r ∧ SuccessEvidence p a r := by
  obtain ⟨key, p, a, r, known, task, stored, winner, receipt, evidence, -⟩ :=
    (success_has_evidence success_state_reachable.out.1).1 (js "t") successResolution
      (of_decide_eq_true success_state_reachable.out.2) rfl
  exact ⟨key, p, a, r, known, task, stored, (Option.some.inj winner).symm, receipt, evidence⟩

end Success

end Horseness.Evidence
