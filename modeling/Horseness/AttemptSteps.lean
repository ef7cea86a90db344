import Horseness.ExecutionSteps

/-!
What one event does to one attempt. Dispatch never leaves a terminal state and never
changes who the attempt is; of the events only a receipt and an abort make an attempt
terminal.
-/

namespace Horseness.AttemptSteps

open FallibleRuns Records ScriptText ScriptEngine Canonical Tasks AttemptReceipts TaskPlans
  ExecutionEvents Execution ExecutionSteps

section Dispatch

variable {a next : AttemptGenerationStateV1}

/-- The attempt is the same one, and where it was terminal it is so unchanged. -/
structure Advances (a next : AttemptGenerationStateV1) : Prop where
  attemptId : next.attemptId = a.attemptId
  generation : next.generation = a.generation
  bindingDigest : next.bindingDigest = a.bindingDigest
  idempotencyKeyDigest : next.idempotencyKeyDigest = a.idempotencyKeyDigest
  terminal : isTerminal a.state = true →
    next.state = a.state ∧ next.terminalEventSequence = a.terminalEventSequence

def Sequenced (a : AttemptGenerationStateV1) : Prop :=
  isTerminal a.state = true ↔ a.terminalEventSequence ≠ none

theorem advances_finding (a : AttemptGenerationStateV1) (code : FindingCode) :
    Advances a (finding a code) := by
  unfold finding
  split
  · exact ⟨rfl, rfl, rfl, rfl, fun _ => ⟨rfl, rfl⟩⟩
  · exact ⟨rfl, rfl, rfl, rfl, fun _ => ⟨rfl, rfl⟩⟩

@[simp] theorem finding_state (a : AttemptGenerationStateV1) (code : FindingCode) :
    (finding a code).state = a.state := by
  unfold finding
  split <;> rfl

@[simp] theorem finding_sequence (a : AttemptGenerationStateV1) (code : FindingCode) :
    (finding a code).terminalEventSequence = a.terminalEventSequence := by
  unfold finding
  split <;> rfl

theorem note_handle_ok {handle : JsString} {state : DispatchState}
    (noted : noteHandle a handle state = .ok next) (running : isTerminal a.state = false) :
    Advances a next ∧ (next.state = a.state ∨ next.state = state) ∧
      next.terminalEventSequence = a.terminalEventSequence := by
  unfold noteHandle at noted
  split at noted
  · cases noted
  · split at noted
    · obtain rfl := Except.ok.inj noted
      exact ⟨advances_finding a _, Or.inl (finding_state a _), finding_sequence a _⟩
    · obtain rfl := Except.ok.inj noted
      exact ⟨⟨rfl, rfl, rfl, rfl, by simp [running]⟩, Or.inr rfl, rfl⟩

theorem dispatch_terminal {input : DispatchInputV1} (accepted : reduceDispatch a input = .ok next)
    (settled : isTerminal a.state = true) : ∃ code, next = finding a code := by
  obtain ⟨outcome, state⟩ : ∃ outcome, a.state = .terminal outcome := by
    cases same : a.state <;> simp_all [isTerminal]
  unfold reduceDispatch at accepted
  split at accepted
  · cases accepted
  · rw [state] at accepted
    cases input <;> simp only at accepted
    case terminalReceipt reported eventSequence handle =>
      split at accepted
      · cases accepted
      · exact ⟨_, (Except.ok.inj accepted).symm⟩
    all_goals exact ⟨_, (Except.ok.inj accepted).symm⟩

theorem dispatch_open {input : DispatchInputV1} (accepted : reduceDispatch a input = .ok next)
    (running : isTerminal a.state = false) (progress : settles input = false) :
    Advances a next ∧ isTerminal next.state = false ∧
      next.terminalEventSequence = a.terminalEventSequence := by
  have moved {state : DispatchState} {handle : Option JsString} (still : isTerminal state = false)
      (same : Except.ok { a with state := state, providerHandle := handle } =
        (Except.ok next : Except DomainError AttemptGenerationStateV1)) :
      Advances a next ∧ isTerminal next.state = false ∧
        next.terminalEventSequence = a.terminalEventSequence := by
    obtain rfl := Except.ok.inj same
    exact ⟨⟨rfl, rfl, rfl, rfl, by simp [running]⟩, still, rfl⟩
  have noted {state : DispatchState} {handle : JsString} (still : isTerminal state = false)
      (noted : noteHandle a handle state = .ok next) :
      Advances a next ∧ isTerminal next.state = false ∧
        next.terminalEventSequence = a.terminalEventSequence := by
    obtain ⟨advances, same | same, sequence⟩ := note_handle_ok noted running
    · exact ⟨advances, same ▸ running, sequence⟩
    · exact ⟨advances, same ▸ still, sequence⟩
  unfold reduceDispatch at accepted
  split at accepted
  · cases accepted
  · cases state : a.state <;> rw [state] at accepted running <;> cases input
    all_goals first
      | (cases running; done)
      | (cases progress; done)
      | (cases accepted; done)
      | exact moved rfl accepted
      | exact noted rfl accepted

/-- The first receipt of an attempt that was handed over either settles it or, where
it names another provider operation, is noted as a finding. -/
theorem dispatch_receipt {outcome : AttemptTerminalState} {sequence : Nat}
    {handle : Option JsString}
    (accepted : reduceDispatch a (.terminalReceipt outcome sequence handle) = .ok next)
    (running : isTerminal a.state = false) :
    1 ≤ sequence ∧ a.state ≠ .planned ∧
      if conflictingHandle handle a.providerHandle then next = finding a .conflictingProviderHandle
      else next = { a with
        state := .terminal outcome
        providerHandle := a.providerHandle.or handle
        terminalEventSequence := some sequence } := by
  unfold reduceDispatch at accepted
  split at accepted
  · cases accepted
  · simp only at accepted
    split at accepted
    · cases accepted
    · rename_i positive
      refine ⟨by omega, ?_⟩
      cases state : a.state <;> rw [state] at accepted running <;> simp only at accepted
      case planned => cases accepted
      case terminal settled => cases running
      all_goals
        refine ⟨by simp, ?_⟩
        split at accepted
        · rw [if_pos ‹_›]
          exact (Except.ok.inj accepted).symm
        · rw [if_neg ‹_›]
          exact (Except.ok.inj accepted).symm

theorem dispatch_advances {input : DispatchInputV1} (accepted : reduceDispatch a input = .ok next)
    (progress : settles input = false) : Advances a next ∧
      (isTerminal a.state = false → isTerminal next.state = false) ∧
      next.terminalEventSequence = a.terminalEventSequence := by
  cases running : isTerminal a.state with
  | true =>
      obtain ⟨code, rfl⟩ := dispatch_terminal accepted running
      exact ⟨advances_finding a code, by simp, finding_sequence a code⟩
  | false =>
      obtain ⟨advances, still, same⟩ := dispatch_open accepted running progress
      exact ⟨advances, fun _ => still, same⟩

theorem Advances.refl (a : AttemptGenerationStateV1) : Advances a a :=
  ⟨rfl, rfl, rfl, rfl, fun _ => ⟨rfl, rfl⟩⟩

theorem Advances.trans {middle : AttemptGenerationStateV1} (first : Advances a middle)
    (second : Advances middle next) : Advances a next where
  attemptId := second.attemptId.trans first.attemptId
  generation := second.generation.trans first.generation
  bindingDigest := second.bindingDigest.trans first.bindingDigest
  idempotencyKeyDigest := second.idempotencyKeyDigest.trans first.idempotencyKeyDigest
  terminal settled := by
    obtain ⟨state, sequence⟩ := first.terminal settled
    obtain ⟨laterState, laterSequence⟩ := second.terminal (state ▸ settled)
    exact ⟨laterState.trans state, laterSequence.trans sequence⟩

theorem receipt_advances {outcome : AttemptTerminalState} {sequence : Nat}
    {handle : Option JsString}
    (accepted : reduceDispatch a (.terminalReceipt outcome sequence handle) = .ok next) :
    Advances a next := by
  cases running : isTerminal a.state with
  | true =>
      obtain ⟨code, rfl⟩ := dispatch_terminal accepted running
      exact advances_finding a code
  | false =>
      obtain ⟨-, -, effect⟩ := dispatch_receipt accepted running
      split at effect
      · exact effect ▸ advances_finding a _
      · exact effect ▸ ⟨rfl, rfl, rfl, rfl, by simp [running]⟩

theorem abort_advances {sequence : Nat} (unlaunched : a.state = .planned) :
    Advances a { a with state := .terminal .cancelled, terminalEventSequence := some sequence } :=
  ⟨rfl, rfl, rfl, rfl, by simp [unlaunched, isTerminal]⟩

end Dispatch

section Steps

/-- The records of attempts are as they were. -/
structure SameAttempts (s after : TaskExecutionProjectionV1) : Prop where
  prepared : after.prepared = s.prepared
  attempts : after.attempts = s.attempts
  aborted : after.aborted = s.aborted
  receipts : after.receipts = s.receipts

/-- An event leaves the attempts alone, plans a new one, or advances a prepared one:
by dispatch, by its first receipt, or by an abort before it was handed over. -/
inductive AttemptStep [Engine] (event : TaskExecutionEventV1) (sequence : Nat)
    (s after : TaskExecutionProjectionV1) : Prop where
  | same (frame : SameAttempts s after)
  | planned (p : TaskExecutionPreparedDataV1) (bindingDigest idempotencyKeyDigest : JsString)
      (payload : event.payload = .taskExecutionPreparedV1 p)
      (parsed : parsePrepared event.workspaceId event.runId p = .ok ())
      (accepted : reduceTaskExecutionPreparedV1 s p = .ok after)
      (prepared : after.prepared = s.prepared.set (attemptKey p.attemptId p.generation) p)
      (attempts : after.attempts = s.attempts.set (attemptKey p.attemptId p.generation)
        (plannedAttempt p bindingDigest idempotencyKeyDigest))
      (aborted : after.aborted = s.aborted) (receipts : after.receipts = s.receipts)
  | dispatched (key : JsString) (a next : AttemptGenerationStateV1)
      (stored : s.attempts.get key = some a) (advances : Advances a next)
      (running : isTerminal a.state = false → isTerminal next.state = false)
      (sequenced : next.terminalEventSequence = a.terminalEventSequence)
      (prepared : after.prepared = s.prepared) (attempts : after.attempts = s.attempts.set key next)
      (aborted : after.aborted = s.aborted) (receipts : after.receipts = s.receipts)
  | received (attempt : AttemptReference) (p : TaskExecutionPreparedDataV1)
      (a next : AttemptGenerationStateV1) (r : AttemptReceiptEnvelopeV1)
      (provenance : TaskExecutionReceiptProvenanceV1)
      (payload : event.payload = .taskExecutionReceiptV1 attempt r)
      (known : s.prepared.get (AttemptReference.key attempt) = some p)
      (stored : s.attempts.get (AttemptReference.key attempt) = some a)
      (unaborted : s.aborted.get (AttemptReference.key attempt) = none)
      (first : s.receipts.get (AttemptReference.key attempt) = none)
      (matched : receiptMatches event.workspaceId event.runId p a r)
      (read : parseTaskExecutionReceiptProvenanceV1 r.provenance = .ok provenance)
      (observed : r.outcome = .succeeded → successObserved p r provenance)
      (dispatched : reduceDispatch a
        (.terminalReceipt r.outcome sequence (some r.providerOperationId)) = .ok next)
      (prepared : after.prepared = s.prepared)
      (attempts : after.attempts = s.attempts.set (AttemptReference.key attempt) next)
      (aborted : after.aborted = s.aborted)
      (receipts : after.receipts = s.receipts.set (AttemptReference.key attempt) r)
  | stopped (key : JsString) (a : AttemptGenerationStateV1) (record : TaskExecutionAbortRecordV1)
      (stored : s.attempts.get key = some a) (unlaunched : a.state = .planned)
      (prepared : after.prepared = s.prepared)
      (attempts : after.attempts = s.attempts.set key
        { a with state := .terminal .cancelled, terminalEventSequence := some sequence })
      (aborted : after.aborted = s.aborted.set key record) (receipts : after.receipts = s.receipts)

theorem attempt_step [Engine] {s after : TaskExecutionProjectionV1} {event : TaskExecutionEventV1}
    {sequence : Nat} (accepted : reduceTaskExecutionV1 s event sequence = .ok after) :
    AttemptStep event sequence s after := by
  obtain ⟨parsed, effect⟩ := task_effect accepted
  cases effect with
  | graph frame =>
      exact .same ⟨frame.prepared, frame.attempts, frame.aborted, frame.receipts⟩
  | activated taskId accepted =>
      obtain ⟨-, rfl⟩ := activated_ok accepted
      exact .same ⟨rfl, rfl, rfl, rfl⟩
  | prepared p payload accepted =>
      obtain ⟨-, -, checked⟩ : _ ∧ _ ∧ parsePrepared event.workspaceId event.runId p = .ok () := by
        simpa only [parseTaskExecutionEventV1, check_ok_iff, payload] using parsed
      have effect := prepared_ok accepted
      obtain ⟨-, -, -, -, -, -, bindingDigest, idempotencyKeyDigest, -, same⟩ := effect
      exact .planned p bindingDigest idempotencyKeyDigest payload checked accepted (by rw [same])
        (by rw [same]) (by rw [same]) (by rw [same])
  | transition attempt input accepted =>
      obtain ⟨_, a, next, -, stored, -, progress, dispatched, rfl⟩ := transition_ok accepted
      obtain ⟨advances, running, sequenced⟩ := dispatch_advances dispatched progress
      exact .dispatched _ a next stored advances running sequenced rfl rfl rfl rfl
  | received attempt r payload accepted =>
      obtain ⟨p, a, provenance, known, stored, unaborted, -, matched, read, observed,
        ⟨rfl, -⟩ | ⟨first, next, dispatched, rfl⟩⟩ := receipt_ok accepted
      · exact .same ⟨rfl, rfl, rfl, rfl⟩
      · exact .received attempt p a next r provenance payload known stored unaborted first matched
          read observed dispatched rfl rfl rfl rfl
  | aborted attempt reasonCode accepted =>
      obtain ⟨_, a, -, stored, unlaunched, -, rfl⟩ := aborted_ok accepted
      exact .stopped _ a _ stored unlaunched rfl rfl rfl rfl
  | resolved r accepted =>
      obtain ⟨_, _, -, -, -, -, rfl⟩ := resolved_ok accepted
      exact .same ⟨rfl, rfl, rfl, rfl⟩

variable [Engine] {s after : TaskExecutionProjectionV1} {event : TaskExecutionEventV1}
  {sequence : Nat}

theorem attempt_forward (step : AttemptStep event sequence s after) :
    (∀ key p, s.prepared.get key = some p → after.prepared.get key = some p) ∧
      ∀ key a, s.attempts.get key = some a → (∃ p, s.prepared.get key = some p) →
        ∃ next, after.attempts.get key = some next ∧ Advances a next := by
  -- A written attempt advances the one it replaces.
  have written {key : JsString} {old new : AttemptGenerationStateV1}
      (stored : s.attempts.get key = some old) (advances : Advances old new)
      (attempts : after.attempts = s.attempts.set key new) {other : JsString}
      {a : AttemptGenerationStateV1} (found : s.attempts.get other = some a) :
      ∃ next, after.attempts.get other = some next ∧ Advances a next := by
    rw [attempts, Record.get_set]
    split
    · rename_i hit
      subst hit
      obtain rfl := Option.some.inj (stored.symm.trans found)
      exact ⟨new, rfl, advances⟩
    · exact ⟨a, found, .refl a⟩
  cases step with
  | same frame =>
      exact ⟨fun _ _ found => frame.prepared ▸ found,
        fun _ a found _ => ⟨a, frame.attempts ▸ found, .refl a⟩⟩
  | planned p bindingDigest idempotencyKeyDigest payload parsed accepted prepared attempts aborted
      receipts =>
      obtain ⟨-, unused, -⟩ := prepared_ok accepted
      have different {key : JsString} {q : TaskExecutionPreparedDataV1}
          (found : s.prepared.get key = some q) : attemptKey p.attemptId p.generation ≠ key := by
        rintro rfl
        exact Option.some_ne_none q (found.symm.trans unused)
      constructor
      · intro key q found
        rw [prepared, Record.get_set_other _ _ (different found), found]
      · rintro key a found ⟨q, known⟩
        exact ⟨a, by rw [attempts, Record.get_set_other _ _ (different known), found], .refl a⟩
  | dispatched key a next stored advances running sequenced prepared attempts aborted receipts =>
      exact ⟨fun _ _ found => prepared ▸ found,
        fun _ _ found _ => written stored advances attempts found⟩
  | received attempt p a next r provenance payload known stored unaborted first matched read observed
      dispatched prepared attempts aborted receipts =>
      exact ⟨fun _ _ found => prepared ▸ found,
        fun _ _ found _ => written stored (receipt_advances dispatched) attempts found⟩
  | stopped key a record stored unlaunched prepared attempts aborted receipts =>
      exact ⟨fun _ _ found => prepared ▸ found,
        fun _ _ found _ => written stored (abort_advances unlaunched) attempts found⟩

-- An attempt was prepared by this event, or it advances one that was there.
theorem attempt_back (step : AttemptStep event sequence s after) {key : JsString}
    {next : AttemptGenerationStateV1} (stored : after.attempts.get key = some next) :
    (∃ p bindingDigest idempotencyKeyDigest, reduceTaskExecutionPreparedV1 s p = .ok after ∧
        key = attemptKey p.attemptId p.generation ∧
        next = plannedAttempt p bindingDigest idempotencyKeyDigest ∧
        after.prepared = s.prepared.set key p) ∨
      ∃ a, s.attempts.get key = some a ∧ Advances a next := by
  have written {other : JsString} {old new : AttemptGenerationStateV1}
      (found : s.attempts.get other = some old) (advances : Advances old new)
      (attempts : after.attempts = s.attempts.set other new) :
      ∃ a, s.attempts.get key = some a ∧ Advances a next := by
    rw [attempts, Record.get_set] at stored
    split at stored
    · rename_i hit
      subst hit
      exact ⟨old, found, Option.some.inj stored ▸ advances⟩
    · exact ⟨next, stored, .refl next⟩
  cases step with
  | same frame => exact Or.inr ⟨next, frame.attempts ▸ stored, .refl next⟩
  | planned p bindingDigest idempotencyKeyDigest payload parsed accepted prepared attempts aborted
      receipts =>
      rw [attempts, Record.get_set] at stored
      split at stored
      · rename_i hit
        exact Or.inl ⟨p, bindingDigest, idempotencyKeyDigest, accepted, hit.symm,
          (Option.some.inj stored).symm, hit ▸ prepared⟩
      · exact Or.inr ⟨next, stored, .refl next⟩
  | dispatched key a next stored advances running sequenced prepared attempts aborted receipts =>
      exact Or.inr (written stored advances attempts)
  | received attempt p a next r provenance payload known stored unaborted first matched read observed
      dispatched prepared attempts aborted receipts =>
      exact Or.inr (written stored (receipt_advances dispatched) attempts)
  | stopped key a record stored unlaunched prepared attempts aborted receipts =>
      exact Or.inr (written stored (abort_advances unlaunched) attempts)

end Steps

end Horseness.AttemptSteps
