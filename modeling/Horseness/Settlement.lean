import Horseness.Evidence

/-!
A receipt settles its attempt unless it names another provider operation than the
one recorded for the attempt. Such a receipt takes the receipt slot although the
dispatch reducer only notes a finding, so the attempt stays open with its slot taken.
-/

namespace Horseness.Settlement

open FallibleRuns Records ScriptText ScriptEngine Canonical Tasks AttemptReceipts ExecutionEvents
  Execution AttemptSteps RecordedRuns

section Invariant

variable [Engine] {s after : TaskExecutionProjectionV1} {event : TaskExecutionEventV1}
  {sequence : Nat}

/-- A first receipt names the operation that was recorded for its attempt, if one was. -/
def handleAgrees (s : TaskExecutionProjectionV1) (event : TaskExecutionEventV1) : Bool :=
  match event.payload with
  | .taskExecutionReceiptV1 attempt r =>
      (s.receipts.get (AttemptReference.key attempt)).isSome ||
        (s.attempts.get (AttemptReference.key attempt)).all (fun a =>
          !conflictingHandle (some r.providerOperationId) a.providerHandle)
  | _ => true

/-- The attempt of a stored receipt ended as the receipt reports. -/
def SettledBy (s : TaskExecutionProjectionV1) (key : JsString) (r : AttemptReceiptEnvelopeV1) :
    Prop :=
  ∃ a position, s.attempts.get key = some a ∧ a.state = .terminal r.outcome ∧
    a.terminalEventSequence = some position

structure Settled (s : TaskExecutionProjectionV1) : Prop where
  known : ∀ key a, s.attempts.get key = some a → ∃ p, s.prepared.get key = some p
  closed : ∀ key a, s.attempts.get key = some a → isTerminal a.state = true →
    (∃ r, s.receipts.get key = some r) ∨ ∃ record, s.aborted.get key = some record
  settled : ∀ key r, s.receipts.get key = some r → SettledBy s key r

omit [Engine] in
theorem settled_empty : Settled emptyTaskExecutionProjectionV1 := by
  constructor <;> simp [emptyTaskExecutionProjectionV1]

theorem closed_step (settled : Settled s) (step : AttemptStep event sequence s after) :
    ∀ key a, after.attempts.get key = some a → isTerminal a.state = true →
      (∃ r, after.receipts.get key = some r) ∨ ∃ record, after.aborted.get key = some record := by
  intro key a stored past
  cases step with
  | same frame =>
      rw [frame.receipts, frame.aborted]
      exact settled.closed key a (frame.attempts ▸ stored) past
  | planned p bindingDigest idempotencyKeyDigest payload parsed accepted prepared attempts aborted
      receipts =>
      rw [receipts, aborted]
      rw [attempts, Record.get_set] at stored
      split at stored
      · obtain rfl := Option.some.inj stored
        cases past
      · exact settled.closed key a stored past
  | dispatched other old next found advances running sequenced prepared attempts aborted receipts =>
      rw [receipts, aborted]
      rw [attempts, Record.get_set] at stored
      split at stored
      · rename_i hit
        subst hit
        obtain rfl := Option.some.inj stored
        apply settled.closed _ old found
        by_contra still
        rw [running (by simpa using still)] at past
        cases past
      · exact settled.closed key a stored past
  | received attempt p old next r provenance payload known found unaborted first matched read observed
      dispatched prepared attempts aborted receipts =>
      rw [receipts, aborted, Record.get_set]
      split
      · exact Or.inl ⟨r, rfl⟩
      · rename_i other
        rw [attempts, Record.get_set_other _ _ other] at stored
        exact settled.closed key a stored past
  | stopped other old record found unlaunched prepared attempts aborted receipts =>
      rw [receipts, aborted, Record.get_set]
      split
      · exact Or.inr ⟨record, rfl⟩
      · rename_i different
        rw [attempts, Record.get_set_other _ _ different] at stored
        exact settled.closed key a stored past

-- Where the handles agree, the first receipt of an attempt ends it.
theorem settled_by_step (settled : Settled s) (step : AttemptStep event sequence s after)
    (agrees : handleAgrees s event = true) :
    ∀ key r, after.receipts.get key = some r → SettledBy after key r := by
  intro key r stored
  have kept (old : s.receipts.get key = some r) : SettledBy after key r := by
    obtain ⟨a, position, found, state, recordedAt⟩ := settled.settled key r old
    obtain ⟨next, moved, advances⟩ := (attempt_forward step).2 key a found (settled.known key a found)
    obtain ⟨same, sameAt⟩ := advances.terminal (by rw [state]; rfl)
    exact ⟨next, position, moved, same.trans state, sameAt.trans recordedAt⟩
  cases step with
  | same frame => exact kept (frame.receipts ▸ stored)
  | planned p bindingDigest idempotencyKeyDigest payload parsed accepted prepared attempts aborted
      receipts =>
      exact kept (receipts ▸ stored)
  | dispatched other old next found advances running sequenced prepared attempts aborted receipts =>
      exact kept (receipts ▸ stored)
  | received attempt p old next fresh provenance payload known found unaborted first matched read
      observed dispatched prepared attempts aborted receipts =>
      rw [receipts, Record.get_set] at stored
      split at stored
      · rename_i hit
        subst hit
        obtain rfl := Option.some.inj stored
        -- Neither receipt nor abort is recorded, so the attempt is still open.
        have running : isTerminal old.state = false := by
          by_contra past
          rcases settled.closed _ old found (by simpa using past) with ⟨_, taken⟩ | ⟨_, taken⟩
          · rw [first] at taken
            cases taken
          · rw [unaborted] at taken
            cases taken
        have agree : conflictingHandle (some fresh.providerOperationId) old.providerHandle = false := by
          simpa [handleAgrees, payload, first, found] using agrees
        obtain ⟨-, -, effect⟩ := dispatch_receipt dispatched running
        rw [if_neg (by simp [agree])] at effect
        exact ⟨next, sequence, by rw [attempts, Record.get_set_same], effect ▸ rfl, effect ▸ rfl⟩
      · exact kept stored
  | stopped other old record found unlaunched prepared attempts aborted receipts =>
      exact kept (receipts ▸ stored)

theorem settled_step (settled : Settled s)
    (accepted : reduceTaskExecutionV1 s event sequence = .ok after)
    (agrees : handleAgrees s event = true) : Settled after := by
  have step := attempt_step accepted
  refine ⟨?_, closed_step settled step, settled_by_step settled step agrees⟩
  intro key next stored
  rcases attempt_back step stored with ⟨p, _, _, -, -, -, prepared⟩ | ⟨a, found, -⟩
  · exact ⟨p, by rw [prepared, Record.get_set_same]⟩
  · obtain ⟨p, known⟩ := settled.known key a found
    exact ⟨p, (attempt_forward step).1 key p known⟩

/-- In a run whose first receipts name the recorded operations, every stored receipt
has settled its attempt. -/
theorem receipts_settle
    (reached : Reaches executionStep (fun state input => handleAgrees state input.1 = true)
      emptyTaskExecutionProjectionV1 s) :
    ∀ key r, s.receipts.get key = some r → SettledBy s key r := by
  have settled := reaches_invariant Settled settled_empty
    (fun _ _ _ _ settled agrees accepted => settled_step settled accepted agrees) reached
  exact settled.settled

end Invariant

section Receipts

attribute [local instance] recordedEngine

/-- An attempt is handed over, its operation recorded where there is one, and then
settled by the receipt of the operation `op`. -/
def receiptPayloads (handle : Option JsString) :
    Except DomainError (List TaskExecutionPayloadV1) := do
  let prepared ← samplePrepared (js "t") (js "a") 1 []
  let receipt ← sampleReceipt prepared
  let handles := handle.toList.map (fun handle =>
    TaskExecutionPayloadV1.taskExecutionTransitionV1 (sampleReference prepared) (.recordHandle handle))
  return [.taskCreatedV2 (sampleTask (js "t")), .taskActivatedV1 (js "t"),
    .taskExecutionPreparedV1 prepared,
    .taskExecutionTransitionV1 (sampleReference prepared) .commitLaunchIntent] ++ handles ++
    [.taskExecutionReceiptV1 (sampleReference prepared) receipt]

def agreeing : RunGuard := fun state input => handleAgrees state input.1

def agreeingState : TaskExecutionProjectionV1 :=
  sampleState agreeing (receiptPayloads (some (js "op")))

/-- The receipt is stored in both runs, and settles nothing where the handle is another. -/
instance receipt_runs_end : Fact (endsIn (fun s => (s.receipts.get (attemptKey (js "a") 1)).isSome)
      (sampleRun agreeing (receiptPayloads (some (js "op")))) = true ∧
    endsIn (fun s => (s.receipts.get (attemptKey (js "a") 1)).isSome &&
        (s.attempts.get (attemptKey (js "a") 1)).all (fun a => !isTerminal a.state))
      (sampleRun anything (receiptPayloads (some (js "other")))) = true) := ⟨by decide +kernel⟩

theorem receipts_settle_agreeing :
    ∃ key r, agreeingState.receipts.get key = some r ∧ SettledBy agreeingState key r := by
  have ended := sample_reaches agreeing (receiptPayloads (some (js "op")))
    _ receipt_runs_end.out.1
  obtain ⟨r, stored⟩ := Option.isSome_iff_exists.mp ended.2
  exact ⟨_, r, stored, receipts_settle ended.1 _ r stored⟩

def conflictState : TaskExecutionProjectionV1 :=
  sampleState anything (receiptPayloads (some (js "other")))

/-- The receipt names an operation other than the recorded one: it is stored, and its
attempt stays open. -/
theorem receipts_settle_conflict :
    Reachable conflictState ∧
      ¬ ∀ key r, conflictState.receipts.get key = some r → SettledBy conflictState key r := by
  have ended := sample_reachable (receiptPayloads (some (js "other"))) _ receipt_runs_end.out.2
  refine ⟨ended.1, ?_⟩
  intro settled
  obtain ⟨taken, running⟩ := Bool.and_eq_true_iff.mp ended.2
  obtain ⟨r, stored⟩ := Option.isSome_iff_exists.mp taken
  obtain ⟨a, _, found, state, -⟩ := settled _ r stored
  change (conflictState.attempts.get _).all _ = true at running
  rw [found] at running
  simp [state, isTerminal] at running

end Receipts

end Horseness.Settlement
