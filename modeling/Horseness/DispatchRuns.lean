import Horseness.AttemptSteps

/-!
What holds of an attempt generation after any accepted dispatch inputs. It has a terminal position
exactly if it is terminal, then keeps both and its provider handle; an open attempt forgets a handle
only by reconciliation; findings are only added.
-/

namespace Horseness.DispatchRuns

open FallibleRuns ScriptText PlainObjects Canonical Tasks Execution AttemptSteps

section Steps

variable {a next : AttemptGenerationStateV1} {input : DispatchInputV1}

/-- The handle of an open attempt after an input. -/
inductive HandleEffect (input : DispatchInputV1) (old : Option JsString) : Option JsString → Prop where
  | kept : HandleEffect input old old
  | noted (handle : JsString) (named : handle ≠ []) (agrees : ∀ other, old = some other →
      other = [] ∨ other = handle) : HandleEffect input old (some handle)
  | forgotten (reconciled : input = .reconcileNotFoundIdempotent) : HandleEffect input old none

/-- What an accepted input does: it is noted as a finding, settles an open attempt, or moves it. -/
inductive DispatchEffect (a : AttemptGenerationStateV1) (input : DispatchInputV1) :
    AttemptGenerationStateV1 → Prop where
  | found (code : FindingCode) : DispatchEffect a input (finding a code)
  | settled (outcome : AttemptTerminalState) (sequence : Nat) (handle : Option JsString)
      (running : isTerminal a.state = false)
      (kept : ∀ recorded, a.providerHandle = some recorded → handle = some recorded) :
      DispatchEffect a input { a with
        state := .terminal outcome, providerHandle := handle, terminalEventSequence := some sequence }
  | moved (state : DispatchState) (handle : Option JsString) (running : isTerminal a.state = false)
      (runs : isTerminal state = false) (effect : HandleEffect input a.providerHandle handle) :
      DispatchEffect a input { a with state := state, providerHandle := handle }

theorem note_effect {handle : JsString} {state : DispatchState} (running : isTerminal a.state = false)
    (runs : isTerminal state = false) (noted : noteHandle a handle state = .ok next) :
    DispatchEffect a input next := by
  rw [noteHandle] at noted
  by_cases empty : handle = []
  · rw [if_pos empty] at noted
    cases noted
  · rw [if_neg empty] at noted
    by_cases conflict : conflictingHandle (some handle) a.providerHandle = true
    · rw [if_pos conflict] at noted
      cases noted
      exact .found _
    · rw [if_neg conflict] at noted
      cases noted
      apply DispatchEffect.moved state _ running runs (.noted handle empty _)
      intro other recorded
      rw [recorded, conflictingHandle] at conflict
      by_cases blank : other = []
      · exact .inl blank
      · obtain ⟨first, rest, rfl⟩ := List.exists_cons_of_ne_nil blank
        obtain ⟨start, tail, rfl⟩ := List.exists_cons_of_ne_nil empty
        simp only [truthy, Bool.and_self, Bool.true_and, bne_iff_ne, ne_eq, not_not] at conflict
        exact .inr (Option.some.inj conflict).symm

theorem open_effect (running : isTerminal a.state = false) (progress : settles input = false)
    (accepted : reduceDispatch a input = .ok next) : DispatchEffect a input next := by
  have moves {state : DispatchState} {handle : Option JsString} (runs : isTerminal state = false)
      (effect : HandleEffect input a.providerHandle handle)
      (same : Except.ok { a with state := state, providerHandle := handle } =
        (Except.ok next : Except DomainError AttemptGenerationStateV1)) :
      DispatchEffect a input next := by
    cases same
    exact .moved state handle running runs effect
  unfold reduceDispatch at accepted
  split at accepted
  · cases accepted
  · cases state : a.state <;> rw [state] at accepted running <;> cases input
    all_goals first
      | (cases running; done)
      | (cases progress; done)
      | (cases accepted; done)
      | exact moves rfl .kept accepted
      | exact moves rfl (.forgotten rfl) accepted
      | exact note_effect (state ▸ running) rfl accepted

theorem receipt_effect {outcome : AttemptTerminalState} {sequence : Nat} {handle : Option JsString}
    (running : isTerminal a.state = false)
    (accepted : reduceDispatch a (.terminalReceipt outcome sequence handle) = .ok next) :
    DispatchEffect a (.terminalReceipt outcome sequence handle) next := by
  have effect := (dispatch_receipt accepted running).2.2
  split at effect
  · rw [effect]
    exact .found _
  · rw [effect]
    apply DispatchEffect.settled outcome sequence _ running
    intro recorded same
    rw [same, Option.some_or]

theorem manual_effect {outcome : AttemptTerminalState} {sequence : Nat}
    (running : isTerminal a.state = false)
    (accepted : reduceDispatch a (.manualResolution outcome sequence) = .ok next) :
    DispatchEffect a (.manualResolution outcome sequence) next := by
  unfold reduceDispatch at accepted
  split at accepted
  · cases accepted
  · cases state : a.state <;> rw [state] at accepted running
    all_goals try (cases accepted; done)
    case unknownOutcome =>
      simp only at accepted
      split at accepted
      · cases accepted
        exact .settled outcome sequence a.providerHandle (state ▸ running) fun _ same => same
      · cases accepted
    case terminal settled => cases running

theorem dispatch_effect (accepted : reduceDispatch a input = .ok next) :
    DispatchEffect a input next := by
  by_cases settled : isTerminal a.state = true
  · obtain ⟨code, rfl⟩ := dispatch_terminal accepted settled
    exact .found code
  · have running : isTerminal a.state = false := Bool.eq_false_iff.mpr settled
    by_cases progress : settles input = true
    · cases input with
      | terminalReceipt outcome sequence handle => exact receipt_effect running accepted
      | manualResolution outcome sequence => exact manual_effect running accepted
      | _ => cases progress
    · exact open_effect running (Bool.eq_false_iff.mpr progress) accepted

end Steps

section Runs

variable {start state later next : AttemptGenerationStateV1} {input : DispatchInputV1}

/-- A planned attempt that nothing has happened to. -/
structure Planned (a : AttemptGenerationStateV1) : Prop where
  state : a.state = .planned
  handle : a.providerHandle = none
  sequence : a.terminalEventSequence = none
  findings : a.findingCodes = []

/-- What every reachable attempt satisfies. -/
structure Dispatched (a : AttemptGenerationStateV1) : Prop where
  sequenced : Sequenced a
  once : a.findingCodes.Nodup
  named : isTerminal a.state = false → a.providerHandle ≠ some []

abbrev Dispatches (start state : AttemptGenerationStateV1) : Prop :=
  Reaches reduceDispatch (fun _ _ => True) start state

@[simp] theorem finding_handle (a : AttemptGenerationStateV1) (code : FindingCode) :
    (finding a code).providerHandle = a.providerHandle := by
  rw [finding]
  split <;> rfl

theorem finding_once {a : AttemptGenerationStateV1} (code : FindingCode)
    (once : a.findingCodes.Nodup) : (finding a code).findingCodes.Nodup := by
  rw [finding]
  by_cases known : code ∈ a.findingCodes
  · rwa [if_pos known]
  · rw [if_neg known, List.nodup_append]
    refine ⟨once, List.nodup_singleton _, fun item listed other last same => ?_⟩
    rw [List.mem_singleton] at last
    exact known (last ▸ same ▸ listed)

theorem finding_grows (a : AttemptGenerationStateV1) (code : FindingCode) :
    a.findingCodes <+: (finding a code).findingCodes := by
  rw [finding]
  split
  · exact List.prefix_rfl
  · exact List.prefix_append _ _

theorem planned_dispatched (planned : Planned start) : Dispatched start where
  sequenced := by simp [Sequenced, planned.state, planned.sequence, isTerminal]
  once := planned.findings ▸ List.nodup_nil
  named _ := by simp [planned.handle]

theorem dispatched_step (dispatched : Dispatched state) (effect : DispatchEffect state input next) :
    Dispatched next := by
  cases effect with
  | found code =>
      refine ⟨?_, finding_once code dispatched.once, ?_⟩
      · rw [Sequenced, finding_state, finding_sequence]
        exact dispatched.sequenced
      · rw [finding_state, finding_handle]
        exact dispatched.named
  | settled outcome sequence handle running kept =>
      exact ⟨by simp [Sequenced, isTerminal], dispatched.once, fun runs => by cases runs⟩
  | moved moved handle running runs effect =>
      have unplaced : state.terminalEventSequence = none := by
        by_contra placed
        rw [dispatched.sequenced.mpr placed] at running
        cases running
      refine ⟨by simp [Sequenced, runs, unplaced], dispatched.once, fun _ => ?_⟩
      cases effect with
      | kept => exact dispatched.named running
      | noted handle named agrees => exact fun blank => named (Option.some.inj blank)
      | forgotten reconciled => exact fun blank => by cases blank

theorem dispatches_dispatched (planned : Planned start) (reached : Dispatches start state) :
    Dispatched state := by
  apply reaches_invariant Dispatched (planned_dispatched planned) _ reached
  intro _ _ _ _ dispatched _ accepted
  exact dispatched_step dispatched (dispatch_effect accepted)

-- What an input leaves: all findings, and the outcome of a settled attempt.
theorem effect_keeps (effect : DispatchEffect state input next) :
    state.findingCodes <+: next.findingCodes ∧ (isTerminal state.state = true →
      next.state = state.state ∧ next.terminalEventSequence = state.terminalEventSequence ∧
        next.providerHandle = state.providerHandle) := by
  cases effect with
  | found code =>
      exact ⟨finding_grows state code, fun _ => ⟨finding_state _ _, finding_sequence _ _,
        finding_handle _ _⟩⟩
  | settled outcome sequence handle running kept =>
      exact ⟨List.prefix_rfl, fun settled => absurd settled (by simp [running])⟩
  | moved moved handle running runs effect =>
      exact ⟨List.prefix_rfl, fun settled => absurd settled (by simp [running])⟩

theorem dispatches_keep (reached : Dispatches state later) :
    state.findingCodes <+: later.findingCodes ∧ (isTerminal state.state = true →
      later.state = state.state ∧ later.terminalEventSequence = state.terminalEventSequence ∧
        later.providerHandle = state.providerHandle) := by
  induction reached with
  | start => exact ⟨List.prefix_rfl, fun _ => ⟨rfl, rfl, rfl⟩⟩
  | next input _ _ accepted ih =>
      obtain ⟨grown, kept⟩ := effect_keeps (dispatch_effect accepted)
      refine ⟨ih.1.trans grown, fun settled => ?_⟩
      obtain ⟨sameState, samePlace, sameHandle⟩ := ih.2 settled
      obtain ⟨lastState, lastPlace, lastHandle⟩ := kept (sameState ▸ settled)
      exact ⟨lastState.trans sameState, lastPlace.trans samePlace, lastHandle.trans sameHandle⟩

theorem handle_kept (dispatched : Dispatched state) (effect : DispatchEffect state input next)
    (held : state.providerHandle ≠ none) : next.providerHandle = state.providerHandle ∨
      input = .reconcileNotFoundIdempotent ∧ next.providerHandle = none := by
  obtain ⟨handle, recorded⟩ := Option.ne_none_iff_exists'.mp held
  cases effect with
  | found code => exact .inl (finding_handle _ _)
  | settled outcome sequence handle running kept => exact .inl ((kept _ recorded).trans recorded.symm)
  | moved moved handle running runs effect =>
      cases effect with
      | kept => exact .inl rfl
      | noted noted named agrees =>
          rcases agrees _ recorded with blank | same
          · exact absurd (blank ▸ recorded) (dispatched.named running)
          · exact .inl (same ▸ recorded.symm)
      | forgotten reconciled => exact .inr ⟨reconciled, rfl⟩

/-- What every sequence of accepted inputs does to a planned attempt generation. -/
theorem dispatch_generation (planned : Planned start) (reached : Dispatches start state) :
    (state.terminalEventSequence ≠ none ↔ isTerminal state.state = true) ∧
    state.findingCodes.Nodup ∧
    (∀ later, Dispatches state later → state.findingCodes <+: later.findingCodes ∧
      (isTerminal state.state = true → later.state = state.state ∧
        later.terminalEventSequence = state.terminalEventSequence ∧
        later.providerHandle = state.providerHandle)) ∧
    ∀ input next, reduceDispatch state input = .ok next → state.providerHandle ≠ none →
      next.providerHandle = state.providerHandle ∨
        input = .reconcileNotFoundIdempotent ∧ next.providerHandle = none := by
  have dispatched := dispatches_dispatched planned reached
  refine ⟨dispatched.sequenced.symm, dispatched.once, fun _ => dispatches_keep, ?_⟩
  intro input next accepted held
  exact handle_kept dispatched (dispatch_effect accepted) held

def plannedAttempt : AttemptGenerationStateV1 :=
  ⟨js "a-1", 1, .planned, js "b", js "k", none, none, []⟩

def intendedAttempt : AttemptGenerationStateV1 := { plannedAttempt with state := .launchIntentCommitted }

example : reduceDispatch plannedAttempt .commitLaunchIntent = .ok intendedAttempt := by decide +kernel

theorem dispatch_generation_intended :
    (intendedAttempt.terminalEventSequence ≠ none ↔ isTerminal intendedAttempt.state = true) ∧
    intendedAttempt.findingCodes.Nodup ∧
    (∀ later, Dispatches intendedAttempt later →
      intendedAttempt.findingCodes <+: later.findingCodes ∧
      (isTerminal intendedAttempt.state = true → later.state = intendedAttempt.state ∧
        later.terminalEventSequence = intendedAttempt.terminalEventSequence ∧
        later.providerHandle = intendedAttempt.providerHandle)) ∧
    ∀ input next, reduceDispatch intendedAttempt input = .ok next →
      intendedAttempt.providerHandle ≠ none →
      next.providerHandle = intendedAttempt.providerHandle ∨
        input = .reconcileNotFoundIdempotent ∧ next.providerHandle = none := by
  apply @dispatch_generation plannedAttempt intendedAttempt
  · constructor <;> rfl
  · exact .next .commitLaunchIntent .start trivial rfl

end Runs

end Horseness.DispatchRuns
