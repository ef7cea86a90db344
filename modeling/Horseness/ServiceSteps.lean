import Horseness.ServiceRequests
import Horseness.TaskViews

/-!
What a section that answers has done: each check it made held, and each append it made
continued the replay of its run by the events it sealed.
-/

namespace Horseness.ServiceSteps

open FallibleRuns ScriptText ScriptEngine Canonical EventChains Turns ExecutionStore ServiceViews
  ServiceCommands ServiceRequests

variable [Engine]

section Answers

variable {ledger after : Ledger} {store : Store}

theorem ask_answers_iff {Result : Type} {checked : Except DomainError Result} {answer : Result} :
    outcome (ask checked) ledger = (.ok answer, after) ↔ checked = .ok answer ∧ ledger = after := by
  rw [ask, check_answers_iff, map_error_ok_iff]

theorem stored_answers_iff : outcome stored ledger = (.ok store, after) ↔
    ledger.store = store ∧ ledger = after := by
  rw [stored, bind_answers_iff]
  constructor
  · rintro ⟨_, _, got, same⟩
    rw [outcome_get, Prod.mk.injEq, Except.ok.injEq] at got
    obtain ⟨rfl, rfl⟩ := got
    exact pure_answers_iff.mp same
  · rintro ⟨rfl, rfl⟩
    exact ⟨ledger, ledger, rfl, rfl⟩

theorem viewed_answers_iff {runId : JsString} {view : ExecutionView} :
    outcome (viewed runId) ledger = (.ok view, after) ↔
      viewOf ledger.store runId = .ok view ∧ ledger = after := by
  rw [viewed, bind_answers_iff]
  constructor
  · rintro ⟨_, _, got, asked⟩
    obtain ⟨rfl, rfl⟩ := stored_answers_iff.mp got
    exact ask_answers_iff.mp asked
  · rintro ⟨seen, rfl⟩
    exact ⟨_, _, stored_answers_iff.mpr ⟨rfl, rfl⟩, ask_answers_iff.mpr ⟨seen, rfl⟩⟩

theorem commit_answers_iff : outcome (commit store) ledger = (.ok (), after) ↔
    ⟨store, ledger.emitted ++ [.committed store]⟩ = after := by
  rw [commit, outcome_modify, Prod.mk.injEq]
  exact ⟨And.right, fun same => ⟨rfl, same⟩⟩

end Answers

section Views

variable {store : Store} {runId : JsString} {view : ExecutionView}

theorem view_stored (seen : viewOf store runId = .ok view) :
    store.runs.get runId = some view.stream ∧ view.cursor.workspaceId = store.workspaceId ∧
      view.cursor.runId = runId ∧ view.canonical = view.stream.replay.canonical ∧
      view.state = view.stream.replay.operational.execution ∧
      view.stream.head = some ⟨view.cursor.runSequence, view.cursor.runEnvelopeHash⟩ := by
  simp only [viewOf, bind_ok_iff, required_ok_iff, pure_ok_iff] at seen
  obtain ⟨stream, found, head, headed, rfl⟩ := seen
  exact ⟨found, rfl, rfl, rfl, rfl, headed⟩

theorem extend_ok_iff {stream longer : RunStream} {added : List HashedEventEnvelopeV1} :
    stream.extend added = .ok longer ↔ longer.events = stream.events ++ added := by
  unfold RunStream.extend
  constructor
  · intro extended
    split at extended
    · obtain rfl := Except.ok.inj extended
      rfl
    · cases extended
  · intro same
    have replayed := longer.replayed
    rw [same] at replayed
    split
    · next replay found =>
        obtain rfl := Except.ok.inj (found.symm.trans replayed)
        cases longer
        simp only at same
        subst same
        rfl
    · next code failed => cases failed.symm.trans replayed

end Views

end Horseness.ServiceSteps
