import Mathlib.Order.Defs.Unbundled
import Mathlib.Tactic.Common

/-!
Turns of a process. A turn reads and changes a state and may be refused; what it changed
before a refusal stays changed. What turns do is stated along a reflexive and transitive
relation between states, so that a turn made of smaller ones does what they do.
-/

namespace Horseness.Turns

abbrev Turn (Failure State Result : Type) := ExceptT Failure (StateM State) Result

section Results

variable {Failure State Result Other : Type}

def outcome (turn : Turn Failure State Result) (state : State) : Except Failure Result × State :=
  turn.run.run state

def check (checked : Except Failure Result) : Turn Failure State Result := ExceptT.mk (pure checked)

def observed (turn : Turn Failure State Result) :
    Turn Failure State (Except Failure Result) := ExceptT.mk (do
  let answer ← turn.run
  return .ok answer)

@[simp] theorem outcome_pure (result : Result) (state : State) :
    outcome (pure result : Turn Failure State Result) state = (.ok result, state) := rfl

@[simp] theorem outcome_throw (failure : Failure) (state : State) :
    outcome (throw failure : Turn Failure State Result) state = (.error failure, state) := rfl

@[simp] theorem outcome_get (state : State) :
    outcome (get : Turn Failure State State) state = (.ok state, state) := rfl

@[simp] theorem outcome_modify (change : State → State) (state : State) :
    outcome (modify change : Turn Failure State Unit) state = (.ok (), change state) := rfl

@[simp] theorem outcome_check (checked : Except Failure Result) (state : State) :
    outcome (check checked) state = (checked, state) := rfl

@[simp] theorem outcome_observed (turn : Turn Failure State Result) (state : State) :
    outcome (observed turn) state = (.ok (outcome turn state).1, (outcome turn state).2) := rfl

theorem outcome_bind (first : Turn Failure State Result) (next : Result → Turn Failure State Other)
    (state : State) : outcome (first >>= next) state = match outcome first state with
      | (.ok result, middle) => outcome (next result) middle
      | (.error failure, middle) => (.error failure, middle) := by
  change outcome (ExceptT.bind first next) state = _
  simp only [outcome, ExceptT.bind, ExceptT.run, ExceptT.mk, StateT.run_bind]
  cases shape : StateT.run first state with
  | mk answer middle => cases answer <;> rfl

theorem bind_answers_iff {first : Turn Failure State Result}
    {next : Result → Turn Failure State Other} {state after : State} {answer : Other} :
    outcome (first >>= next) state = (.ok answer, after) ↔ ∃ result middle,
      outcome first state = (.ok result, middle) ∧ outcome (next result) middle = (.ok answer, after) := by
  rw [outcome_bind]
  cases shape : outcome first state with
  | mk reply middle => cases reply <;> simp

theorem outcome_answered {first : Turn Failure State Result} {state middle : State} {result : Result}
    (answered : outcome first state = (.ok result, middle))
    (next : Result → Turn Failure State Other) :
    outcome (first >>= next) state = outcome (next result) middle := by
  rw [outcome_bind, answered]

theorem check_answers_iff {checked : Except Failure Result} {state after : State} {answer : Result} :
    outcome (check checked) state = (.ok answer, after) ↔ checked = .ok answer ∧ state = after := by
  rw [outcome_check, Prod.mk.injEq]

theorem pure_answers_iff {result answer : Result} {state after : State} :
    outcome (pure result : Turn Failure State Result) state = (.ok answer, after) ↔
      result = answer ∧ state = after := by
  rw [outcome_pure, Prod.mk.injEq, Except.ok.injEq]

theorem outcome_catch (turn : Turn Failure State Result)
    (handler : Failure → Turn Failure State Result) (state : State) :
    outcome (tryCatch turn handler) state = match outcome turn state with
      | (.ok result, after) => (.ok result, after)
      | (.error failure, after) => outcome (handler failure) after := by
  change outcome (ExceptT.tryCatch turn handler) state = _
  simp only [outcome, ExceptT.tryCatch, ExceptT.run, ExceptT.mk, StateT.run_bind]
  cases shape : StateT.run turn state with
  | mk answer after => cases answer <;> rfl

end Results

section Rules

variable {Failure State Result Other Item : Type}

/-- From a state with `before` the turn moves along `moves`, and what it returns meets
`after` in the state it leaves. -/
def Keeps (moves : State → State → Prop) (before : State → Prop)
    (turn : Turn Failure State Result) (after : Result → State → Prop) : Prop :=
  ∀ state, before state → moves state (outcome turn state).2 ∧
    ∀ result, (outcome turn state).1 = .ok result → after result (outcome turn state).2

variable {moves : State → State → Prop} {before : State → Prop} {after : Result → State → Prop}

theorem keeps_still [Std.Refl moves] {turn : Turn Failure State Result}
    (still : ∀ state, (outcome turn state).2 = state)
    (answers : ∀ state result, before state → (outcome turn state).1 = .ok result →
      after result state) : Keeps moves before turn after := by
  intro state holds
  rw [still state]
  exact ⟨Std.Refl.refl state, fun result answered => answers state result holds answered⟩

theorem keeps_pure [Std.Refl moves] {result : Result} (holds : ∀ state, before state → after result state) :
    Keeps moves before (pure result : Turn Failure State Result) after := by
  apply keeps_still (fun _ => rfl)
  rintro state _ given ⟨⟩
  exact holds state given

theorem keeps_check [Std.Refl moves] {checked : Except Failure Result}
    (holds : ∀ state result, before state → checked = .ok result → after result state) :
    Keeps moves before (check checked) after :=
  keeps_still (fun _ => rfl) holds

theorem keeps_modify {change : State → State} {after : Unit → State → Prop}
    (moved : ∀ state, before state → moves state (change state) ∧ after () (change state)) :
    Keeps moves before (modify change : Turn Failure State Unit) after :=
  fun state given => ⟨(moved state given).1, fun _ _ => (moved state given).2⟩

theorem keeps_bind [IsTrans State moves] {first : Turn Failure State Result}
    {next : Result → Turn Failure State Other} {m : Result → State → Prop} {after : Other → State → Prop}
    (one : Keeps moves before first m)
    (two : ∀ result, Keeps moves (m result) (next result) after) :
    Keeps moves before (first >>= next) after := by
  intro state given
  have begun := one state given
  rw [outcome_bind]
  cases shape : outcome first state with
  | mk answer reached =>
      rw [shape] at begun
      cases answer with
      | error failure => exact ⟨begun.1, fun result answered => by cases answered⟩
      | ok result =>
          have ended := two result reached (begun.2 result rfl)
          exact ⟨IsTrans.trans _ _ _ begun.1 ended.1, ended.2⟩

-- Whatever made the turn be refused, the handler starts where it stopped.
theorem keeps_catch [IsTrans State moves] {turn : Turn Failure State Result}
    {handler : Failure → Turn Failure State Result} {stopped : State → Prop}
    (tried : Keeps moves before turn after)
    (left : ∀ state, before state → stopped (outcome turn state).2)
    (handled : ∀ failure, Keeps moves stopped (handler failure) after) :
    Keeps moves before (tryCatch turn handler) after := by
  intro state given
  have begun := tried state given
  rw [outcome_catch]
  cases shape : outcome turn state with
  | mk answer reached =>
      rw [shape] at begun
      cases answer with
      | ok result => exact begun
      | error failure =>
          have ended := handled failure reached (by simpa [shape] using left state given)
          exact ⟨IsTrans.trans _ _ _ begun.1 ended.1, ended.2⟩

end Rules

section Runs

variable {State Label : Type}

/-- A run, with what was emitted on the way, in order. -/
inductive Runs (step : State → List Label → State → Prop) (start : State) :
    List Label → State → Prop
  | start : Runs step start [] start
  | step {labels emitted state next} (before : Runs step start labels state)
      (moved : step state emitted next) : Runs step start (labels ++ emitted) next

variable {step : State → List Label → State → Prop} {start : State}

theorem runs_invariant (holds : List Label → State → Prop) (base : holds [] start)
    (kept : ∀ labels emitted state next, Runs step start labels state → holds labels state →
      step state emitted next → holds (labels ++ emitted) next)
    {labels : List Label} {state : State} (run : Runs step start labels state) :
    holds labels state := by
  induction run with
  | start => exact base
  | step before moved ih => exact kept _ _ _ _ before ih moved

end Runs

end Horseness.Turns
