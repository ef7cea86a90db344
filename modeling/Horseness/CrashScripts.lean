import Mathlib.Logic.Function.Basic
import Mathlib.Tactic.Common

/-!
Scripts of atomic steps over a state that outlives the process running them. A step may
fail, and the process may stop before any step: the state then stays as the earlier steps
left it. `Meets` says what holds wherever a script can end, by recursion on the script.
-/

namespace Horseness.CrashScripts

inductive Script (State Label Failure Result : Type) where
  | done (result : Result)
  | fails (failure : Failure)
  -- The continuation reads the state the step found, the effect is on the state it leaves.
  | act (label : Label) (effect : State → State)
      (next : State → Script State Label Failure Result)
      (failed : Script State Label Failure Result)

/-- A step that was not carried out, or a refusal of the program itself. -/
inductive Trouble (Label Refusal : Type) where
  | broken (label : Label)
  | refused (refusal : Refusal)
  deriving DecidableEq, Repr

namespace Script

variable {State Label Failure Other Result Answer : Type}

def bind : Script State Label Failure Result → (Result → Script State Label Failure Answer) →
    Script State Label Failure Answer
  | .done result, rest => rest result
  | .fails failure, _ => .fails failure
  | .act label effect next failed, rest =>
      .act label effect (fun found => (next found).bind rest) (failed.bind rest)

/-- A failure is passed on to a handler, which may answer or fail in its turn. -/
def handle : Script State Label Failure Result → (Failure → Script State Label Other Result) →
    Script State Label Other Result
  | .done result, _ => .done result
  | .fails failure, handler => handler failure
  | .act label effect next failed, handler =>
      .act label effect (fun found => (next found).handle handler) (failed.handle handler)

instance : Monad (Script State Label Failure) where
  pure := .done
  bind := bind

instance : MonadExceptOf Failure (Script State Label Failure) where
  throw := .fails
  tryCatch := handle

def outcome (script : Script State Label Failure Result) :
    Script State Label Other (Except Failure Result) :=
  (script.bind fun result => .done (.ok result)).handle fun failure => .done (.error failure)

variable {Refusal : Type}

def step (label : Label) (effect : State → State) :
    Script State Label (Trouble Label Refusal) Unit :=
  .act label effect (fun _ => .done ()) (.fails (.broken label))

def ask (label : Label) (answer : State → Result) :
    Script State Label (Trouble Label Refusal) Result :=
  .act label id (fun found => .done (answer found)) (.fails (.broken label))

def attempt (label : Label) (effect : State → Option State) :
    Script State Label (Trouble Label Refusal) Unit :=
  .act label (fun found => (effect found).getD found)
    (fun found => match effect found with
      | some _ => .done ()
      | none => .fails (.broken label))
    (.fails (.broken label))

/-- One step that answers and may change the state, or refuses and leaves it. -/
def transact (label : Label) (body : State → Except Refusal (Result × State)) :
    Script State Label (Trouble Label Refusal) Result :=
  .act label (fun found => match body found with
      | .ok (_, after) => after
      | .error _ => found)
    (fun found => match body found with
      | .ok (result, _) => .done result
      | .error refusal => .fails (.refused refusal))
    (.fails (.broken label))

def refuseUnless (condition : Prop) [Decidable condition] (refusal : Refusal) :
    Script State Label (Trouble Label Refusal) Unit :=
  if condition then .done () else .fails (.refused refusal)

def compute : Except Refusal Result → Script State Label (Trouble Label Refusal) Result
  | .ok result => .done result
  | .error refusal => .fails (.refused refusal)

def within {Inner Inside Trouble_ : Type} (label : Inside → Label) (failure : Trouble_ → Failure)
    (view : State → Inner) (put : Inner → State → State) :
    Script Inner Inside Trouble_ Result → Script State Label Failure Result
  | .done result => .done result
  | .fails trouble => .fails (failure trouble)
  | .act inside effect next failed =>
      .act (label inside) (fun found => put (effect (view found)) found)
        (fun found => (next (view found)).within label failure view put)
        (failed.within label failure view put)

def holding {Value : Type} (value : Value) (section_ : Script State Label Failure Result) :
    Script State Label (Failure × Value) Result :=
  section_.handle fun failure => .fails (failure, value)

end Script

section Runs

variable {State Label Failure Result : Type}

inductive Choice where
  | goes
  | fails
  deriving DecidableEq, Repr

inductive Ending (Failure Result : Type) where
  | stopped
  | returned (result : Result)
  | threw (failure : Failure)
  deriving DecidableEq, Repr

def Ending.result : Ending Failure Result → Option Result
  | .returned result => some result
  | _ => none

def follow : List Choice → Script State Label Failure Result → State →
    Ending Failure Result × State
  | [], script, state => match script with
      | .done result => (.returned result, state)
      | .fails failure => (.threw failure, state)
      | .act .. => (.stopped, state)
  | choice :: choices, script, state => match script with
      | .done result => (.returned result, state)
      | .fails failure => (.threw failure, state)
      | .act _ effect next failed => match choice with
          | .goes => follow choices (next state) (effect state)
          | .fails => follow choices failed state

/-- The run in which no step fails and the process does not stop. -/
def complete : Script State Label Failure Result → State → Except Failure Result × State
  | .done result, state => (.ok result, state)
  | .fails failure, state => (.error failure, state)
  | .act _ effect next _, state => complete (next state) (effect state)

/-- The runs that return, whichever of their steps failed. -/
inductive Completes : Script State Label Failure Result → State → Result → State → Prop where
  | done {result state} : Completes (.done result) state result state
  | goes {label effect next failed state result after} :
      Completes (next state) (effect state) result after →
        Completes (.act label effect next failed) state result after
  | fails {label effect next failed state result after} :
      Completes failed state result after →
        Completes (.act label effect next failed) state result after

/-- The steps that may fail, and those the process may stop before. -/
structure Faults (Label : Type) where
  mayFail : Label → Bool
  mayStop : Label → Bool

def Faults.any : Faults Label := ⟨fun _ => true, fun _ => true⟩

def Faults.none : Faults Label := ⟨fun _ => false, fun _ => false⟩

def Faults.crashes : Faults Label := ⟨fun _ => false, fun _ => true⟩

def Faults.Stops (faults : Faults Label) : Prop := ∃ label, faults.mayStop label = true

def Faults.Breaks (faults : Faults Label) : Prop := ∃ label, faults.mayFail label = true

def permitted (faults : Faults Label) :
    List Choice → Script State Label Failure Result → State → Bool
  | [], script, _ => match script with
      | .act label .. => faults.mayStop label
      | _ => true
  | choice :: choices, script, state => match script with
      | .act label effect next failed => match choice with
          | .goes => permitted faults choices (next state) (effect state)
          | .fails => faults.mayFail label && permitted faults choices failed state
      | _ => true

theorem any_permitted (choices : List Choice) (script : Script State Label Failure Result)
    (state : State) : permitted Faults.any choices script state = true := by
  induction choices generalizing script state with
  | nil => cases script <;> rfl
  | cons choice choices ih =>
      cases script with
      | done => rfl
      | fails => rfl
      | act label effect next failed =>
          cases choice with
          | goes => exact ih (next state) (effect state)
          | fails => exact ih failed state

/-- What is to hold of the state wherever a script may end. -/
structure Post (State Failure Result : Type) where
  stopped : State → Prop
  threw : Failure → State → Prop
  returned : Result → State → Prop

def Post.holds (post : Post State Failure Result) : Ending Failure Result × State → Prop
  | (.stopped, state) => post.stopped state
  | (.returned result, state) => post.returned result state
  | (.threw failure, state) => post.threw failure state

def Meets (faults : Faults Label) (post : Post State Failure Result) :
    Script State Label Failure Result → State → Prop
  | .done result, state => post.returned result state
  | .fails failure, state => post.threw failure state
  | .act label effect next failed, state =>
      (faults.mayStop label = true → post.stopped state) ∧
        (faults.mayFail label = true → Meets faults post failed state) ∧
        Meets faults post (next state) (effect state)

theorem meets_follow {faults : Faults Label} {post : Post State Failure Result}
    {script : Script State Label Failure Result} {state : State}
    (meets : Meets faults post script state) {choices : List Choice}
    (allowed : permitted faults choices script state = true) :
    post.holds (follow choices script state) := by
  induction choices generalizing script state with
  | nil =>
      cases script with
      | done => exact meets
      | fails => exact meets
      | act => exact meets.1 allowed
  | cons choice choices ih =>
      cases script with
      | done => exact meets
      | fails => exact meets
      | act label effect next failed =>
          cases choice with
          | goes => exact ih meets.2.2 allowed
          | fails =>
              have may := (Bool.and_eq_true_iff.1 allowed)
              exact ih (meets.2.1 may.1) may.2

theorem meets_any {post : Post State Failure Result}
    {script : Script State Label Failure Result} {state : State}
    (meets : Meets Faults.any post script state) (choices : List Choice) :
    post.holds (follow choices script state) :=
  meets_follow meets (any_permitted choices script state)

theorem meets_state {holds : State → Prop} {faults : Faults Label}
    {script : Script State Label Failure Result} {state : State}
    (meets : Meets faults ⟨holds, fun _ => holds, fun _ => holds⟩ script state)
    {choices : List Choice} (allowed : permitted faults choices script state = true) :
    holds (follow choices script state).2 := by
  have ended := meets_follow meets allowed
  cases shape : follow choices script state with
  | mk ending after =>
      rw [shape] at ended
      cases ending <;> exact ended

theorem meets_completes {post : Post State Failure Result}
    {script : Script State Label Failure Result} {state : State}
    (meets : Meets Faults.none post script state)
    (threw : ∀ failure after, ¬post.threw failure after) :
    ∃ count result after, follow (List.replicate count .goes) script state =
      (.returned result, after) ∧ post.returned result after := by
  induction script generalizing state with
  | done result => exact ⟨0, result, state, rfl, meets⟩
  | fails failure => exact absurd meets (threw failure state)
  | act label effect next failed ih _ =>
      obtain ⟨count, result, after, shape, holds⟩ := ih state meets.2.2
      exact ⟨count + 1, result, after, shape, holds⟩

theorem meets_complete {post : Post State Failure Result}
    {script : Script State Label Failure Result} {state : State} :
    Meets Faults.none post script state ↔ match complete script state with
      | (.ok result, after) => post.returned result after
      | (.error failure, after) => post.threw failure after := by
  induction script generalizing state with
  | done => rfl
  | fails => rfl
  | act label effect next failed ih _ =>
      rw [complete, ← ih state]
      exact ⟨fun meets => meets.2.2, fun meets => ⟨nofun, nofun, meets⟩⟩

theorem complete_holds {holds : State → Prop} {script : Script State Label Failure Result}
    {state : State}
    (meets : Meets Faults.none ⟨holds, fun _ => holds, fun _ => holds⟩ script state) :
    holds (complete script state).2 := by
  have ends := meets_complete.1 meets
  rcases run : complete script state with ⟨_ | _, after⟩
  · rw [run] at ends
    exact ends
  · rw [run] at ends
    exact ends

-- The process stops before the step of this number, if it gets that far.
theorem crash_permitted (count : Nat) (script : Script State Label Failure Result)
    (state : State) :
    permitted Faults.crashes (List.replicate count .goes) script state = true := by
  induction count generalizing script state with
  | zero => cases script <;> rfl
  | succ count ih =>
      cases script with
      | done => rfl
      | fails => rfl
      | act label effect next failed => exact ih (next state) (effect state)

theorem meets_returns {returned : Result → State → Prop}
    {script : Script State Label Failure Result} {state : State}
    (meets : Meets Faults.none ⟨fun _ => False, fun _ _ => False, returned⟩ script state) :
    ∃ count result after, follow (List.replicate count .goes) script state =
      (.returned result, after) ∧ returned result after :=
  meets_completes meets fun _ _ threw => threw

end Runs

section Rules

variable {State Label Failure Other Result Answer Refusal : Type} {faults : Faults Label}

theorem meets_mono {first second : Post State Failure Result}
    {script : Script State Label Failure Result} {state : State}
    (meets : Meets faults first script state)
    (stopped : ∀ after, first.stopped after → second.stopped after)
    (threw : ∀ failure after, first.threw failure after → second.threw failure after)
    (returned : ∀ result after, first.returned result after → second.returned result after) :
    Meets faults second script state := by
  induction script generalizing state with
  | done result => exact returned result state meets
  | fails failure => exact threw failure state meets
  | act label effect next failed ih ih' =>
      exact ⟨fun stops => stopped state (meets.1 stops), fun breaks => ih' (meets.2.1 breaks),
        ih state meets.2.2⟩

theorem meets_trivial {post : Post State Failure Result} (stopped : ∀ state, post.stopped state)
    (threw : ∀ failure state, post.threw failure state)
    (returned : ∀ result state, post.returned result state)
    (script : Script State Label Failure Result) (state : State) :
    Meets faults post script state := by
  induction script generalizing state with
  | done result => exact returned result state
  | fails failure => exact threw failure state
  | act label effect next failed ih ih' =>
      exact ⟨fun _ => stopped state, fun _ => ih' state, ih state (effect state)⟩

theorem meets_fewer {fewer : Faults Label} {post : Post State Failure Result}
    {script : Script State Label Failure Result} {state : State}
    (stops : ∀ label, fewer.mayStop label = true → faults.mayStop label = true)
    (breaks : ∀ label, fewer.mayFail label = true → faults.mayFail label = true)
    (meets : Meets faults post script state) : Meets fewer post script state := by
  induction script generalizing state with
  | done => exact meets
  | fails => exact meets
  | act label effect next failed ih ih' =>
      exact ⟨fun may => meets.1 (stops label may), fun may => ih' (meets.2.1 (breaks label may)),
        ih state meets.2.2⟩

theorem meets_bind {post : Post State Failure Answer}
    {script : Script State Label Failure Result}
    {rest : Result → Script State Label Failure Answer} {state : State} :
    Meets faults post (script >>= rest) state ↔ Meets faults
      ⟨post.stopped, post.threw, fun result => Meets faults post (rest result)⟩ script state := by
  change Meets faults post (script.bind rest) state ↔ _
  induction script generalizing state with
  | done => rfl
  | fails => rfl
  | act label effect next failed ih ih' => simp only [Script.bind, Meets, ih, ih']

theorem meets_handle {post : Post State Other Result}
    {script : Script State Label Failure Result}
    {handler : Failure → Script State Label Other Result} {state : State} :
    Meets faults post (script.handle handler) state ↔ Meets faults
      ⟨post.stopped, fun failure => Meets faults post (handler failure), post.returned⟩
      script state := by
  induction script generalizing state with
  | done => rfl
  | fails => rfl
  | act label effect next failed ih ih' => simp only [Script.handle, Meets, ih, ih']

@[simp] theorem meets_pure {post : Post State Failure Result} {result : Result} {state : State} :
    Meets faults post (pure result : Script State Label Failure Result) state ↔
      post.returned result state := Iff.rfl

@[simp] theorem meets_done {post : Post State Failure Result} {result : Result} {state : State} :
    Meets faults post (.done result : Script State Label Failure Result) state ↔
      post.returned result state := Iff.rfl

@[simp] theorem meets_fails {post : Post State Failure Result} {failure : Failure}
    {state : State} :
    Meets faults post (.fails failure : Script State Label Failure Result) state ↔
      post.threw failure state := Iff.rfl

@[simp] theorem meets_throw {post : Post State Failure Result} {failure : Failure}
    {state : State} :
    Meets faults post (throw failure : Script State Label Failure Result) state ↔
      post.threw failure state := Iff.rfl

theorem meets_holding {Value : Type} {value : Value} {post : Post State (Failure × Value) Result}
    {script : Script State Label Failure Result} {state : State} :
    Meets faults post (script.holding value) state ↔ Meets faults
      ⟨post.stopped, fun failure => post.threw (failure, value), post.returned⟩ script state := by
  rw [Script.holding, meets_handle]
  rfl

theorem meets_step {post : Post State (Trouble Label Refusal) Unit} {label : Label}
    {effect : State → State} {state : State} :
    Meets faults post (Script.step label effect) state ↔
      (faults.mayStop label = true → post.stopped state) ∧
        (faults.mayFail label = true → post.threw (.broken label) state) ∧
        post.returned () (effect state) := Iff.rfl

theorem meets_ask {post : Post State (Trouble Label Refusal) Result} {label : Label}
    {answer : State → Result} {state : State} :
    Meets faults post (Script.ask label answer) state ↔
      (faults.mayStop label = true → post.stopped state) ∧
        (faults.mayFail label = true → post.threw (.broken label) state) ∧
        post.returned (answer state) state := Iff.rfl

theorem meets_attempt {post : Post State (Trouble Label Refusal) Unit} {label : Label}
    {effect : State → Option State} {state : State} :
    Meets faults post (Script.attempt label effect) state ↔
      (faults.mayStop label = true → post.stopped state) ∧
        (faults.mayFail label = true → post.threw (.broken label) state) ∧
        match effect state with
        | some after => post.returned () after
        | none => post.threw (.broken label) state := by
  simp only [Script.attempt, Meets]
  cases effect state <;> rfl

theorem meets_transact {post : Post State (Trouble Label Refusal) Result} {label : Label}
    {body : State → Except Refusal (Result × State)} {state : State} :
    Meets faults post (Script.transact label body) state ↔
      (faults.mayStop label = true → post.stopped state) ∧
        (faults.mayFail label = true → post.threw (.broken label) state) ∧
        match body state with
        | .ok (result, after) => post.returned result after
        | .error refusal => post.threw (.refused refusal) state := by
  simp only [Script.transact, Meets]
  rcases body state with _ | ⟨_, _⟩ <;> rfl

theorem meets_compute {post : Post State (Trouble Label Refusal) Result}
    {value : Except Refusal Result} {state : State} :
    Meets faults post (Script.compute value) state ↔ match value with
      | .ok result => post.returned result state
      | .error refusal => post.threw (.refused refusal) state := by
  cases value <;> rfl

theorem meets_refuse_unless {post : Post State (Trouble Label Refusal) Unit} {condition : Prop}
    [Decidable condition] {refusal : Refusal} {state : State} :
    Meets faults post (Script.refuseUnless condition refusal) state ↔
      (condition → post.returned () state) ∧ (¬condition → post.threw (.refused refusal) state) := by
  unfold Script.refuseUnless
  split <;> simp_all

theorem meets_within {Inner Inside Trouble_ : Type} {label : Inside → Label}
    {failure : Trouble_ → Failure} {view : State → Inner} {put : Inner → State → State}
    {post : Post State Failure Result}
    (view_put : ∀ inner outer, view (put inner outer) = inner)
    (put_put : ∀ first second outer, put second (put first outer) = put second outer)
    (put_view : ∀ outer, put (view outer) outer = outer)
    {script : Script Inner Inside Trouble_ Result} {state : State}
    (stopped : ∀ inner, post.stopped (put inner state))
    (threw : ∀ trouble inner, post.threw (failure trouble) (put inner state))
    (returned : ∀ result inner, Completes script (view state) result inner →
      post.returned result (put inner state)) :
    Meets faults post (script.within label failure view put) state := by
  -- The rest of the state stays as it was found: the induction is on what is left to run.
  suffices general : ∀ inner, (∀ result after, Completes script inner result after →
      post.returned result (put after state)) →
      Meets faults post (script.within label failure view put) (put inner state) by
    have whole := general (view state) returned
    rwa [put_view] at whole
  clear returned
  induction script with
  | done result => exact fun inner returned => returned result inner .done
  | fails trouble => exact fun inner _ => threw trouble inner
  | act inside effect next failed ih ih' =>
      intro inner returned
      refine ⟨fun _ => stopped inner, fun _ => ih' inner fun result after run =>
        returned result after (.fails run), ?_⟩
      simp only [view_put, put_put]
      exact ih inner (effect inner) fun result after run => returned result after (.goes run)

end Rules

section Invariants

variable {State Label Failure Other Result Answer Refusal : Type} {invariant : State → Prop}

/-- Every step of a script keeps an invariant, on whatever it finds. -/
def Preserves (invariant : State → Prop) : Script State Label Failure Result → Prop
  | .done _ => True
  | .fails _ => True
  | .act _ effect next failed => Preserves invariant failed ∧
      ∀ found, invariant found → invariant (effect found) ∧ Preserves invariant (next found)

theorem preserves_meets {faults : Faults Label} {script : Script State Label Failure Result}
    (preserves : Preserves invariant script) {state : State} (holds : invariant state) :
    Meets faults ⟨invariant, fun _ => invariant, fun _ => invariant⟩ script state := by
  induction script generalizing state with
  | done => exact holds
  | fails => exact holds
  | act label effect next failed ih ih' =>
      have kept := preserves.2 state holds
      exact ⟨fun _ => holds, fun _ => ih' preserves.1 holds, ih state kept.2 kept.1⟩

theorem preserves_bind {script : Script State Label Failure Result}
    {rest : Result → Script State Label Failure Answer} (first : Preserves invariant script)
    (then_ : ∀ result, Preserves invariant (rest result)) :
    Preserves invariant (script >>= rest) := by
  change Preserves invariant (script.bind rest)
  induction script with
  | done result => exact then_ result
  | fails => trivial
  | act label effect next failed ih ih' =>
      exact ⟨ih' first.1, fun found holds =>
        ⟨(first.2 found holds).1, ih found (first.2 found holds).2⟩⟩

theorem preserves_handle {script : Script State Label Failure Result}
    {handler : Failure → Script State Label Other Result} (first : Preserves invariant script)
    (then_ : ∀ failure, Preserves invariant (handler failure)) :
    Preserves invariant (script.handle handler) := by
  induction script with
  | done => trivial
  | fails failure => exact then_ failure
  | act label effect next failed ih ih' =>
      exact ⟨ih' first.1, fun found holds =>
        ⟨(first.2 found holds).1, ih found (first.2 found holds).2⟩⟩

theorem preserves_outcome {script : Script State Label Failure Result}
    (first : Preserves invariant script) : Preserves invariant
      (script.outcome : Script State Label Other (Except Failure Result)) :=
  preserves_handle (preserves_bind first fun _ => trivial) fun _ => trivial

theorem preserves_step {label : Label} {effect : State → State}
    (keeps : ∀ found, invariant found → invariant (effect found)) :
    Preserves invariant (Script.step label effect :
      Script State Label (Trouble Label Refusal) Unit) :=
  ⟨trivial, fun found holds => ⟨keeps found holds, trivial⟩⟩

theorem preserves_ask {label : Label} {answer : State → Result} :
    Preserves invariant (Script.ask label answer :
      Script State Label (Trouble Label Refusal) Result) :=
  ⟨trivial, fun _ holds => ⟨holds, trivial⟩⟩

theorem preserves_attempt {label : Label} {effect : State → Option State}
    (keeps : ∀ found after, effect found = some after → invariant found → invariant after) :
    Preserves invariant (Script.attempt label effect :
      Script State Label (Trouble Label Refusal) Unit) := by
  refine ⟨trivial, fun found holds => ?_⟩
  dsimp only
  cases shape : effect found with
  | none => exact ⟨holds, trivial⟩
  | some after => exact ⟨keeps found after shape holds, trivial⟩

theorem preserves_refuse_unless {condition : Prop} [Decidable condition] {refusal : Refusal} :
    Preserves invariant (Script.refuseUnless condition refusal :
      Script State Label (Trouble Label Refusal) Unit) := by
  unfold Script.refuseUnless
  split <;> trivial

end Invariants

section Files

/-- A file is created and written in two steps. -/
inductive FileState (Content : Type) where
  | absent
  | empty
  | written (content : Content)
  deriving DecidableEq

end Files

end Horseness.CrashScripts
