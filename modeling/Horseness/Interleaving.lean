import Horseness.CrashScripts
import Mathlib.Logic.Function.Basic
import Mathlib.Logic.Relation

/-!
Threads of scripts over one shared state. A thread that is never chosen again has crashed,
and a step may have to wait until the state allows it. A pact says which changes each
thread may make: a thread that is `Secure` keeps its part while the others keep theirs.
-/

namespace Horseness.Interleaving

open CrashScripts

section Systems

variable {State Label Failure Result Thread : Type}

structure Conduct (State Label : Type) where
  enabled : Label → State → Bool
  mayFail : Label → Bool

structure System (State Label Failure Result Thread : Type) where
  shared : State
  threads : Thread → Script State Label Failure Result

variable [DecidableEq Thread] {conduct : Conduct State Label}

def System.advance (conduct : Conduct State Label)
    (system : System State Label Failure Result Thread) (thread : Thread) (choice : Choice) :
    Option (System State Label Failure Result Thread) :=
  match system.threads thread with
  | .act label effect next failed => match choice with
      | .goes => if conduct.enabled label system.shared then
          some ⟨effect system.shared,
            Function.update system.threads thread (next system.shared)⟩ else none
      | .fails => if conduct.mayFail label then
          some ⟨system.shared, Function.update system.threads thread failed⟩ else none
  | _ => none

def Goes (conduct : Conduct State Label)
    (before after : System State Label Failure Result Thread) : Prop :=
  ∃ thread choice, before.advance conduct thread choice = some after

def Run (conduct : Conduct State Label) :
    System State Label Failure Result Thread → System State Label Failure Result Thread → Prop :=
  Relation.ReflTransGen (Goes conduct)

def System.play (conduct : Conduct State Label) :
    List (Thread × Choice) → System State Label Failure Result Thread →
      Option (System State Label Failure Result Thread)
  | [], system => some system
  | (thread, choice) :: schedule, system =>
      (system.advance conduct thread choice).bind (play conduct schedule)

theorem play_run {schedule : List (Thread × Choice)}
    {system after : System State Label Failure Result Thread}
    (played : system.play conduct schedule = some after) : Run conduct system after := by
  induction schedule generalizing system with
  | nil =>
      cases played
      exact .refl
  | cons first schedule ih =>
      rcases Option.bind_eq_some_iff.1 played with ⟨middle, moved, rest⟩
      exact .head ⟨first.1, first.2, moved⟩ (ih rest)

-- What one step does: its thread acts or fails, the other threads stay where they are.
theorem advance_cases {system after : System State Label Failure Result Thread}
    {thread : Thread} {choice : Choice}
    (moved : system.advance conduct thread choice = some after) :
    ∃ label effect next failed, system.threads thread = .act label effect next failed ∧
      ((conduct.enabled label system.shared = true ∧ after = ⟨effect system.shared,
          Function.update system.threads thread (next system.shared)⟩) ∨
        (conduct.mayFail label = true ∧
          after = ⟨system.shared, Function.update system.threads thread failed⟩)) := by
  unfold System.advance at moved
  cases here : system.threads thread with
  | done => simp [here] at moved
  | fails => simp [here] at moved
  | act label effect next failed =>
      simp only [here] at moved
      refine ⟨label, effect, next, failed, rfl, ?_⟩
      cases choice with
      | goes =>
          by_cases ready : conduct.enabled label system.shared = true
          · simp only [ready, if_true, Option.some.injEq] at moved
            exact .inl ⟨ready, moved.symm⟩
          · simp [ready] at moved
      | fails =>
          by_cases breaks : conduct.mayFail label = true
          · simp only [breaks, if_true, Option.some.injEq] at moved
            exact .inr ⟨breaks, moved.symm⟩
          · simp [breaks] at moved

end Systems

/-- What every thread may rely on, and what each may do. -/
structure Pact (State Thread : Type) where
  invariant : State → Prop
  allows : Thread → State → State → Prop
  idle : ∀ thread state, allows thread state state

/-- What is to hold when a thread has ended, whatever the others still do. -/
structure Ends (State Failure Result : Type) where
  returned : Result → State → Prop
  threw : Failure → State → Prop

section Security

variable {State Label Failure Other Result Answer Refusal Thread : Type}

def Pact.Others (pact : Pact State Thread) (thread : Thread) : State → State → Prop :=
  Relation.ReflTransGen fun before after =>
    pact.invariant before ∧ pact.invariant after ∧ ∃ other, other ≠ thread ∧
      pact.allows other before after

def Pact.Stable (pact : Pact State Thread) (thread : Thread) (fact : State → Prop) : Prop :=
  ∀ other, other ≠ thread → ∀ before after, pact.invariant before → pact.invariant after →
    pact.allows other before after → fact before → fact after

theorem Pact.Stable.kept {pact : Pact State Thread} {thread : Thread} {fact : State → Prop}
    (stable : pact.Stable thread fact) {before after : State}
    (others : pact.Others thread before after) (holds : fact before) : fact after := by
  induction others with
  | refl => exact holds
  | tail _ last ih =>
      rcases last with ⟨sound, sound', other, differs, allowed⟩
      exact stable other differs _ _ sound sound' allowed ih

theorem Pact.Stable.and {pact : Pact State Thread} {thread : Thread} {first second : State → Prop}
    (stable : pact.Stable thread first) (stable' : pact.Stable thread second) :
    pact.Stable thread fun state => first state ∧ second state :=
  fun other differs before after sound sound' allowed holds =>
    ⟨stable other differs before after sound sound' allowed holds.1,
      stable' other differs before after sound sound' allowed holds.2⟩

def Pact.Lasting (pact : Pact State Thread) (fact : State → Prop) : Prop :=
  ∀ thread before after, pact.invariant before → pact.invariant after →
    pact.allows thread before after → fact before → fact after

theorem Pact.Lasting.stable {pact : Pact State Thread} {fact : State → Prop}
    (lasting : pact.Lasting fact) (thread : Thread) : pact.Stable thread fact :=
  fun other _ before after sound sound' allowed holds =>
    lasting other before after sound sound' allowed holds

theorem Pact.lasting_true {pact : Pact State Thread} : pact.Lasting fun _ => True :=
  fun _ _ _ _ _ _ _ => trivial

theorem Pact.stable_true {pact : Pact State Thread} {thread : Thread} :
    pact.Stable thread fun _ => True := fun _ _ _ _ _ _ _ _ => trivial

variable (conduct : Conduct State Label) (pact : Pact State Thread) (thread : Thread)

def Secure (ends : Ends State Failure Result) :
    Script State Label Failure Result → State → Prop
  | .done result, state => ∀ now, pact.Others thread state now → pact.invariant now →
      ends.returned result now
  | .fails failure, state => ∀ now, pact.Others thread state now → pact.invariant now →
      ends.threw failure now
  | .act label effect next failed, state =>
      ∀ now, pact.Others thread state now → pact.invariant now →
        (conduct.enabled label now = true → pact.invariant (effect now) ∧
          pact.allows thread now (effect now) ∧ Secure ends (next now) (effect now)) ∧
        (conduct.mayFail label = true → Secure ends failed now)

variable {conduct pact thread} {ends : Ends State Failure Result}

theorem secure_later {script : Script State Label Failure Result} {state now : State}
    (secure : Secure conduct pact thread ends script state)
    (others : pact.Others thread state now) : Secure conduct pact thread ends script now := by
  cases script with
  | done => exact fun after more sound => secure after (others.trans more) sound
  | fails => exact fun after more sound => secure after (others.trans more) sound
  | act => exact fun after more sound => secure after (others.trans more) sound

-- A thread ends in a state of which the invariant holds, with every fact that lasts.
theorem secure_lasting {fact : State → Prop} (lasting : pact.Lasting fact)
    {script : Script State Label Failure Result} {state : State} (holds : fact state)
    (sound : pact.invariant state) (secure : Secure conduct pact thread ends script state) :
    Secure conduct pact thread
      ⟨fun result now => pact.invariant now ∧ fact now ∧ ends.returned result now,
        fun failure now => pact.invariant now ∧ fact now ∧ ends.threw failure now⟩
      script state := by
  induction script generalizing state with
  | done result =>
      exact fun now others sound' =>
        ⟨sound', (lasting.stable thread).kept others holds, secure now others sound'⟩
  | fails failure =>
      exact fun now others sound' =>
        ⟨sound', (lasting.stable thread).kept others holds, secure now others sound'⟩
  | act label effect next failed ih ih' =>
      intro now others sound'
      have here := secure now others sound'
      have known := (lasting.stable thread).kept others holds
      refine ⟨fun ready => ?_, fun breaks => ih' known sound' (here.2 breaks)⟩
      have done := here.1 ready
      exact ⟨done.1, done.2.1,
        ih now (lasting thread _ _ sound' done.1 done.2.1 known) done.1 done.2.2⟩

theorem secure_mono {wider : Ends State Failure Result}
    {script : Script State Label Failure Result} {state : State}
    (secure : Secure conduct pact thread ends script state)
    (returned : ∀ result now, ends.returned result now → wider.returned result now)
    (threw : ∀ failure now, ends.threw failure now → wider.threw failure now) :
    Secure conduct pact thread wider script state := by
  induction script generalizing state with
  | done result => exact fun now others sound => returned result now (secure now others sound)
  | fails failure => exact fun now others sound => threw failure now (secure now others sound)
  | act label effect next failed ih ih' =>
      intro now others sound
      have here := secure now others sound
      exact ⟨fun ready => ⟨(here.1 ready).1, (here.1 ready).2.1, ih now (here.1 ready).2.2⟩,
        fun breaks => ih' (here.2 breaks)⟩

theorem secure_bind {ends : Ends State Failure Answer}
    {script : Script State Label Failure Result}
    {rest : Result → Script State Label Failure Answer} {state : State}
    (secure : Secure conduct pact thread
      ⟨fun result => Secure conduct pact thread ends (rest result), ends.threw⟩ script state)
    (sound : pact.invariant state) :
    Secure conduct pact thread ends (script >>= rest) state := by
  change Secure conduct pact thread ends (script.bind rest) state
  induction script generalizing state with
  | done result => exact secure state .refl sound
  | fails failure => exact secure
  | act label effect next failed ih ih' =>
      intro now others sound
      have here := secure now others sound
      exact ⟨fun ready => ⟨(here.1 ready).1, (here.1 ready).2.1,
        ih now (here.1 ready).2.2 (here.1 ready).1⟩, fun breaks => ih' (here.2 breaks) sound⟩

theorem secure_outcome {handled : Ends State Other (Except Failure Result)}
    {script : Script State Label Failure Result} {state : State}
    (secure : Secure conduct pact thread ends script state)
    (returned : ∀ result now, ends.returned result now → handled.returned (.ok result) now)
    (threw : ∀ failure now, ends.threw failure now → handled.returned (.error failure) now) :
    Secure conduct pact thread handled script.outcome state := by
  unfold Script.outcome
  induction script generalizing state with
  | done result => exact fun now others sound => returned result now (secure now others sound)
  | fails failure => exact fun now others sound => threw failure now (secure now others sound)
  | act label effect next failed ih ih' =>
      intro now others sound
      have here := secure now others sound
      exact ⟨fun ready => ⟨(here.1 ready).1, (here.1 ready).2.1, ih now (here.1 ready).2.2⟩,
        fun breaks => ih' (here.2 breaks)⟩

theorem secure_done {result : Result} {state : State}
    (stable : pact.Stable thread (ends.returned result)) (holds : ends.returned result state) :
    Secure conduct pact thread ends (.done result : Script State Label Failure Result) state :=
  fun _ others _ => stable.kept others holds

theorem secure_fails {failure : Failure} {state : State}
    (stable : pact.Stable thread (ends.threw failure)) (holds : ends.threw failure state) :
    Secure conduct pact thread ends (.fails failure : Script State Label Failure Result) state :=
  fun _ others _ => stable.kept others holds

theorem secure_act {knows : State → Prop} {label : Label} {effect : State → State}
    {next : State → Script State Label Failure Result} {failed : Script State Label Failure Result}
    {state : State} (stable : pact.Stable thread knows) (holds : knows state)
    (goes : ∀ now, pact.invariant now → knows now → conduct.enabled label now = true →
      pact.invariant (effect now) ∧ pact.allows thread now (effect now) ∧
        Secure conduct pact thread ends (next now) (effect now))
    (breaks : conduct.mayFail label = true → ∀ now, pact.invariant now → knows now →
      Secure conduct pact thread ends failed now) :
    Secure conduct pact thread ends (.act label effect next failed) state :=
  fun now others sound =>
    have known := stable.kept others holds
    ⟨goes now sound known, fun may => breaks may now sound known⟩

variable {rest : Result → Script State Label (Trouble Label Refusal) Answer}
  {ends : Ends State (Trouble Label Refusal) Answer} {knows : State → Prop} {label : Label}
  {state : State}

theorem secure_ask {answer : State → Result} (stable : pact.Stable thread knows)
    (holds : knows state)
    (goes : ∀ now, pact.invariant now → knows now → conduct.enabled label now = true →
      Secure conduct pact thread ends (rest (answer now)) now)
    (breaks : conduct.mayFail label = true → ∀ now, pact.invariant now → knows now →
      Secure conduct pact thread ends (.fails (.broken label)) now) :
    Secure conduct pact thread ends (Script.ask label answer >>= rest) state :=
  secure_act stable holds
    (fun now sound known ready => ⟨sound, pact.idle thread now, goes now sound known ready⟩) breaks

theorem secure_transact {body : State → Except Refusal (Result × State)}
    (stable : pact.Stable thread knows) (holds : knows state)
    (goes : ∀ now, pact.invariant now → knows now → conduct.enabled label now = true →
      ∀ result after, body now = .ok (result, after) → pact.invariant after ∧
        pact.allows thread now after ∧ Secure conduct pact thread ends (rest result) after)
    (refuses : ∀ now, pact.invariant now → knows now → ∀ refusal, body now = .error refusal →
      Secure conduct pact thread ends (.fails (.refused refusal)) now)
    (breaks : conduct.mayFail label = true → ∀ now, pact.invariant now → knows now →
      Secure conduct pact thread ends (.fails (.broken label)) now) :
    Secure conduct pact thread ends (Script.transact label body >>= rest) state := by
  refine secure_act stable holds (fun now sound known ready => ?_) breaks
  dsimp only
  cases shape : body now with
  | error refusal => exact ⟨sound, pact.idle thread now, refuses now sound known refusal shape⟩
  | ok answer => exact goes now sound known ready answer.1 answer.2 shape

theorem secure_compute {value : Except Refusal Result}
    (goes : ∀ result, value = .ok result → Secure conduct pact thread ends (rest result) state)
    (refuses : ∀ refusal, value = .error refusal →
      Secure conduct pact thread ends (.fails (.refused refusal)) state) :
    Secure conduct pact thread ends (Script.compute value >>= rest) state := by
  cases value with
  | error refusal => exact refuses refusal rfl
  | ok result => exact goes result rfl

variable {next : Unit → Script State Label (Trouble Label Refusal) Answer}

theorem secure_step {effect : State → State} (stable : pact.Stable thread knows)
    (holds : knows state)
    (goes : ∀ now, pact.invariant now → knows now → conduct.enabled label now = true →
      pact.invariant (effect now) ∧ pact.allows thread now (effect now) ∧
        Secure conduct pact thread ends (next ()) (effect now))
    (breaks : conduct.mayFail label = true → ∀ now, pact.invariant now → knows now →
      Secure conduct pact thread ends (.fails (.broken label)) now) :
    Secure conduct pact thread ends (Script.step label effect >>= next) state :=
  secure_act stable holds goes breaks

theorem secure_attempt {effect : State → Option State} (stable : pact.Stable thread knows)
    (holds : knows state)
    (goes : ∀ now, pact.invariant now → knows now → conduct.enabled label now = true →
      ∀ after, effect now = some after → pact.invariant after ∧ pact.allows thread now after ∧
        Secure conduct pact thread ends (next ()) after)
    (breaks : ∀ now, pact.invariant now → knows now →
      Secure conduct pact thread ends (.fails (.broken label)) now) :
    Secure conduct pact thread ends (Script.attempt label effect >>= next) state := by
  refine secure_act stable holds (fun now sound known ready => ?_) fun _ => breaks
  dsimp only
  cases shape : effect now with
  | none => exact ⟨sound, pact.idle thread now, breaks now sound known⟩
  | some after => exact goes now sound known ready after shape

theorem secure_refuse_unless {condition : Prop} [Decidable condition] {refusal : Refusal}
    (goes : condition → Secure conduct pact thread ends (next ()) state)
    (refuses : ¬condition → Secure conduct pact thread ends (.fails (.refused refusal)) state) :
    Secure conduct pact thread ends (Script.refuseUnless condition refusal >>= next) state := by
  unfold Script.refuseUnless
  by_cases met : condition
  · rw [if_pos met]
    exact goes met
  · rw [if_neg met]
    exact refuses met

end Security

section Reading

variable {State Label Failure Result Answer Refusal Thread : Type}
  {conduct : Conduct State Label} {pact : Pact State Thread} {thread : Thread}

def Quiet : Script State Label Failure Result → Prop
  | .done _ => True
  | .fails _ => True
  | .act _ effect next failed =>
      (∀ found, effect found = found ∧ Quiet (next found)) ∧ Quiet failed

theorem quiet_secure {ends : Ends State Failure Result} {knows : State → Prop}
    {script : Script State Label Failure Result} (quiet : Quiet script)
    (stable : pact.Stable thread knows)
    (returned : ∀ result now, pact.invariant now → knows now → ends.returned result now)
    (threw : ∀ failure now, pact.invariant now → knows now → ends.threw failure now)
    {state : State} (holds : knows state) : Secure conduct pact thread ends script state := by
  induction script generalizing state with
  | done result =>
      exact fun now others sound => returned result now sound (stable.kept others holds)
  | fails failure =>
      exact fun now others sound => threw failure now sound (stable.kept others holds)
  | act label effect next failed ih ih' =>
      intro now others sound
      have known := stable.kept others holds
      have here := quiet.1 now
      refine ⟨fun _ => ?_, fun _ => ih' quiet.2 known⟩
      rw [here.1]
      exact ⟨sound, pact.idle thread now, ih now here.2 known⟩

theorem quiet_bind {script : Script State Label Failure Result}
    {rest : Result → Script State Label Failure Answer} (first : Quiet script)
    (then_ : ∀ result, Quiet (rest result)) : Quiet (script >>= rest) := by
  change Quiet (script.bind rest)
  induction script with
  | done result => exact then_ result
  | fails => trivial
  | act label effect next failed ih ih' =>
      exact ⟨fun found => ⟨(first.1 found).1, ih found (first.1 found).2⟩, ih' first.2⟩

theorem quiet_ask {label : Label} {answer : State → Result} :
    Quiet (Script.ask label answer : Script State Label (Trouble Label Refusal) Result) :=
  ⟨fun _ => ⟨rfl, trivial⟩, trivial⟩

theorem quiet_transact {label : Label} {body : State → Except Refusal (Result × State)}
    (same : ∀ found result after, body found = .ok (result, after) → after = found) :
    Quiet (Script.transact label body) := by
  refine ⟨fun found => ?_, trivial⟩
  dsimp only
  cases shape : body found with
  | error => exact ⟨rfl, trivial⟩
  | ok answer => exact ⟨same found answer.1 answer.2 shape, trivial⟩

theorem quiet_compute {value : Except Refusal Result} :
    Quiet (Script.compute value : Script State Label (Trouble Label Refusal) Result) := by
  cases value <;> trivial

theorem quiet_refuse_unless {condition : Prop} [Decidable condition] {refusal : Refusal} :
    Quiet (Script.refuseUnless condition refusal :
      Script State Label (Trouble Label Refusal) Unit) := by
  unfold Script.refuseUnless
  split <;> trivial

theorem quiet_preserves {invariant : State → Prop} {script : Script State Label Failure Result}
    (quiet : Quiet script) : Preserves invariant script := by
  induction script with
  | done => trivial
  | fails => trivial
  | act label effect next failed ih ih' =>
      refine ⟨ih' quiet.2, fun found holds => ?_⟩
      have here := quiet.1 found
      rw [here.1]
      exact ⟨holds, ih found here.2⟩

end Reading

section Runs

variable {State Label Failure Result Thread : Type} [DecidableEq Thread]
  {conduct : Conduct State Label} {pact : Pact State Thread}
  {ends : Thread → Ends State Failure Result}
  {system after : System State Label Failure Result Thread}

def System.Keeps (conduct : Conduct State Label) (pact : Pact State Thread)
    (ends : Thread → Ends State Failure Result)
    (system : System State Label Failure Result Thread) : Prop :=
  pact.invariant system.shared ∧
    ∀ thread, Secure conduct pact thread (ends thread) (system.threads thread) system.shared

theorem goes_keeps (keeps : system.Keeps conduct pact ends) (goes : Goes conduct system after) :
    after.Keeps conduct pact ends ∧
      ∃ thread, pact.allows thread system.shared after.shared := by
  rcases goes with ⟨thread, choice, moved⟩
  rcases keeps with ⟨sound, each⟩
  rcases advance_cases moved with ⟨label, effect, next, failed, here, ⟨ready, rfl⟩ | ⟨may, rfl⟩⟩
  · have own := each thread
    rw [here] at own
    rcases (own system.shared .refl sound).1 ready with ⟨sound', allowed, later⟩
    refine ⟨⟨sound', fun other => ?_⟩, thread, allowed⟩
    by_cases same : other = thread
    · subst same
      simpa only [Function.update_self] using later
    · dsimp only
      rw [Function.update_of_ne same]
      exact secure_later (each other)
        (.single ⟨sound, sound', thread, fun equal => same equal.symm, allowed⟩)
  · have own := each thread
    rw [here] at own
    refine ⟨⟨sound, fun other => ?_⟩, thread, pact.idle thread _⟩
    by_cases same : other = thread
    · subst same
      simpa only [Function.update_self] using (own system.shared .refl sound).2 may
    · dsimp only
      rw [Function.update_of_ne same]
      exact each other

theorem run_keeps (keeps : system.Keeps conduct pact ends) (run : Run conduct system after) :
    after.Keeps conduct pact ends := by
  induction run with
  | refl => exact keeps
  | tail _ last ih => exact (goes_keeps ih last).1

omit [DecidableEq Thread] in
theorem ended_returned (keeps : system.Keeps conduct pact ends) {thread : Thread} {result : Result}
    (ended : system.threads thread = .done result) :
    (ends thread).returned result system.shared := by
  have own := keeps.2 thread
  rw [ended] at own
  exact own system.shared .refl keeps.1

end Runs

end Horseness.Interleaving
