import Horseness.MigrationRecovery

/-!
What comes after a compensated migration. A recovery takes the compensated state for a settled
one and hands it back; a migration begins at a complete one only.
-/

namespace Horseness.CompensatedHomes

open CrashScripts InstallerVersions InstallerJournal InstallerMigrations MigrationRecovery

section Compensations

variable {Piece : Type} [StateDigests] {faults : Faults Step} {disk : Home Piece}
  {plan : MigrationPlan Piece}

/-- A call that returns with a compensated state has left that state behind. -/
def stored : Post (Home Piece) (Trouble Step Refusal) InstallerState where
  stopped := fun _ => True
  threw := fun _ _ => True
  returned := fun state after => state.phase = .compensated → after.files.state = some state

def storedIn : Post (Home Piece) (Trouble Step Refusal × InstallerState) InstallerState where
  stopped := fun _ => True
  threw := fun _ _ => True
  returned := fun state after => state.phase = .compensated → after.files.state = some state

omit [StateDigests] in
theorem stored_after {Result : Type} {script : Engine Piece Result}
    {rest : Result → Engine Piece InstallerState}
    (meets : ∀ result after, Meets faults stored (rest result) after) (disk : Home Piece) :
    Meets faults stored (script >>= rest) disk :=
  meets_bind.2 (meets_trivial (fun _ => trivial) (fun _ _ => trivial) meets script disk)

omit [StateDigests] in
theorem stored_in_after {Result : Type}
    {script : Script (Home Piece) Step (Trouble Step Refusal × InstallerState) Result}
    {rest : Result → Script (Home Piece) Step (Trouble Step Refusal × InstallerState) InstallerState}
    (meets : ∀ result after, Meets faults storedIn (rest result) after) (disk : Home Piece) :
    Meets faults storedIn (script >>= rest) disk :=
  meets_bind.2 (meets_trivial (fun _ => trivial) (fun _ _ => trivial) meets script disk)

omit [StateDigests] in
theorem other_stored {state : InstallerState} (other : state.phase ≠ .compensated)
    (disk : Home Piece) : Meets faults stored (pure state) disk :=
  fun compensated => absurd compensated other

omit [StateDigests] in
-- The state is persisted, and the journal entry after it leaves it alone.
theorem persisted_stored {state : InstallerState} {operation : JournalOperation} (disk : Home Piece) :
    Meets faults stored (do
      persist state
      record operation state
      return state) disk := by
  refine meets_bind.2 (persist_meets (fun _ => ⟨trivial, trivial⟩) (fun _ => ⟨trivial, trivial⟩) ?_)
  refine meets_bind.2 (record_meets (fun _ _ => trivial) (fun _ _ => trivial) (fun _ => trivial) ?_)
  intro _ journal _
  rfl

theorem recover_stored (disk : Home Piece) : Meets faults stored recover disk := by
  rw [recover, readState, meets_bind, meets_bind, meets_ask]
  refine ⟨fun _ => trivial, fun _ => trivial, ?_⟩
  cases found : disk.files.state with
  | none => exact trivial
  | some state =>
      refine meets_bind.2 (meets_refuse_unless.2 ⟨fun _ => ?_, fun _ => trivial⟩)
      simp only [meets_pure]
      split
      · exact fun _ => found
      · split
        · exact stored_after (fun _ after => other_stored (by rintro ⟨⟩) after) disk
        · refine stored_after (fun present after => ?_) disk
          split
          · exact stored_after (fun _ after => persisted_stored after) after
          · exact stored_after (fun _ after => other_stored (by rintro ⟨⟩) after) after

theorem compensate_stored {backup : Place} {state : InstallerState} (disk : Home Piece) :
    Meets faults stored (compensate plan backup state) disk := by
  refine stored_after (fun _ after => stored_after (fun _ after => meets_handle.2 ?_) after) disk
  have kept : Meets faults storedIn (do
      Script.holding (createState { state.toStateCore with phase := .compensating }) do
        hook .duringCompensation
        restore backup
      let compensated := createState
        { installedVersion := plan.fromVersion, generation := state.generation,
          phase := .compensated, transactionId := some plan.transactionId,
          backupPath := some backup, stagedPath := none, targetVersion := some plan.toVersion }
      Script.holding compensated do
        persist compensated
        record .compensated compensated
        return compensated) after :=
    stored_in_after (fun _ after => meets_holding.2 (persisted_stored after)) after
  refine meets_mono kept (fun _ holds => holds) (fun thrown after _ => ?_) fun _ _ holds => holds
  exact stored_after (fun _ after => stored_after (fun _ after => other_stored (by nofun) after) after)
    after

theorem advance_stored {backup staged : Place} {begun : InstallerState} (disk : Home Piece) :
    Meets faults storedIn (advance plan backup staged begun) disk := by
  rw [advance]
  refine stored_in_after (fun _ after => stored_in_after (fun _ after => stored_in_after
    (fun _ after => meets_holding.2 ?_) after) after) disk
  exact stored_after (fun _ after => stored_after (fun _ after =>
    other_stored (by rintro ⟨⟩) after) after) after

theorem migrate_stored (disk : Home Piece) : Meets faults stored (migrate plan) disk := by
  rw [migrate]
  refine stored_after (fun _ after => stored_after (fun _ after => stored_after (fun _ after =>
    stored_after (fun found after => stored_after (fun _ after => stored_after (fun _ after =>
      stored_after (fun _ after => stored_after (fun _ after => meets_handle.2 ?_) after) after)
        after) after) after) after) after) disk
  refine meets_mono (advance_stored after) (fun _ holds => holds) (fun thrown after _ => ?_) fun _ _ holds => holds
  dsimp only
  split
  · exact trivial
  · exact compensate_stored after

-- A migration that finds a compensated state is refused, and touches nothing.
theorem refused_meets {state : InstallerState} (found : disk.files.state = some state)
    (compensated : state.phase = .compensated) :
    Meets faults ⟨(· = disk), fun failure after => after = disk ∧
        (faults.Breaks ∨ ∃ refusal, failure = .refused refusal), fun _ _ => False⟩
      (migrate plan) disk := by
  have refuses : ∀ refusal : Refusal, disk = disk ∧
      (faults.Breaks ∨ ∃ given, (Trouble.refused refusal : Trouble Step Refusal) = .refused given) :=
    fun refusal => ⟨rfl, .inr ⟨refusal, rfl⟩⟩
  rw [migrate, meets_bind, meets_refuse_unless]
  refine ⟨fun _ => meets_bind.2 ?_, fun _ => refuses _⟩
  refine meets_refuse_unless.2 ⟨fun _ => meets_bind.2 ?_, fun _ => refuses _⟩
  refine meets_refuse_unless.2 ⟨fun _ => meets_bind.2 ?_, fun _ => refuses _⟩
  rw [recover, readState, meets_bind, meets_bind, meets_ask, found]
  refine ⟨fun _ => rfl, fun may => ⟨rfl, .inl ⟨_, may⟩⟩, ?_⟩
  refine meets_bind.2 (meets_refuse_unless.2 ⟨fun _ => ?_, fun _ => refuses _⟩)
  simp only [meets_pure, compensated, or_true, if_true]
  refine meets_bind.2 (meets_refuse_unless.2 ⟨fun settled => ?_, fun _ => refuses _⟩)
  cases settled.2

theorem refused_complete {state : InstallerState} (found : disk.files.state = some state)
    (compensated : state.phase = .compensated) :
    ∃ refusal, complete (migrate plan) disk = (.error (.refused refusal), disk) := by
  have ends := meets_complete.1 (refused_meets found compensated :
    Meets Faults.none _ (migrate plan) disk)
  rcases run : complete (migrate plan) disk with ⟨failure | result, final⟩
  · rw [run] at ends
    rcases ends with ⟨rfl, ⟨_, may⟩ | ⟨refusal, rfl⟩⟩
    · cases may
    · exact ⟨refusal, rfl⟩
  · rw [run] at ends
    exact ends.elim

theorem compensated_found {call : Engine Piece InstallerState}
    (called : call = recover ∨ ∃ prior, call = migrate prior) {choices : List Choice}
    {disk after : Home Piece} {state : InstallerState}
    (ended : follow choices call disk = (.returned state, after))
    (compensated : state.phase = .compensated) : after.files.state = some state := by
  have meets : Meets Faults.any stored call disk := by
    rcases called with rfl | ⟨prior, rfl⟩
    · exact recover_stored disk
    · exact migrate_stored disk
  have kept := meets_any meets choices
  rw [ended] at kept
  exact kept compensated

omit [StateDigests] in
-- A run that may only stop or throw, without a change, returns nothing.
theorem refused_run {Failure Result State : Type} {before : State} {may : Failure → Prop}
    {run : Ending Failure Result × State}
    (ends : Post.holds ⟨(· = before), fun failure after => after = before ∧ may failure,
      fun _ _ => False⟩ run) : run.2 = before ∧ ∀ result, run.1 ≠ .returned result := by
  rcases run with ⟨_ | result | failure, final⟩
  · exact ⟨ends, nofun⟩
  · exact ends.elim
  · exact ⟨ends.1, nofun⟩

/-- Once a call has ended in a compensated state, every later migration is refused and leaves the
home as it is, whatever its plan. -/
theorem compensated_never_migrated {call : Engine Piece InstallerState}
    (called : call = recover ∨ ∃ prior, call = migrate prior) {choices : List Choice}
    {disk after : Home Piece} {state : InstallerState}
    (ended : follow choices call disk = (.returned state, after))
    (compensated : state.phase = .compensated) (plan : MigrationPlan Piece) :
    (∃ refusal, complete (migrate plan) after = (.error (.refused refusal), after)) ∧
      ∀ retry, (follow retry (migrate plan) after).2 = after ∧
        ∀ result, (follow retry (migrate plan) after).1 ≠ .returned result := by
  have found := compensated_found called ended compensated
  constructor
  · exact refused_complete found compensated
  · intro retry
    exact refused_run (meets_any (refused_meets found compensated) retry)

end Compensations

section Recorded

attribute [local instance] recordedDigests

def failingPlan : MigrationPlan String := { samplePlan with transform := .fails () }

instance failing_compensates : Fact ((follow (List.replicate 60 .goes) (migrate failingPlan)
    sampleHome).1.result.map (fun state => (state.phase, state.installedVersion)) =
      some (.compensated, "1.0.0")) := ⟨by decide +kernel⟩

theorem failing_ended : ∃ state after, follow (List.replicate 60 .goes) (migrate failingPlan)
    sampleHome = (.returned state, after) ∧ state.phase = .compensated ∧
      state.installedVersion = "1.0.0" := by
  have compensates := failing_compensates.out
  rcases run : follow (List.replicate 60 .goes) (migrate failingPlan) sampleHome with
    ⟨_ | state | _, after⟩
  · rw [run] at compensates
    cases compensates
  · rw [run] at compensates
    have pair := Prod.mk.inj (Option.some.inj compensates)
    exact ⟨state, after, rfl, pair⟩
  · rw [run] at compensates
    cases compensates

/-- A transform has failed and was compensated; the plan with a sound transform is refused. -/
theorem compensated_plan_refused : ¬ ∀ (call : Engine String InstallerState) (choices : List Choice)
    (disk after : Home String) (state : InstallerState) (plan : MigrationPlan String),
    (call = recover ∨ ∃ prior, call = migrate prior) →
      follow choices call disk = (.returned state, after) → state.phase = .compensated →
        plan.fromVersion = state.installedVersion → isVersion plan.fromVersion = true →
          isVersion plan.toVersion = true → downgrade plan.fromVersion plan.toVersion = false →
            ∃ result final, complete (migrate plan) after = (.ok result, final) ∧
              result.phase = .complete ∧ result.installedVersion = plan.toVersion := by
  intro claim
  rcases failing_ended with ⟨state, after, ended, compensated, version⟩
  have called : migrate failingPlan = recover ∨ ∃ prior, migrate failingPlan = migrate prior :=
    .inr ⟨failingPlan, rfl⟩
  rcases claim _ _ _ _ _ samplePlan called ended compensated version.symm (by decide +kernel)
    (by decide +kernel) (by decide +kernel) with ⟨result, final, done, _⟩
  have found := compensated_found called ended compensated
  rcases refused_complete found compensated with ⟨refusal, refused⟩
  rw [done] at refused
  cases refused

/-- The home of a failed transform is migrated by no plan. -/
theorem failed_transform_kept : ∃ after : Home String, ∀ plan retry,
    (follow retry (migrate plan) after).2 = after := by
  rcases failing_ended with ⟨state, after, ended, compensated, _⟩
  refine ⟨after, fun plan retry => ?_⟩
  have never := compensated_never_migrated (.inr ⟨failingPlan, rfl⟩) ended compensated plan
  exact (never.2 retry).1

end Recorded

end Horseness.CompensatedHomes
