import Horseness.InstallerMigrations

/-!
What a migration and the recoveries after it leave of the active home, wherever the process
stops and whichever steps fail.
-/

namespace Horseness.MigrationRecovery

open CrashScripts Folders InstallerVersions InstallerJournal InstallerMigrations

section Homes

variable {Piece : Type} [StateDigests] {faults : Faults Step} {disk : Home Piece}

-- The journal is read by nothing here: appending to it changes none of what follows.
def noting (disk : Home Piece) (journal : List JournalEntry) : Home Piece :=
  disk.write fun files => { files with journal := journal }

omit [StateDigests] in
@[simp] theorem noting_folders (journal : List JournalEntry) :
    (noting disk journal).folders = disk.folders := rfl

omit [StateDigests] in
@[simp] theorem noting_state (journal : List JournalEntry) :
    (noting disk journal).files.state = disk.files.state := rfl

def storing (disk : Home Piece) (state : InstallerState) : Home Piece :=
  disk.write fun files => { files with state := some state }

omit [StateDigests] in
@[simp] theorem storing_folders (state : InstallerState) :
    (storing disk state).folders = disk.folders := rfl

omit [StateDigests] in
@[simp] theorem storing_state (state : InstallerState) :
    (storing disk state).files.state = some state := rfl

theorem read_state_meets {post : Post (Home Piece) (Trouble Step Refusal) InstallerState}
    {state : InstallerState} (found : disk.files.state = some state)
    (genuine : authentic state = true) (stopped : faults.Stops → post.stopped disk)
    (threw : faults.Breaks → post.threw (.broken .readState) disk)
    (returned : post.returned state disk) : Meets faults post readState disk := by
  rw [readState, meets_bind, meets_ask]
  refine ⟨fun may => stopped ⟨_, may⟩, fun may => threw ⟨_, may⟩, ?_⟩
  simp only [found]
  rw [meets_bind, meets_refuse_unless]
  exact ⟨fun _ => returned, fun refused => absurd genuine refused⟩

omit [StateDigests] in
theorem persist_meets {post : Post (Home Piece) (Trouble Step Refusal) Unit}
    {state : InstallerState}
    (stopped : faults.Stops → post.stopped disk ∧ post.stopped (storing disk state))
    (threw : faults.mayFail (.persist state.phase) = true →
      post.threw (.broken (.persist state.phase)) disk ∧
        post.threw (.broken (.persist state.phase)) (storing disk state))
    (returned : post.returned () (storing disk state)) :
    Meets faults post (persist state) disk :=
  write_atomic_meets (fun may => (stopped ⟨_, may⟩).1) (fun may => (stopped ⟨_, may⟩).2)
    (fun may => (threw may).1) (fun may => (threw may).2) returned

omit [StateDigests] in
theorem record_meets {post : Post (Home Piece) (Trouble Step Refusal) Unit}
    {operation : JournalOperation} {state : InstallerState}
    (stopped : faults.Stops → ∀ journal, post.stopped (noting disk journal))
    (threw : faults.mayFail (.record operation) = true →
      ∀ journal, post.threw (.broken (.record operation)) (noting disk journal))
    (refused : ¬validPayload (entryOf operation state) →
      post.threw (.refused .invalidJournalPayload) disk)
    (returned : validPayload (entryOf operation state) →
      ∀ journal, post.returned () (noting disk journal)) :
    Meets faults post (record operation state) disk := by
  rw [record, meets_bind, meets_refuse_unless]
  refine ⟨fun accepted => meets_bind.2 ?_, refused⟩
  rw [meets_step]
  refine ⟨fun may => stopped ⟨_, may⟩ disk.files.journal,
    fun may => threw may disk.files.journal, ?_⟩
  exact meets_step.2 ⟨fun may => stopped ⟨_, may⟩ _, fun may => threw may _, returned accepted _⟩

omit [StateDigests] in
-- A restored home is the backup; on the way to it nothing but the home changes.
theorem restore_meets {post : Post (Home Piece) (Trouble Step Refusal) Unit} {backup : Place}
    {pieces : List Piece} (other : backup ≠ .active) (saved : disk.folders backup = some pieces)
    (stopped : faults.Stops → ∀ home, post.stopped (disk.put .active home))
    (threw : faults.Breaks → ∀ label home, post.threw (.broken label) (disk.put .active home))
    (returned : post.returned () (disk.put .active (some pieces))) :
    Meets faults post (restore backup) disk := by
  rw [restore, meets_bind]
  refine remove_meets (fun part => ⟨fun may => stopped ⟨_, may⟩ part,
    fun may => threw ⟨_, may⟩ _ part⟩) (meets_bind.2 ?_)
  have source : (disk.put .active none).folders backup = some pieces := by
    rw [Disk.put_other _ _ other, saved]
  refine copy_meets source (by simp) ?_ ?_ ?_ ?_
  · exact fun may => stopped ⟨_, may⟩ _
  · exact fun may => threw ⟨_, may⟩ _ _
  · intro part _
    simp only [Disk.put_put]
    exact ⟨fun may => stopped ⟨_, may⟩ _, fun may => threw ⟨_, may⟩ _ _⟩
  · simp only [Disk.put_put]
    rw [meets_step]
    exact ⟨fun may => stopped ⟨_, may⟩ _, fun may => threw ⟨_, may⟩ _ _, returned⟩

/-- The state has a generation, and no backup is of a later one. -/
structure Numbered (number : Nat) (disk : Home Piece) : Prop where
  state : ∃ state, disk.files.state = some state ∧ state.generation = number
  fresh : ∀ generation version, number < generation →
    disk.folders (.backup generation version) = none

section Migration

variable {plan : MigrationPlan Piece} {pre : List Piece} {generation : Nat}

def backupOf (plan : MigrationPlan Piece) (generation : Nat) : Place :=
  .backup generation plan.fromVersion

/-- Contents the transform may leave staged in a run that returns, from the ones before. -/
def Stages (plan : MigrationPlan Piece) (pre staged : List Piece) : Prop :=
  ∃ left, Completes plan.transform (some pre, none) () (left, some staged)

/-- The versions of an accepted plan, and a generation that is a safe integer. -/
structure Admissible (plan : MigrationPlan Piece) (generation : Nat) : Prop where
  fromVersion : isVersion plan.fromVersion = true
  toVersion : isVersion plan.toVersion = true
  positive : 1 ≤ generation
  room : generation < 2 ^ 53

def Journalled (plan : MigrationPlan Piece) : Prop :=
  isToken plan.transactionId = true ∧ isToken plan.toVersion = true

def Unsettled (phase : MigrationPhase) : Prop := ¬(phase = .complete ∨ phase = .compensated)

instance : DecidablePred Unsettled := fun phase =>
  inferInstanceAs (Decidable ¬(phase = .complete ∨ phase = .compensated))

/-- A state of the migration between its begin and its end. -/
structure Opened (plan : MigrationPlan Piece) (generation : Nat) (state : InstallerState) :
    Prop where
  genuine : authentic state = true
  installed : state.installedVersion = plan.fromVersion
  transaction : state.transactionId = some plan.transactionId
  target : state.targetVersion = some plan.toVersion
  path : state.backupPath = some (backupOf plan generation)

theorem authentic_create_iff {core : StateCore} : authentic (createState core) = true ↔
    isVersion core.installedVersion = true ∧ 1 ≤ core.generation ∧ core.generation < 2 ^ 53 := by
  simp only [authentic, Bool.and_eq_true, decide_eq_true_eq, beq_iff_eq, and_assoc]
  exact ⟨fun ⟨version, positive, room, _⟩ => ⟨version, positive, room⟩,
    fun ⟨version, positive, room⟩ => ⟨version, positive, room, rfl⟩⟩

theorem begun_opened (admissible : Admissible plan generation) :
    Opened plan generation (begunState plan generation) :=
  ⟨authentic_create_iff.2 ⟨admissible.fromVersion, admissible.positive, admissible.room⟩,
    rfl, rfl, rfl, rfl⟩

theorem Opened.enter {state : InstallerState} (opened : Opened plan generation state)
    (phase : MigrationPhase) :
    Opened plan generation (createState { state.toStateCore with phase := phase }) := by
  have genuine := opened.genuine
  simp only [authentic, Bool.and_eq_true, decide_eq_true_eq] at genuine
  exact ⟨authentic_create_iff.2 ⟨genuine.1.1.1, genuine.1.1.2, genuine.1.2⟩,
    opened.installed, opened.transaction, opened.target, opened.path⟩

def settled (plan : MigrationPlan Piece) (generation : Nat) (state : InstallerState) :
    InstallerState :=
  createState { state.toStateCore with
    phase := .compensated, backupPath := some (backupOf plan generation), stagedPath := none }

theorem Opened.settle {state : InstallerState} (opened : Opened plan generation state) :
    Opened plan generation (settled plan generation state) := by
  have genuine := opened.genuine
  simp only [authentic, Bool.and_eq_true, decide_eq_true_eq] at genuine
  exact ⟨authentic_create_iff.2 ⟨genuine.1.1.1, genuine.1.1.2, genuine.1.2⟩,
    opened.installed, opened.transaction, opened.target, rfl⟩

theorem Opened.entry {state : InstallerState} (opened : Opened plan generation state)
    (operation : JournalOperation) :
    (entryOf operation state).transactionId = plan.transactionId ∧
      (entryOf operation state).releaseVersion = plan.toVersion := by
  simp [entryOf, opened.transaction, opened.target]

/-- The backup is complete, and was not begun before the journal took the plan's texts. -/
def Saved (plan : MigrationPlan Piece) (pre : List Piece) (generation : Nat)
    (disk : Home Piece) : Prop :=
  disk.folders (backupOf plan generation) = some pre ∧ Journalled plan

def Untouched (plan : MigrationPlan Piece) (pre : List Piece) (generation : Nat)
    (disk : Home Piece) : Prop :=
  disk.folders (backupOf plan generation) = none ∧ disk.folders .active = some pre

/-- The states from which recovery loses nothing. -/
inductive Recoverable (plan : MigrationPlan Piece) (pre : List Piece) (generation : Nat)
    (disk : Home Piece) : Prop where
  | kept {state : InstallerState} (read : disk.files.state = some state)
      (genuine : authentic state = true) (settled : ¬Unsettled state.phase)
      (installed : state.installedVersion = plan.fromVersion)
      (home : disk.folders .active = some pre)
  | moved {state : InstallerState} {staged : List Piece} (read : disk.files.state = some state)
      (genuine : authentic state = true) (settled : ¬Unsettled state.phase)
      (installed : state.installedVersion = plan.toVersion) (stages : Stages plan pre staged)
      (home : disk.folders .active = some staged)
  | interrupted {state : InstallerState} (read : disk.files.state = some state)
      (opened : Opened plan generation state) (unsettled : Unsettled state.phase)
      (safe : Saved plan pre generation disk ∨ Untouched plan pre generation disk)

def Settled (plan : MigrationPlan Piece) (pre : List Piece) (state : InstallerState)
    (disk : Home Piece) : Prop :=
  disk.files.state = some state ∧
    (disk.folders .active = some pre ∧ state.installedVersion = plan.fromVersion ∨
      (∃ staged, Stages plan pre staged ∧ disk.folders .active = some staged ∧
        state.installedVersion = plan.toVersion) ∨
      state.phase = .repairRequired ∧ (disk.folders .active = some pre ∨
        ∃ backup, state.backupPath = some backup ∧ disk.folders backup = some pre))

omit [StateDigests] in
theorem backup_ne_active : backupOf plan generation ≠ .active := by simp [backupOf]

omit [StateDigests] in
theorem Saved.put (saved : Saved plan pre generation disk) {place : Place}
    (other : backupOf plan generation ≠ place) (content : Option (List Piece)) :
    Saved plan pre generation (disk.put place content) :=
  ⟨by rw [Disk.put_other _ _ other, saved.1], saved.2⟩

theorem recover_complete {post : Post (Home Piece) (Trouble Step Refusal) InstallerState}
    {state : InstallerState} (found : disk.files.state = some state)
    (genuine : authentic state = true) (settled : ¬Unsettled state.phase)
    (stopped : faults.Stops → post.stopped disk)
    (threw : faults.Breaks → post.threw (.broken .readState) disk)
    (returned : post.returned state disk) : Meets faults post recover disk := by
  rw [recover, meets_bind]
  refine read_state_meets found genuine stopped threw ?_
  rw [Unsettled, not_not] at settled
  simp only [if_pos settled]
  exact returned

omit [StateDigests] in
theorem repair_meets {post : Post (Home Piece) (Trouble Step Refusal) InstallerState}
    {state : InstallerState}
    (stopped : faults.Stops → post.stopped disk ∧ post.stopped (storing disk state))
    (threw : faults.Breaks → ∀ failure, post.threw failure disk ∧
      post.threw failure (storing disk state))
    (returned : post.returned state (storing disk state)) :
    Meets faults post (persist state >>= fun _ => pure state) disk :=
  meets_bind.2 (persist_meets stopped (fun may => threw ⟨_, may⟩ _) returned)

/-- Wherever a recovery ends. It stops or throws only by a fault. -/
def recovering (faults : Faults Step) (plan : MigrationPlan Piece) (pre : List Piece)
    (generation : Nat) : Post (Home Piece) (Trouble Step Refusal) InstallerState where
  stopped := fun after => faults.Stops ∧ Recoverable plan pre generation after
  threw := fun _ after => faults.Breaks ∧ Recoverable plan pre generation after
  returned := fun state after =>
    Settled plan pre state after ∧ Recoverable plan pre generation after

theorem repair_recovering {state broken : InstallerState} (read : disk.files.state = some state)
    (opened : Opened plan generation state) (unsettled : Unsettled state.phase)
    (safe : Saved plan pre generation disk ∨ Untouched plan pre generation disk)
    (entered : Opened plan generation broken) (phase : broken.phase = .repairRequired) :
    Meets faults (recovering faults plan pre generation)
      (persist broken >>= fun _ => pure broken) disk := by
  have stays := Recoverable.interrupted read opened unsettled safe
  have repaired : Recoverable plan pre generation (storing disk broken) :=
    .interrupted rfl entered (by rw [phase]; decide) safe
  refine repair_meets (fun may => ⟨⟨may, stays⟩, may, repaired⟩)
    (fun may _ => ⟨⟨may, stays⟩, may, repaired⟩) ⟨⟨rfl, .inr (.inr ⟨phase, ?_⟩)⟩, repaired⟩
  rcases safe with saved | untouched
  · exact .inr ⟨_, entered.path, saved.1⟩
  · exact .inl untouched.2

theorem restore_recovering {state : InstallerState} (read : disk.files.state = some state)
    (opened : Opened plan generation state) (unsettled : Unsettled state.phase)
    (saved : Saved plan pre generation disk) :
    Meets faults (recovering faults plan pre generation)
      (do
        restore (backupOf plan generation)
        persist (settled plan generation state)
        record .compensated (settled plan generation state)
        return settled plan generation state) disk := by
  have open_ : ∀ home, Recoverable plan pre generation (disk.put .active home) := fun home =>
    .interrupted read opened unsettled (.inl (saved.put backup_ne_active home))
  refine meets_bind.2 (restore_meets backup_ne_active saved.1 (fun may home => ⟨may, open_ home⟩)
    (fun may _ home => ⟨may, open_ home⟩) (meets_bind.2 ?_))
  have entered := opened.settle
  have kept : ∀ journal, Recoverable plan pre generation (noting (storing
      (disk.put .active (some pre)) (settled plan generation state)) journal) := fun journal =>
    .kept rfl entered.genuine (by decide : ¬Unsettled .compensated) opened.installed (by simp)
  refine persist_meets (fun may => ⟨⟨may, open_ _⟩, may, kept _⟩)
    (fun may => ⟨⟨⟨_, may⟩, open_ _⟩, ⟨_, may⟩, kept _⟩) (meets_bind.2 ?_)
  refine record_meets (fun may journal => ⟨may, kept journal⟩)
    (fun may journal => ⟨⟨_, may⟩, kept journal⟩) (fun refused => ?_) fun _ journal =>
      ⟨⟨rfl, .inl ⟨by simp, opened.installed⟩⟩, kept journal⟩
  rw [validPayload, (entered.entry _).1, (entered.entry _).2] at refused
  exact absurd saved.2 refused

/-- Whatever recovery does to a recoverable home, it stays recoverable; a recovery that
returns leaves a settled one, and without a fault every recovery returns. -/
theorem recover_meets (recoverable : Recoverable plan pre generation disk) :
    Meets faults (recovering faults plan pre generation) recover disk := by
  cases recoverable with
  | kept read genuine settled installed home =>
      have stays : Recoverable plan pre generation disk :=
        .kept read genuine settled installed home
      exact recover_complete read genuine settled (⟨·, stays⟩) (⟨·, stays⟩)
        ⟨⟨read, .inl ⟨home, installed⟩⟩, stays⟩
  | moved read genuine settled installed stages home =>
      have stays : Recoverable plan pre generation disk :=
        .moved read genuine settled installed stages home
      exact recover_complete read genuine settled (⟨·, stays⟩) (⟨·, stays⟩)
        ⟨⟨read, .inr (.inl ⟨_, stages, home, installed⟩)⟩, stays⟩
  | @interrupted state read opened unsettled safe =>
      have stays := Recoverable.interrupted read opened unsettled safe
      rw [recover, meets_bind]
      refine read_state_meets read opened.genuine (⟨·, stays⟩) (⟨·, stays⟩) ?_
      rw [Unsettled] at unsettled
      simp only [if_neg unsettled, opened.path]
      rw [meets_bind, statBackup, meets_handle]
      refine meets_bind.2 (synchronize_meets (fun may => ⟨⟨_, may⟩, stays⟩) ?_ ?_)
      · -- A `stat` that fails is taken for an absent backup.
        intro _
        simp only [meets_pure, Bool.false_eq_true, if_false]
        exact repair_recovering read opened unsettled safe
          (by simpa only [opened.path] using opened.enter .repairRequired) rfl
      · intro pieces found
        have saved : Saved plan pre generation disk :=
          safe.resolve_right fun untouched => by simp [untouched.1] at found
        simp only [meets_pure, if_true]
        exact restore_recovering read opened unsettled saved

/-- A migration under way whose backup is complete. -/
structure Held (plan : MigrationPlan Piece) (pre : List Piece) (generation : Nat)
    (disk : Home Piece) : Prop where
  saved : Saved plan pre generation disk
  underWay : ∃ state, disk.files.state = some state ∧ Opened plan generation state ∧
    Unsettled state.phase

theorem Held.recoverable (held : Held plan pre generation disk) :
    Recoverable plan pre generation disk := by
  rcases held with ⟨saved, state, read, opened, unsettled⟩
  exact .interrupted read opened unsettled (.inl saved)

theorem Held.put (held : Held plan pre generation disk) {place : Place}
    (other : backupOf plan generation ≠ place) (content : Option (List Piece)) :
    Held plan pre generation (disk.put place content) :=
  ⟨held.saved.put other content, held.underWay⟩

theorem Held.noting (held : Held plan pre generation disk) (journal : List JournalEntry) :
    Held plan pre generation (noting disk journal) := ⟨held.saved, held.underWay⟩

theorem Held.storing (held : Held plan pre generation disk) {state : InstallerState}
    (opened : Opened plan generation state) (unsettled : Unsettled state.phase) :
    Held plan pre generation (storing disk state) :=
  ⟨held.saved, state, rfl, opened, unsettled⟩

section Steps

variable {post : Post (Home Piece) (Trouble Step Refusal) Unit}

-- While the backup stands a section of the migration may end early anywhere.
theorem persist_held {state : InstallerState} (held : Held plan pre generation disk)
    (opened : Opened plan generation state) (unsettled : Unsettled state.phase)
    (ends : ∀ after, Held plan pre generation after →
      post.stopped after ∧ ∀ failure, post.threw failure after)
    (returned : ∀ after, Held plan pre generation after → after.folders = disk.folders →
      post.returned () after) : Meets faults post (persist state) disk := by
  have stored := held.storing opened unsettled
  exact persist_meets (fun _ => ⟨(ends _ held).1, (ends _ stored).1⟩)
    (fun _ => ⟨(ends _ held).2 _, (ends _ stored).2 _⟩) (returned _ stored rfl)

theorem record_held {state : InstallerState} {operation : JournalOperation}
    (held : Held plan pre generation disk) (opened : Opened plan generation state)
    (ends : ∀ after, Held plan pre generation after →
      post.stopped after ∧ ∀ failure, post.threw failure after)
    (returned : ∀ after, Held plan pre generation after → after.folders = disk.folders →
      post.returned () after) : Meets faults post (record operation state) disk := by
  have entry := opened.entry operation
  refine record_meets (fun _ journal => (ends _ (held.noting journal)).1)
    (fun _ journal => (ends _ (held.noting journal)).2 _) (fun refused => ?_)
    (fun _ journal => returned _ (held.noting journal) rfl)
  rw [validPayload, entry.1, entry.2] at refused
  exact absurd held.saved.2 refused

theorem step_held {label : Step} (held : Held plan pre generation disk)
    (ends : ∀ after, Held plan pre generation after →
      post.stopped after ∧ ∀ failure, post.threw failure after)
    (returned : post.returned () disk) : Meets faults post (Script.step label id) disk :=
  meets_step.2 ⟨fun _ => (ends _ held).1, fun _ => (ends _ held).2 _, returned⟩

theorem hook_held {point : CrashPoint} (held : Held plan pre generation disk)
    (ends : ∀ after, Held plan pre generation after →
      post.stopped after ∧ ∀ failure, post.threw failure after)
    (returned : post.returned () disk) : Meets faults post (hook point) disk :=
  ⟨fun _ => (ends _ held).1, fun _ => (ends _ held).2 _, returned⟩

theorem remove_held {label : Step} {place : Place} (held : Held plan pre generation disk)
    (other : backupOf plan generation ≠ place)
    (ends : ∀ after, Held plan pre generation after →
      post.stopped after ∧ ∀ failure, post.threw failure after)
    (returned : post.returned () (disk.put place none)) :
    Meets faults post (remove label place) disk :=
  remove_meets (fun part => ⟨fun _ => (ends _ (held.put other part)).1,
    fun _ => (ends _ (held.put other part)).2 _⟩) returned

end Steps

def stagedOf (plan : MigrationPlan Piece) (generation : Nat) : Place :=
  .staging generation plan.toVersion

/-- The faults under which a migration loses nothing: no step that makes the backup fails, its
copying is not cut short, and the complete state is written and journalled. -/
def careful : Faults Step where
  mayFail := fun step => step ∉ [.makeBackups, .clearBackup, .openBackup, .fillBackup,
    .persist .complete, .record .activated]
  mayStop := fun step => step ≠ .fillBackup

def advancing (plan : MigrationPlan Piece) (pre : List Piece) (generation : Nat) {Result : Type}
    (returned : Result → Home Piece → Prop) :
    Post (Home Piece) (Trouble Step Refusal × InstallerState) Result where
  stopped := Recoverable plan pre generation
  threw := fun thrown after => Held plan pre generation after ∧ Opened plan generation thrown.2
  returned := returned

theorem backup_section {begun : InstallerState} (journalled : Journalled plan)
    (read : disk.files.state = some begun) (opened : Opened plan generation begun)
    (unsettled : Unsettled begun.phase) (untouched : Untouched plan pre generation disk) :
    Meets careful (advancing plan pre generation fun _ after =>
        Held plan pre generation after ∧ after.folders .active = some pre)
      (Script.holding begun do
        Script.step .makeBackups id
        remove .clearBackup (backupOf plan generation)
        copy .openBackup .fillBackup .active (backupOf plan generation)
        Script.step .syncBackups id) disk := by
  have stays : Recoverable plan pre generation disk :=
    .interrupted read opened unsettled (.inr untouched)
  have made : Held plan pre generation (disk.put (backupOf plan generation) (some pre)) :=
    ⟨⟨by simp, journalled⟩, begun, read, opened, unsettled⟩
  refine meets_holding.2 (meets_bind.2 (meets_step.2 ⟨fun _ => stays, ?_, meets_bind.2 ?_⟩))
  · exact fun may => absurd may (by decide)
  refine remove_absent untouched.1 (fun _ => stays) (fun may => absurd may (by decide))
    (meets_bind.2 ?_)
  refine copy_meets untouched.2 untouched.1 (fun _ => stays) (fun may => absurd may (by decide))
    (fun part _ => ⟨fun may => absurd may (by decide), fun may => absurd may (by decide)⟩) ?_
  exact meets_step.2 ⟨fun _ => made.recoverable, fun _ => ⟨made, opened⟩, made,
    (Disk.put_other _ _ backup_ne_active.symm).trans untouched.2⟩

omit [StateDigests] in
theorem staged_ne_active : stagedOf plan generation ≠ .active := by simp [stagedOf]

omit [StateDigests] in
theorem backup_ne_staged : backupOf plan generation ≠ stagedOf plan generation := by
  simp [backupOf, stagedOf]

-- The transform works on the home and the staged place, and returns what it staged.
theorem transform_held {post : Post (Home Piece) (Trouble Step Refusal) Unit}
    (held : Held plan pre generation disk) (home : disk.folders .active = some pre)
    (cleared : disk.folders (stagedOf plan generation) = none)
    (ends : ∀ after, Held plan pre generation after →
      post.stopped after ∧ ∀ failure, post.threw failure after)
    (returned : ∀ after, Held plan pre generation after →
      (∀ staged, after.folders (stagedOf plan generation) = some staged → Stages plan pre staged) →
      post.returned () after) :
    Meets faults post (transform plan (stagedOf plan generation)) disk := by
  have moved : ∀ pair : Option (List Piece) × Option (List Piece), Held plan pre generation
      ((disk.put .active pair.1).put (stagedOf plan generation) pair.2) := fun pair =>
    (held.put backup_ne_active pair.1).put backup_ne_staged pair.2
  refine meets_within ?_ ?_ ?_ (fun pair => (ends _ (moved pair)).1)
    (fun _ pair => (ends _ (moved pair)).2 _) ?_
  · intro pair outer
    simp [Disk.put_other _ _ staged_ne_active.symm]
  · intro first second outer
    simp only [Disk.put]
    congr 1
    funext place
    by_cases active : place = .active <;> by_cases staged : place = stagedOf plan generation <;>
      simp_all [staged_ne_active]
  · intro outer
    rw [Disk.put_found, Disk.put_found]
  · intro result pair run
    refine returned _ (moved pair) fun staged found => ⟨pair.1, ?_⟩
    rw [Disk.put_same] at found
    rw [home, cleared] at run
    rwa [← found]

theorem stage_section {created : InstallerState} (held : Held plan pre generation disk)
    (home : disk.folders .active = some pre) (opened : Opened plan generation created)
    (unsettled : Unsettled created.phase) :
    Meets careful (advancing plan pre generation fun _ after => Held plan pre generation after ∧
        ∃ staged, Stages plan pre staged ∧
          after.folders (stagedOf plan generation) = some staged)
      (Script.holding created do
        persist created
        record .backupCreated created
        hook .afterBackup
        Script.step .makeStaging id
        remove .clearStaging (stagedOf plan generation)
        transform plan (stagedOf plan generation)
        synchronize .syncStaged (stagedOf plan generation)
        Script.step .syncStaging id) disk := by
  refine meets_holding.2 (meets_bind.2 ?_)
  have ends : ∀ after, Held plan pre generation after → Recoverable plan pre generation after ∧
      ∀ failure : Trouble Step Refusal, Held plan pre generation after ∧
        Opened plan generation ((failure, created) : Trouble Step Refusal × InstallerState).2 :=
    fun after held => ⟨held.recoverable, fun _ => ⟨held, opened⟩⟩
  refine persist_held held opened unsettled ends fun stored held same => meets_bind.2 ?_
  refine record_held held opened ends fun noted held again => meets_bind.2 ?_
  refine hook_held held ends (meets_bind.2 ?_)
  refine step_held held ends (meets_bind.2 ?_)
  refine remove_held held backup_ne_staged ends (meets_bind.2 ?_)
  have home : (noted.put (stagedOf plan generation) none).folders .active = some pre := by
    rw [Disk.put_other _ _ staged_ne_active.symm, again, same, home]
  refine transform_held (held.put backup_ne_staged none) home (by simp) ends
    fun after held stages => meets_bind.2 ?_
  refine synchronize_meets (fun _ => (ends _ held).1) (fun _ => (ends _ held).2 _)
    fun staged found => ?_
  exact step_held held ends ⟨held, staged, stages staged found, found⟩

theorem activate_section {ready : InstallerState} {staged : List Piece}
    (held : Held plan pre generation disk)
    (found : disk.folders (stagedOf plan generation) = some staged)
    (opened : Opened plan generation ready) (unsettled : Unsettled ready.phase) :
    Meets careful (advancing plan pre generation fun _ after =>
        Held plan pre generation after ∧ after.folders .active = some staged)
      (Script.holding ready do
        persist ready
        record .staged ready
        hook .afterStageFsync
        rename .retire .active (.previous generation)
        rename .activate (stagedOf plan generation) .active
        hook .afterActivateRename
        Script.step .syncRoot id
        hook .afterActivateFsync
        remove .dropPrevious (.previous generation)) disk := by
  refine meets_holding.2 (meets_bind.2 ?_)
  have ends : ∀ after, Held plan pre generation after → Recoverable plan pre generation after ∧
      ∀ failure : Trouble Step Refusal, Held plan pre generation after ∧
        Opened plan generation ((failure, ready) : Trouble Step Refusal × InstallerState).2 :=
    fun after held => ⟨held.recoverable, fun _ => ⟨held, opened⟩⟩
  refine persist_held held opened unsettled ends fun stored held same => meets_bind.2 ?_
  refine record_held held opened ends fun noted held again => meets_bind.2 ?_
  refine hook_held held ends (meets_bind.2 ?_)
  refine rename_meets (fun _ => (ends _ held).1) (fun _ => (ends _ held).2 _)
    fun pieces _ => meets_bind.2 ?_
  have aside : backupOf plan generation ≠ .previous generation := by simp [backupOf]
  have retired := (held.put aside (some pieces)).put backup_ne_active none
  refine rename_meets (fun _ => (ends _ retired).1) (fun _ => (ends _ retired).2 _)
    fun moved source => meets_bind.2 ?_
  rw [Disk.put_other _ _ staged_ne_active,
    Disk.put_other _ _ (show stagedOf plan generation ≠ .previous generation by simp [stagedOf]),
    again, same, found] at source
  cases source
  have swapped := (retired.put backup_ne_active (some staged)).put backup_ne_staged none
  refine hook_held swapped ends (meets_bind.2 (step_held swapped ends (meets_bind.2 ?_)))
  refine hook_held swapped ends (remove_held swapped aside ends ⟨swapped.put aside none, ?_⟩)
  rw [Disk.put_other _ _ (by simp), Disk.put_other _ _ staged_ne_active.symm, Disk.put_same]

def completeState (plan : MigrationPlan Piece) (generation : Nat) : InstallerState :=
  createState
    { installedVersion := plan.toVersion, generation := generation, phase := .complete,
      transactionId := none, backupPath := some (backupOf plan generation), stagedPath := none,
      targetVersion := none }

theorem complete_section {staged : List Piece} (admissible : Admissible plan generation)
    (held : Held plan pre generation disk) (stages : Stages plan pre staged)
    (home : disk.folders .active = some staged) :
    Meets careful (advancing plan pre generation fun _ after =>
        Recoverable plan pre generation after)
      (Script.holding (completeState plan generation) do
        persist (completeState plan generation)
        record .activated { completeState plan generation with
          transactionId := some plan.transactionId, targetVersion := some plan.toVersion }
        return completeState plan generation) disk := by
  have genuine : authentic (completeState plan generation) = true :=
    authentic_create_iff.2 ⟨admissible.toVersion, admissible.positive, admissible.room⟩
  have moved : ∀ journal, Recoverable plan pre generation
      (noting (storing disk (completeState plan generation)) journal) := fun journal =>
    .moved rfl genuine (by decide : ¬Unsettled .complete) rfl stages home
  refine meets_holding.2 (meets_bind.2 ?_)
  refine persist_meets (fun _ => ⟨held.recoverable, moved _⟩)
    (fun may => absurd may (by decide : ¬careful.mayFail (.persist .complete) = true))
    (meets_bind.2 ?_)
  exact record_meets (fun _ journal => moved journal) (fun may => absurd may (by decide))
    (fun refused => absurd held.saved.2 refused) fun _ journal => moved journal

theorem advance_meets {begun : InstallerState} (admissible : Admissible plan generation)
    (journalled : Journalled plan) (read : disk.files.state = some begun)
    (opened : Opened plan generation begun) (unsettled : Unsettled begun.phase)
    (same : begun.generation = generation) (untouched : Untouched plan pre generation disk) :
    Meets careful (advancing plan pre generation fun _ after =>
        Recoverable plan pre generation after)
      (advance plan (backupOf plan generation) (stagedOf plan generation) begun) disk := by
  have created := opened.enter .backupCreated
  have ready := created.enter .staged
  rw [advance, meets_bind]
  refine meets_mono (backup_section journalled read opened unsettled untouched)
    (fun _ holds => holds) (fun _ _ holds => holds) fun _ saved ⟨held, home⟩ => meets_bind.2 ?_
  refine meets_mono (stage_section held home created (by decide : Unsettled .backupCreated))
    (fun _ holds => holds) (fun _ _ holds => holds)
    fun _ staging ⟨held, staged, stages, found⟩ => meets_bind.2 ?_
  rw [same]
  refine meets_mono (activate_section held found ready (by decide : Unsettled .staged))
    (fun _ holds => holds) (fun _ _ holds => holds) fun _ activated ⟨held, home⟩ => ?_
  exact complete_section admissible held stages home

def compensated (plan : MigrationPlan Piece) (pre : List Piece) (generation : Nat) :
    Post (Home Piece) (Trouble Step Refusal) InstallerState where
  stopped := Recoverable plan pre generation
  threw := fun _ => Recoverable plan pre generation
  returned := fun _ => Recoverable plan pre generation

theorem repair_section {state : InstallerState} (saved : Saved plan pre generation disk)
    (recoverable : Recoverable plan pre generation disk)
    (broken : Opened plan generation state) (phase : state.phase = .repairRequired) :
    Meets faults (compensated plan pre generation)
      (do
        persist state
        record .repairRequired state
        return state) disk := by
  have unsettled : Unsettled state.phase := by rw [phase]; decide
  have held : Held plan pre generation (storing disk state) :=
    ⟨saved, state, rfl, broken, unsettled⟩
  refine meets_bind.2 (persist_meets (fun _ => ⟨recoverable, held.recoverable⟩)
    (fun _ => ⟨recoverable, held.recoverable⟩) (meets_bind.2 ?_))
  exact record_held held broken (fun _ held => ⟨held.recoverable, fun _ => held.recoverable⟩)
    fun _ held _ => held.recoverable

def compensatedState (plan : MigrationPlan Piece) (generation : Nat) (state : InstallerState) :
    InstallerState :=
  createState
    { installedVersion := plan.fromVersion, generation := state.generation,
      phase := .compensated, transactionId := some plan.transactionId,
      backupPath := some (backupOf plan generation), stagedPath := none,
      targetVersion := some plan.toVersion }

theorem compensated_opened {state : InstallerState} (admissible : Admissible plan generation)
    (opened : Opened plan generation state) :
    Opened plan generation (compensatedState plan generation state) := by
  have genuine := opened.genuine
  simp only [authentic, Bool.and_eq_true, decide_eq_true_eq] at genuine
  exact ⟨authentic_create_iff.2 ⟨admissible.fromVersion, genuine.1.1.2, genuine.1.2⟩,
    rfl, rfl, rfl, rfl⟩

theorem compensate_meets {state : InstallerState} (admissible : Admissible plan generation)
    (held : Held plan pre generation disk) (opened : Opened plan generation state) :
    Meets faults (compensated plan pre generation)
      (compensate plan (backupOf plan generation) state) disk := by
  have ends : ∀ after, Held plan pre generation after → Recoverable plan pre generation after ∧
      ∀ _ : Trouble Step Refusal, Recoverable plan pre generation after :=
    fun after held => ⟨held.recoverable, fun _ => held.recoverable⟩
  have compensating := opened.enter .compensating
  rw [compensate, meets_bind]
  refine persist_held held compensating (by decide : Unsettled .compensating) ends
    fun stored held _ => meets_bind.2 ?_
  refine record_held held compensating ends fun noted held _ => meets_handle.2 (meets_bind.2 ?_)
  -- The backup stands to the end, so that a failure can still be marked for repair.
  have repaired : ∀ after, Held plan pre generation after → ∀ state, Opened plan generation state →
      Meets faults (compensated plan pre generation) _ after := fun after held state opened =>
    repair_section held.saved held.recoverable (opened.enter .repairRequired) rfl
  refine meets_holding.2 (meets_bind.2 ?_)
  refine ⟨fun _ => held.recoverable, fun _ => repaired _ held _ compensating, ?_⟩
  refine restore_meets backup_ne_active held.saved.1
    (fun _ home => (held.put backup_ne_active home).recoverable)
    (fun _ _ home => repaired _ (held.put backup_ne_active home) _ compensating)
    (meets_holding.2 (meets_bind.2 ?_))
  have restored := held.put backup_ne_active (some pre)
  have settled := compensated_opened admissible opened
  have kept : ∀ journal, Recoverable plan pre generation (noting (storing
      (noted.put .active (some pre)) (compensatedState plan generation state)) journal) :=
    fun journal => .kept rfl settled.genuine (by decide : ¬Unsettled .compensated) rfl (by simp)
  refine persist_meets (fun _ => ⟨restored.recoverable, kept _⟩)
    (fun _ => ⟨repaired _ restored _ settled,
      repair_section restored.saved (kept _) (settled.enter .repairRequired) rfl⟩)
    (meets_bind.2 ?_)
  refine record_meets (fun _ journal => kept journal)
    (fun _ journal => repair_section restored.saved (kept journal)
      (settled.enter .repairRequired) rfl) (fun refused => ?_) fun _ journal => kept journal
  exact absurd held.saved.2 refused

theorem migrate_meets {state : InstallerState} (read : disk.files.state = some state)
    (genuine : authentic state = true) (settled : state.phase = .complete)
    (installed : state.installedVersion = plan.fromVersion)
    (home : disk.folders .active = some pre)
    (fresh : disk.folders (backupOf plan (state.generation + 1)) = none)
    (room : state.generation + 1 < 2 ^ 53) :
    Meets careful (compensated plan pre (state.generation + 1)) (migrate plan) disk := by
  have stays : Recoverable plan pre (state.generation + 1) disk :=
    .kept read genuine (by rw [settled]; decide) installed home
  rw [migrate, meets_bind]
  refine meets_refuse_unless.2 ⟨fun versions => meets_bind.2 ?_, fun _ => stays⟩
  refine meets_refuse_unless.2 ⟨fun _ => meets_bind.2 ?_, fun _ => stays⟩
  refine meets_refuse_unless.2 ⟨fun _ => meets_bind.2 ?_, fun _ => stays⟩
  refine recover_complete read genuine (by rw [settled]; decide) (fun _ => stays) (fun _ => stays)
    (meets_bind.2 ?_)
  refine meets_refuse_unless.2 ⟨fun _ => meets_bind.2 ?_, fun _ => stays⟩
  have admissible : Admissible plan (state.generation + 1) :=
    ⟨versions.1, versions.2, Nat.le_add_left 1 _, room⟩
  have opened := begun_opened admissible
  have begun : ∀ journal, Recoverable plan pre (state.generation + 1)
      (noting (storing disk (begunState plan (state.generation + 1))) journal) := fun journal =>
    .interrupted rfl opened (by decide : Unsettled .begun) (.inr ⟨fresh, home⟩)
  refine persist_meets (fun _ => ⟨stays, begun _⟩) (fun _ => ⟨stays, begun _⟩) (meets_bind.2 ?_)
  refine record_meets (fun _ journal => begun journal) (fun _ journal => begun journal)
    (fun _ => begun _) fun journalled journal => meets_bind.2 ?_
  refine ⟨fun _ => begun journal, fun _ => begun journal, ?_⟩
  refine meets_handle.2 (meets_mono (advance_meets admissible journalled rfl opened
    (by decide : Unsettled .begun) rfl ⟨fresh, home⟩) (fun _ holds => holds) ?_
    fun _ _ holds => holds)
  rintro ⟨failure, thrown⟩ after ⟨held, opened⟩
  by_cases crashed : failure = .refused .injectedCrash
  · simp only [if_pos crashed, meets_throw]
    exact held.recoverable
  · simp only [if_neg crashed]
    exact compensate_meets admissible held opened

/-- A home at rest, at which the plan may begin. -/
structure Ready (plan : MigrationPlan Piece) (pre : List Piece) (disk : Home Piece) : Prop where
  atRest : ∃ state, disk.files.state = some state ∧ authentic state = true ∧
    state.phase = .complete ∧ state.installedVersion = plan.fromVersion ∧
    state.generation + 1 < 2 ^ 53 ∧ Numbered state.generation disk
  home : disk.folders .active = some pre

def recoveries (runs : List (List Choice)) (disk : Home Piece) : Home Piece :=
  runs.foldl (fun disk choices => (follow choices recover disk).2) disk

theorem recoveries_recoverable (runs : List (List Choice)) :
    ∀ {disk : Home Piece}, Recoverable plan pre generation disk →
      Recoverable plan pre generation (recoveries runs disk) := by
  induction runs with
  | nil => exact fun recoverable => recoverable
  | cons choices runs ih =>
      intro disk recoverable
      refine ih (meets_state ?_ (any_permitted choices recover disk))
      exact meets_mono (recover_meets recoverable) (fun _ holds => holds.2)
        (fun _ _ holds => holds.2) fun _ _ holds => holds.2

/-- After a careful migration every recovery that returns leaves a settled home, however
often recovery was cut short before, and a recovery without faults returns. -/
theorem migration_recovers {disk : Home Piece} (ready : Ready plan pre disk)
    {choices : List Choice} (allowed : permitted careful choices (migrate plan) disk = true)
    (runs : List (List Choice)) :
    (∀ last found after, follow last recover (recoveries runs
        (follow choices (migrate plan) disk).2) = (.returned found, after) →
      Settled plan pre found after) ∧
    ∃ count found after, follow (List.replicate count .goes) recover (recoveries runs
      (follow choices (migrate plan) disk).2) = (.returned found, after) := by
  rcases ready.atRest with ⟨state, read, genuine, settled, installed, room, numbered⟩
  have recoverable := meets_state (migrate_meets read genuine settled installed ready.home
    (numbered.fresh _ _ (Nat.lt_succ_self _)) room) allowed
  have recovered := recoveries_recoverable runs recoverable
  constructor
  · intro last found after ended
    have holds := meets_any (recover_meets recovered) last
    rw [ended] at holds
    exact holds.1
  · have whole : Meets Faults.none (recovering Faults.none plan pre _) recover _ :=
      recover_meets recovered
    rcases meets_returns (meets_mono whole (fun _ holds => holds.1.elim fun _ may => by cases may)
      (fun _ _ holds => holds.1.elim fun _ may => by cases may) fun _ _ holds => holds)
      with ⟨count, found, after, shape, _⟩
    exact ⟨count, found, after, shape⟩

end Migration

end Homes

section Recorded

@[reducible] def recordedDigests : StateDigests where
  stateDigest := fun core => match core.phase, core.generation with
    | .begun, _ => "09aff1ecd89ccfe5c6a2e2da5e630bbd7e5dda6c18760a3abd7eddfc8c3a7bd4"
    | .backupCreated, _ => "c3a7c4c6d26afb7123c1eb4d43c79c338e788e93cfcd3a4c141393ec3e188c9f"
    | .staged, _ => "c730eab25e38d0353a416c57d9e0c8e2fd78a584fbb59ad959820eeebb1f5ca4"
    | .compensated, _ => "bc859affab4e426f9f734ad3b3c2eb96ebb308cefa7dca958ae2441d22559e0a"
    | .complete, 1 => "593d0701450d9c909b5e07fb8e2abc7fe2d9c6f86def21f58567e73907c29dbc"
    | _, _ => "ec46d520273f2ce25dca98f9f3df9516d65d313039e27a5f29b94b2b935b08fe"

attribute [local instance] recordedDigests

def samplePlan : MigrationPlan String where
  transactionId := "upgrade-1"
  explicitMajorGate := false
  fromVersion := "1.0.0"
  toVersion := "1.1.0"
  reversible := true
  transform := .act () (fun pair => (pair.1, pair.1))
    (fun _ => .act () (fun pair => (pair.1, pair.2.map (· ++ ["migration-ready"])))
      (fun _ => .done ()) (.fails ())) (.fails ())

def sampleState : InstallerState := createState
  { installedVersion := "1.0.0", generation := 1, phase := .complete, transactionId := none,
    backupPath := none, stagedPath := none, targetVersion := none }

def sampleHome : Home String where
  folders := fun place => if place = .active then some ["home.json", "hosts.json"] else none
  files := ⟨some sampleState, []⟩

theorem sample_ready : Ready samplePlan ["home.json", "hosts.json"] sampleHome :=
  ⟨⟨_, rfl, by decide +kernel, rfl, rfl, by decide, ⟨⟨_, rfl, rfl⟩, fun _ _ _ => rfl⟩⟩, rfl⟩

/-- The process stops between the two renames that activate the staged home. -/
theorem activation_recovers : ∃ count found after,
    follow (List.replicate count .goes) recover (recoveries []
      (follow (List.replicate 33 .goes) (migrate samplePlan) sampleHome).2) =
        (.returned found, after) ∧ Settled samplePlan ["home.json", "hosts.json"] found after := by
  have recovers := migration_recovers sample_ready
    (by decide +kernel : permitted careful (List.replicate 33 .goes) (migrate samplePlan)
      sampleHome = true) []
  rcases recovers.2 with ⟨count, found, after, shape⟩
  exact ⟨count, found, after, shape, recovers.1 _ _ _ shape⟩

/-- The process stops with one of the two files in the backup; recovery takes that for all. -/
theorem cut_backup_loses : Ready samplePlan ["home.json", "hosts.json"] sampleHome ∧
    ∃ found after, follow (List.replicate 30 .goes) recover
        (follow (List.replicate 12 .goes) (migrate samplePlan) sampleHome).2 =
          (.returned found, after) ∧
      ¬Settled samplePlan ["home.json", "hosts.json"] found after := by
  refine ⟨sample_ready, ?_⟩
  have returned : ((follow (List.replicate 30 .goes) recover
      (follow (List.replicate 12 .goes) (migrate samplePlan) sampleHome).2).1.result.map fun found =>
        (found.phase, found.installedVersion)) = some (.compensated, "1.0.0") := by decide +kernel
  have home : (follow (List.replicate 30 .goes) recover
      (follow (List.replicate 12 .goes) (migrate samplePlan) sampleHome).2).2.folders .active =
        some ["home.json"] := by decide +kernel
  cases shape : follow (List.replicate 30 .goes) recover
      (follow (List.replicate 12 .goes) (migrate samplePlan) sampleHome).2 with
  | mk ending after =>
      rw [shape] at returned home
      cases ending with
      | stopped => simp [Ending.result] at returned
      | threw => simp [Ending.result] at returned
      | returned found =>
          simp only [Ending.result, Option.map_some, Option.some.injEq, Prod.mk.injEq] at returned
          refine ⟨found, after, rfl, fun settled => ?_⟩
          rcases settled.2 with kept | ⟨_, _, _, moved⟩ | broken
          · exact absurd (home.symm.trans kept.1) (by decide)
          · exact absurd (returned.2.symm.trans moved) (by decide)
          · exact absurd (returned.1.symm.trans broken.1) (by decide)

end Recorded

end Horseness.MigrationRecovery
