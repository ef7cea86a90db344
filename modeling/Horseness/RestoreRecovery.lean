import Horseness.AuthorityRestore

/-!
What a restore and the recoveries after it leave of the live pair, wherever the process stops
and whichever steps fail. Only `existsSync` is taken to answer truthfully.
-/

namespace Horseness.RestoreRecovery

open CrashScripts Folders AuthorityRestore

section Pairs

variable {Piece : Type} {faults : Faults Step} {disk : Unit_ Piece}

def Early (faults : Faults Step) {Result : Type}
    (post : Post (Unit_ Piece) (Trouble Step Refusal) Result) (disk : Unit_ Piece) : Prop :=
  post.stopped disk ∧ (faults.Breaks → ∀ failure, post.threw failure disk)

theorem exists_meets {post : Post (Unit_ Piece) (Trouble Step Refusal) Bool} {place : Place}
    (honest : faults.mayFail .look = false) (early : Early faults post disk)
    (returned : post.returned (disk.folders place).isSome disk) :
    Meets faults post (pathExists place) disk :=
  ⟨fun _ => early.1, fun may => absurd (honest.symm.trans may) (by simp), returned⟩

theorem step_meets {post : Post (Unit_ Piece) (Trouble Step Refusal) Unit} {label : Step}
    {effect : Unit_ Piece → Unit_ Piece} (early : Early faults post disk)
    (returned : post.returned () (effect disk)) : Meets faults post (Script.step label effect) disk :=
  meets_step.2 ⟨fun _ => early.1, fun may => early.2 ⟨_, may⟩ _, returned⟩

def Removes (faults : Faults Step) (removal : Place → Restore Piece Unit) : Prop :=
  ∀ (disk : Unit_ Piece) (place : Place) (post : Post (Unit_ Piece) (Trouble Step Refusal) Unit),
    (∀ content, Early faults post (disk.put place content)) →
    post.returned () (disk.put place none) → Meets faults post (removal place) disk

def Renames (faults : Faults Step) (moving : Place → Place → Restore Piece Unit) : Prop :=
  ∀ (disk : Unit_ Piece) (source destination : Place) (pieces : List Piece)
    (post : Post (Unit_ Piece) (Trouble Step Refusal) Unit),
    disk.folders source = some pieces → disk.folders destination = none →
    Early faults post disk →
    Early faults post ((disk.put destination (some pieces)).put source none) →
    post.returned () ((disk.put destination (some pieces)).put source none) →
    Meets faults post (moving source destination) disk

theorem absent_put {place : Place} (absent : ¬(disk.folders place).isSome = true) :
    disk.put place none = disk := by
  rw [Bool.not_eq_true, Option.isSome_eq_false_iff, Option.isNone_iff_eq_none] at absent
  rw [← absent, Disk.put_found]

theorem file_removes (honest : faults.mayFail .look = false) :
    Removes faults (removeFile : Place → Restore Piece Unit) := by
  intro disk place post early returned
  have here := early (disk.folders place)
  rw [Disk.put_found] at here
  rw [removeFile, meets_bind]
  refine exists_meets honest here ?_
  dsimp only
  split
  · exact meets_bind.2 (step_meets here (step_meets (early none) returned))
  · rename_i absent
    rwa [absent_put absent] at returned

theorem directory_removes (honest : faults.mayFail .look = false) :
    Removes faults (removeDirectory : Place → Restore Piece Unit) := by
  intro disk place post early returned
  have here := early (disk.folders place)
  rw [Disk.put_found] at here
  rw [removeDirectory, meets_bind]
  refine exists_meets honest here ?_
  dsimp only
  split
  · exact meets_bind.2 (remove_meets (fun part => ⟨fun _ => (early part).1,
      fun may => (early part).2 ⟨_, may⟩ _⟩) (step_meets (early none) returned))
  · rename_i absent
    rwa [absent_put absent] at returned

theorem file_renames : Renames faults (renameFile : Place → Place → Restore Piece Unit) := by
  intro disk source destination pieces post found _ before after returned
  rw [renameFile, meets_bind, meets_attempt]
  refine ⟨fun _ => before.1, fun may => before.2 ⟨_, may⟩ _, ?_⟩
  simp only [found, Option.map_some]
  exact step_meets after returned

theorem directory_renames :
    Renames faults (renameDirectory : Place → Place → Restore Piece Unit) := by
  intro disk source destination pieces post found absent before after returned
  rw [renameDirectory, meets_bind]
  refine rename_meets (fun _ => before.1) (fun refused => ?_) fun other source => ?_
  · refine before.2 ⟨_, refused.resolve_right fun blocked => ?_⟩ _
    simp [renamed, found, absent] at blocked
  · cases found.symm.trans source
    exact step_meets after returned

/-- One half of the pair can be put back from its old sibling, or was never moved. -/
def Half (before live old : Option (List Piece)) : Prop :=
  old = before ∧ before ≠ none ∨ old = none ∧ (before ≠ none → live = before)

theorem half_aside (before live : Option (List Piece)) : Half before live before := by
  cases before with
  | none => exact .inr ⟨rfl, fun had => absurd rfl had⟩
  | some => exact .inl ⟨rfl, by simp⟩

theorem rollback_half {removal : Place → Restore Piece Unit}
    {moving : Place → Place → Restore Piece Unit} {live old : Place}
    {before : Option (List Piece)} {post : Post (Unit_ Piece) (Trouble Step Refusal) Unit}
    (honest : faults.mayFail .look = false) (removes : Removes faults removal)
    (renames : Renames faults moving) (apart : live ≠ old)
    (half : Half before (disk.folders live) (disk.folders old))
    (early : ∀ kept aside, Half before kept aside →
      Early faults post ((disk.put live kept).put old aside))
    (returned : post.returned () ((disk.put live before).put old none)) :
    Meets faults post (rollbackHalf removal moving live old before.isSome) disk := by
  have other : ∀ kept, (disk.put live kept).put old (disk.folders old) = disk.put live kept :=
    fun kept => by
      have same : (disk.put live kept).folders old = disk.folders old :=
        Disk.put_other _ _ apart.symm
      rw [← same, Disk.put_found]
  have here := early _ _ half
  rw [other, Disk.put_found] at here
  rw [rollbackHalf, meets_bind]
  refine exists_meets honest here ?_
  rcases half with ⟨aside, had⟩ | ⟨aside, same⟩
  · cases before with
    | none => exact absurd rfl had
    | some pieces =>
        -- The old sibling stays until it is renamed over the removed place.
        have removed : ∀ kept, Early faults post (disk.put live kept) := fun kept => by
          have holds := early kept (disk.folders old) (.inl ⟨aside, had⟩)
          rwa [other] at holds
        simp only [aside, Option.isSome_some, if_true]
        refine meets_bind.2 (removes disk live _ removed ?_)
        have source : (disk.put live none).folders old = some pieces :=
          (Disk.put_other _ _ apart.symm).trans aside
        have moved : Early faults post (((disk.put live none).put live (some pieces)).put old none) := by
          rw [Disk.put_put]
          exact early _ _ (.inr ⟨rfl, fun _ => rfl⟩)
        refine renames _ _ _ pieces _ source (Disk.put_same _ _ _) (removed none) moved ?_
        rwa [Disk.put_put]
  · simp only [aside, Option.isSome_none, Bool.false_eq_true, if_false]
    rw [← aside, other] at returned
    cases before with
    | some pieces =>
        rw [← same (by simp), Disk.put_found] at returned
        exact returned
    | none =>
        refine removes disk live _ (fun kept => ?_) returned
        have holds := early kept none (.inr ⟨rfl, fun had => absurd rfl had⟩)
        rwa [← aside, other] at holds

theorem activate_half {moving : Place → Place → Restore Piece Unit} {live stage : Place}
    {post : Post (Unit_ Piece) (Trouble Step Refusal) Unit}
    (honest : faults.mayFail .look = false) (present : (disk.folders live).isSome = true)
    (early : Early faults post disk) (returned : post.returned () disk) :
    Meets faults post (activateHalf moving live stage) disk := by
  rw [activateHalf, meets_bind]
  refine exists_meets honest early (meets_bind.2 (exists_meets honest early ?_))
  simp only [present, Bool.not_true, Bool.false_and, Bool.false_eq_true, if_false]
  exact returned

theorem verify_pair_meets [AuthorityCheck Piece] {unit root : Place} {stored tree : List Piece}
    {post : Post (Unit_ Piece) (Trouble Step Refusal) Unit}
    (found : disk.folders unit = some stored) (rooted : disk.folders root = some tree)
    (early : Early faults post disk)
    (refused : ¬AuthorityCheck.verifyAuthority stored tree = true →
      post.threw (.refused .authorityRefused) disk)
    (returned : AuthorityCheck.verifyAuthority stored tree = true → post.returned () disk) :
    Meets faults post (verifyPair unit root) disk := by
  rw [verifyPair, meets_bind]
  refine meets_ask.2 ⟨fun _ => early.1, fun may => early.2 ⟨_, may⟩ _, ?_⟩
  simp only [found, rooted]
  exact meets_refuse_unless.2 ⟨returned, refused⟩

theorem record_exists_meets {post : Post (Unit_ Piece) (Trouble Step Refusal) Bool}
    {present : Files → Bool} (honest : faults.mayFail .look = false)
    (early : Early faults post disk) (returned : post.returned (present disk.files) disk) :
    Meets faults post (recordExists present) disk :=
  ⟨fun _ => early.1, fun may => absurd (honest.symm.trans may) (by simp), returned⟩

theorem remove_record_meets {post : Post (Unit_ Piece) (Trouble Step Refusal) Unit}
    {label : Step} {present : Files → Bool} {drop : Files → Files}
    (honest : faults.mayFail .look = false)
    (still : present disk.files = false → drop disk.files = disk.files)
    (before : Early faults post disk) (after : Early faults post (disk.write drop))
    (returned : post.returned () (disk.write drop)) :
    Meets faults post (removeRecord label present drop) disk := by
  rw [removeRecord, meets_bind]
  refine record_exists_meets honest before ?_
  dsimp only
  split
  · exact meets_bind.2 (step_meets before (step_meets after returned))
  · rename_i absent
    rw [Bool.not_eq_true] at absent
    rwa [Disk.write, still absent] at returned

theorem remove_next_meets {post : Post (Unit_ Piece) (Trouble Step Refusal) Unit}
    (honest : faults.mayFail .look = false) (before : Early faults post disk)
    (after : Early faults post (disk.write fun files => { files with next := none }))
    (returned : post.returned () (disk.write fun files => { files with next := none })) :
    Meets faults post removeNext disk :=
  remove_record_meets honest (fun absent => by
    have gone : disk.files.next = none := by simpa using absent
    rw [← gone]) before after returned

theorem remove_journal_meets {post : Post (Unit_ Piece) (Trouble Step Refusal) Unit}
    (honest : faults.mayFail .look = false) (before : Early faults post disk)
    (after : Early faults post (disk.write fun files => { files with journal := none }))
    (returned : post.returned () (disk.write fun files => { files with journal := none })) :
    Meets faults post removeJournal disk :=
  remove_record_meets honest (fun absent => by
    have gone : disk.files.journal = none := by simpa using absent
    rw [← gone]) before after returned

end Pairs

/-- The pair before a restore, its token, and the pair of the backup. -/
structure Setting (Piece : Type) where
  token : String
  database : Option (List Piece)
  artifacts : Option (List Piece)
  newDatabase : List Piece
  newArtifacts : List Piece

section Standings

variable {Piece : Type} [AuthorityCheck Piece] {faults : Faults Step} {setting : Setting Piece}
  {disk : Unit_ Piece}

/-- A journal of this restore. -/
structure Named (setting : Setting Piece) (journal : RestoreJournal) : Prop where
  token : journal.generationToken = setting.token
  database : journal.hadDatabase = setting.database.isSome
  artifacts : journal.hadArtifacts = setting.artifacts.isSome
  valid : validJournal journal

/-- A journal is open that is not committed, and the pair before can be put back. -/
structure Open (setting : Setting Piece) (disk : Unit_ Piece) : Prop where
  journal : ∃ journal, disk.files.journal = some journal ∧ Named setting journal ∧
    journal.phase ≠ .committed
  database : Half setting.database (disk.folders .database)
    (disk.folders (.oldDatabase setting.token))
  artifacts : Half setting.artifacts (disk.folders .artifacts)
    (disk.folders (.oldArtifacts setting.token))
  uncommitted : .committed ∉ disk.files.durable
  opened : disk.files.durable ≠ []

structure Committed (setting : Setting Piece) (disk : Unit_ Piece) : Prop where
  journal : ∃ journal, disk.files.journal = some journal ∧ Named setting journal ∧
    journal.phase = .committed
  database : disk.folders .database = some setting.newDatabase
  artifacts : disk.folders .artifacts = some setting.newArtifacts
  verified : AuthorityCheck.verifyAuthority setting.newDatabase setting.newArtifacts = true
  committed : .committed ∈ disk.files.durable

def Cleared (setting : Setting Piece) (disk : Unit_ Piece) : Prop :=
  disk.folders (.oldDatabase setting.token) = none ∧
    disk.folders (.oldArtifacts setting.token) = none ∧
    disk.folders (.stageDatabase setting.token) = none ∧
    disk.folders (.stageArtifacts setting.token) = none

/-- No journal is there: none was written yet, or what it named is removed. -/
structure Closed (setting : Setting Piece) (disk : Unit_ Piece) : Prop where
  journal : disk.files.journal = none
  pair : disk.folders .database = setting.database ∧ disk.folders .artifacts = setting.artifacts ∧
      .committed ∉ disk.files.durable ∨
    disk.folders .database = some setting.newDatabase ∧
      disk.folders .artifacts = some setting.newArtifacts ∧ .committed ∈ disk.files.durable
  cleared : disk.files.durable = [] ∨ Cleared setting disk

inductive Standing (setting : Setting Piece) (disk : Unit_ Piece) : Prop where
  | open_ (opened : Open setting disk)
  | committed (committed : Committed setting disk)
  | closed (closed : Closed setting disk)

/-- Wherever a recovery ends. It stops or throws only by a fault. -/
def recovering (faults : Faults Step) (setting : Setting Piece) :
    Post (Unit_ Piece) (Trouble Step Refusal) Unit where
  stopped := Standing setting
  threw := fun _ after => faults.Breaks ∧ Standing setting after
  returned := fun _ after => Closed setting after ∧ after.files.next = none

theorem early_standing {Result : Type} {returned : Result → Unit_ Piece → Prop} (stands : Standing setting disk) :
    Early faults ⟨Standing setting, fun _ after => faults.Breaks ∧ Standing setting after,
      returned⟩ disk := ⟨stands, fun may _ => ⟨may, stands⟩⟩

omit [AuthorityCheck Piece] in
theorem Open.put (opened : Open setting disk) {place : Place}
    (other : place ∉ [.database, .artifacts, .oldDatabase setting.token,
      .oldArtifacts setting.token]) (content : Option (List Piece)) :
    Open setting (disk.put place content) := by
  simp only [List.mem_cons, List.not_mem_nil, or_false, not_or] at other
  refine ⟨opened.journal, ?_, ?_, opened.uncommitted, opened.opened⟩
  · rw [Disk.put_other _ _ (Ne.symm other.1), Disk.put_other _ _ (Ne.symm other.2.2.1)]
    exact opened.database
  · rw [Disk.put_other _ _ (Ne.symm other.2.1), Disk.put_other _ _ (Ne.symm other.2.2.2)]
    exact opened.artifacts

theorem Committed.put (committed : Committed setting disk) {place : Place}
    (other : place ∉ [.database, .artifacts]) (content : Option (List Piece)) :
    Committed setting (disk.put place content) := by
  simp only [List.mem_cons, List.not_mem_nil, or_false, not_or] at other
  exact ⟨committed.journal, (Disk.put_other _ _ (Ne.symm other.1)).trans committed.database,
    (Disk.put_other _ _ (Ne.symm other.2)).trans committed.artifacts, committed.verified,
    committed.committed⟩

theorem rollback_meets {journal : RestoreJournal} (honest : faults.mayFail .look = false)
    (named : Named setting journal) (opened : Open setting disk) :
    Meets faults ⟨Standing setting, fun _ after => faults.Breaks ∧ Standing setting after,
        fun _ after => Open setting after ∧ after.folders .database = setting.database ∧
          after.folders .artifacts = setting.artifacts ∧ Cleared setting after⟩
      (rollback journal) disk := by
  rw [rollback, rollbackDatabase, rollbackArtifacts, named.token, named.database,
    named.artifacts, meets_bind]
  have database : ∀ kept aside, Half setting.database kept aside →
      Open setting ((disk.put .database kept).put (.oldDatabase setting.token) aside) :=
    fun kept aside half => ⟨opened.journal, by simpa [Disk.put_other] using half,
      by simpa [Disk.put_other] using opened.artifacts, opened.uncommitted, opened.opened⟩
  refine rollback_half honest (file_removes honest) file_renames (by simp) opened.database
    (fun kept aside half => early_standing (.open_ (database kept aside half))) (meets_bind.2 ?_)
  have opened := database setting.database none (.inr ⟨rfl, fun _ => rfl⟩)
  set first := (disk.put .database setting.database).put (.oldDatabase setting.token) none
  have database : first.folders .database = setting.database := by simp [first, Disk.put_other]
  have old : first.folders (.oldDatabase setting.token) = none := by simp [first]
  have artifacts : ∀ kept aside, Half setting.artifacts kept aside →
      Open setting ((first.put .artifacts kept).put (.oldArtifacts setting.token) aside) :=
    fun kept aside half => ⟨opened.journal, by simpa [Disk.put_other] using opened.database,
      by simpa [Disk.put_other] using half, opened.uncommitted, opened.opened⟩
  refine rollback_half honest (directory_removes honest) directory_renames (by simp)
    opened.artifacts (fun kept aside half => early_standing (.open_ (artifacts kept aside half)))
    (meets_bind.2 ?_)
  have opened := artifacts setting.artifacts none (.inr ⟨rfl, fun _ => rfl⟩)
  set second := (first.put .artifacts setting.artifacts).put (.oldArtifacts setting.token) none
  refine file_removes honest second _ _
    (fun content => early_standing (.open_ (opened.put (by simp) content))) ?_
  have opened : Open setting (second.put (.stageDatabase setting.token) none) :=
    opened.put (by simp) none
  refine directory_removes honest _ _ _
    (fun content => early_standing (.open_ (opened.put (by simp) content))) ?_
  refine ⟨opened.put (by simp) none, ?_, ?_, ?_⟩
  · simp [second, Disk.put_other, database]
  · simp [second, Disk.put_other]
  · simp [Cleared, second, Disk.put_other, old]

theorem finish_forward_meets {journal : RestoreJournal} (honest : faults.mayFail .look = false)
    (named : Named setting journal) (committed : Committed setting disk) :
    Meets faults ⟨Standing setting, fun _ after => faults.Breaks ∧ Standing setting after,
        fun _ after => Committed setting after ∧ Cleared setting after⟩
      (finishForward journal) disk := by
  have early : ∀ {after : Unit_ Piece} {Result : Type} {returned : Result → Unit_ Piece → Prop},
      Committed setting after → Early faults ⟨Standing setting,
        fun _ after => faults.Breaks ∧ Standing setting after, returned⟩ after :=
    fun committed => early_standing (.committed committed)
  rw [finishForward, named.token, meets_bind]
  refine activate_half honest (by simp [committed.database]) (early committed) (meets_bind.2 ?_)
  refine activate_half honest (by simp [committed.artifacts]) (early committed) (meets_bind.2 ?_)
  refine verify_pair_meets committed.database committed.artifacts (early committed)
    (fun refused => absurd committed.verified refused) (fun _ => meets_bind.2 ?_)
  refine file_removes honest _ _ _ (fun content => early (committed.put (by simp) content))
    (meets_bind.2 ?_)
  have first := committed.put (by simp : Place.oldDatabase setting.token ∉ _) none
  refine directory_removes honest _ _ _ (fun content => early (first.put (by simp) content))
    (meets_bind.2 ?_)
  have second := first.put (by simp : Place.oldArtifacts setting.token ∉ _) none
  refine file_removes honest _ _ _ (fun content => early (second.put (by simp) content)) ?_
  have third := second.put (by simp : Place.stageDatabase setting.token ∉ _) none
  refine directory_removes honest _ _ _ (fun content => early (third.put (by simp) content)) ?_
  exact ⟨third.put (by simp) none, by simp [Cleared, Disk.put_other]⟩

theorem finish_meets {journal : RestoreJournal} (honest : faults.mayFail .look = false)
    (found : disk.files.journal = some journal)
    (stands : Open setting disk ∨ Committed setting disk) :
    validJournal journal ∧
    Meets faults ⟨Standing setting, fun _ after => faults.Breaks ∧ Standing setting after,
        fun _ after => (Open setting after ∧ after.folders .database = setting.database ∧
            after.folders .artifacts = setting.artifacts ∨ Committed setting after) ∧
          Cleared setting after⟩
      (finish journal) disk := by
  rcases stands with opened | committed
  · rcases opened.journal with ⟨other, same, named, phase⟩
    cases found.symm.trans same
    refine ⟨named.valid, ?_⟩
    rw [finish, if_neg phase]
    exact meets_mono (rollback_meets honest named opened) (fun _ holds => holds)
      (fun _ _ holds => holds) fun _ _ holds => ⟨.inl ⟨holds.1, holds.2.1, holds.2.2.1⟩, holds.2.2.2⟩
  · rcases committed.journal with ⟨other, same, named, phase⟩
    cases found.symm.trans same
    refine ⟨named.valid, ?_⟩
    rw [finish, if_pos phase]
    exact meets_mono (finish_forward_meets honest named committed) (fun _ holds => holds)
      (fun _ _ holds => holds) fun _ _ holds => ⟨.inr holds.1, holds.2⟩

omit [AuthorityCheck Piece] in
theorem Open.dropNext (opened : Open setting disk) :
    Open setting (disk.write fun files => { files with next := none }) :=
  ⟨opened.journal, opened.database, opened.artifacts, opened.uncommitted, opened.opened⟩

theorem Committed.dropNext (committed : Committed setting disk) :
    Committed setting (disk.write fun files => { files with next := none }) :=
  ⟨committed.journal, committed.database, committed.artifacts, committed.verified,
    committed.committed⟩

omit [AuthorityCheck Piece] in
theorem Closed.dropNext (closed : Closed setting disk) :
    Closed setting (disk.write fun files => { files with next := none }) :=
  ⟨closed.journal, closed.pair, closed.cleared⟩

theorem close_meets {Returned : Unit_ Piece → Prop} (honest : faults.mayFail .look = false)
    (finished : Open setting disk ∧ disk.folders .database = setting.database ∧
        disk.folders .artifacts = setting.artifacts ∨ Committed setting disk)
    (cleared : Cleared setting disk)
    (closing : ∀ after, Closed setting after → after.files.next = none →
      (.committed ∈ after.files.durable ↔ .committed ∈ disk.files.durable) →
      Returned after) :
    Meets faults ⟨Standing setting, fun _ after => faults.Breaks ∧ Standing setting after,
      fun _ => Returned⟩ closeJournal disk := by
  have stands : Standing setting disk := by
    rcases finished with opened | committed
    · exact .open_ opened.1
    · exact .committed committed
  have dropped : Standing setting (disk.write fun files => { files with next := none }) := by
    rcases finished with opened | committed
    · exact .open_ opened.1.dropNext
    · exact .committed committed.dropNext
  have closed : Closed setting ((disk.write fun files => { files with next := none }).write
      fun files => { files with journal := none }) := by
    refine ⟨rfl, ?_, .inr cleared⟩
    rcases finished with ⟨opened, pair⟩ | committed
    · exact .inl ⟨pair.1, pair.2, opened.uncommitted⟩
    · exact .inr ⟨committed.database, committed.artifacts, committed.committed⟩
  refine meets_bind.2 (remove_next_meets honest (early_standing stands) (early_standing dropped) ?_)
  exact remove_journal_meets honest (early_standing dropped) (early_standing (.closed closed))
    (closing _ closed rfl Iff.rfl)

theorem recover_meets (honest : faults.mayFail .look = false) (stands : Standing setting disk) :
    Meets faults (recovering faults setting) recoverInterruptedRestore disk := by
  rw [recoverInterruptedRestore, meets_bind]
  refine record_exists_meets honest (early_standing stands) ?_
  have going : ∀ {journal : RestoreJournal}, disk.files.journal = some journal →
      Open setting disk ∨ Committed setting disk → Meets faults (recovering faults setting) (do
        let journal ← parseJournal
        finish journal
        closeJournal) disk := by
    intro journal found stood
    rcases finish_meets honest found stood with ⟨valid, meets⟩
    refine meets_bind.2 (meets_bind.2 (meets_ask.2 ⟨fun _ => stands, fun may => ⟨⟨_, may⟩, stands⟩, ?_⟩))
    simp only [found]
    refine meets_bind.2 (meets_refuse_unless.2 ⟨fun _ => meets_bind.2 ?_,
      fun invalid => absurd valid invalid⟩)
    refine step_meets (early_standing stands) (meets_bind.2 ?_)
    refine meets_mono meets (fun _ holds => holds) (fun _ _ holds => holds)
      fun _ after holds => ?_
    refine close_meets honest ?_ holds.2 fun closed holds next _ => ⟨holds, next⟩
    rcases holds.1 with opened | committed
    · exact .inl ⟨opened.1, opened.2.1, opened.2.2⟩
    · exact .inr committed
  have stood := stands
  cases stands with
  | open_ opened =>
      rcases opened.journal with ⟨journal, found, _⟩
      simp only [found, Option.isSome_some, if_true]
      exact going found (.inl opened)
  | committed committed =>
      rcases committed.journal with ⟨journal, found, _⟩
      simp only [found, Option.isSome_some, if_true]
      exact going found (.inr committed)
  | closed closed =>
      simp only [closed.journal, Option.isSome_none, Bool.false_eq_true, if_false]
      refine meets_bind.2 (step_meets (early_standing stood) ?_)
      exact remove_next_meets honest (early_standing (.closed closed))
        (early_standing (.closed closed.dropNext)) ⟨closed.dropNext, rfl⟩

def restoring (setting : Setting Piece) {Result : Type} (returned : Result → Unit_ Piece → Prop) :
    Post (Unit_ Piece) (Trouble Step Refusal) Result where
  stopped := Standing setting
  threw := fun _ => Standing setting
  returned := returned

theorem early_restoring {Result : Type} {returned : Result → Unit_ Piece → Prop}
    (stands : Standing setting disk) : Early faults ⟨Standing setting,
      fun _ => Standing setting, returned⟩ disk := ⟨stands, fun _ _ => stands⟩

/-- A unit without a journal, the siblings of a fresh token absent. -/
structure Ready (setting : Setting Piece) (disk : Unit_ Piece) : Prop where
  journal : disk.files.journal = none
  durable : disk.files.durable = []
  database : disk.folders .database = setting.database
  artifacts : disk.folders .artifacts = setting.artifacts
  cleared : Cleared setting disk
  newDatabase : disk.folders .backupDatabase = some setting.newDatabase
  newArtifacts : disk.folders .backupArtifacts = some setting.newArtifacts

/-- No journal is written yet, so that what is staged is named by none. -/
structure Unopened (setting : Setting Piece) (disk : Unit_ Piece) : Prop where
  journal : disk.files.journal = none
  durable : disk.files.durable = []
  database : disk.folders .database = setting.database
  artifacts : disk.folders .artifacts = setting.artifacts

theorem Unopened.standing (unopened : Unopened setting disk) : Standing setting disk :=
  .closed ⟨unopened.journal, .inl ⟨unopened.database, unopened.artifacts,
    by simp [unopened.durable]⟩, .inl unopened.durable⟩

omit [AuthorityCheck Piece] in
theorem Unopened.put (unopened : Unopened setting disk) {place : Place}
    (other : place ∉ [.database, .artifacts]) (content : Option (List Piece)) :
    Unopened setting (disk.put place content) := by
  simp only [List.mem_cons, List.not_mem_nil, or_false, not_or] at other
  exact ⟨unopened.journal, unopened.durable,
    (Disk.put_other _ _ (Ne.symm other.1)).trans unopened.database,
    (Disk.put_other _ _ (Ne.symm other.2)).trans unopened.artifacts⟩

omit [AuthorityCheck Piece] in
theorem Unopened.withNext (unopened : Unopened setting disk) (next : Option RestoreJournal) :
    Unopened setting (disk.write fun files => { files with next := next }) :=
  ⟨unopened.journal, unopened.durable, unopened.database, unopened.artifacts⟩

omit [AuthorityCheck Piece] in
theorem Ready.unopened (ready : Ready setting disk) : Unopened setting disk :=
  ⟨ready.journal, ready.durable, ready.database, ready.artifacts⟩

/-- The pair of the backup is staged and verified. -/
structure Staged (setting : Setting Piece) (disk : Unit_ Piece) : Prop where
  unopened : Unopened setting disk
  oldDatabase : disk.folders (.oldDatabase setting.token) = none
  oldArtifacts : disk.folders (.oldArtifacts setting.token) = none
  stageDatabase : disk.folders (.stageDatabase setting.token) = some setting.newDatabase
  stageArtifacts : disk.folders (.stageArtifacts setting.token) = some setting.newArtifacts
  verified : AuthorityCheck.verifyAuthority setting.newDatabase setting.newArtifacts = true

theorem stage_pair_meets (ready : Ready setting disk) :
    Meets faults (restoring setting fun _ => Staged setting) (stagePair setting.token) disk := by
  have stays : ∀ content, Unopened setting (disk.put (.stageDatabase setting.token) content) :=
    fun content => ready.unopened.put (by simp) content
  have also : ∀ content, Unopened setting ((disk.put (.stageDatabase setting.token)
      (some setting.newDatabase)).put (.stageArtifacts setting.token) content) := fun content =>
    (stays _).put (by simp) content
  have source : (disk.put (.stageDatabase setting.token) (some setting.newDatabase)).folders
      .backupArtifacts = some setting.newArtifacts := by
    rw [Disk.put_other _ _ (by simp), ready.newArtifacts]
  have absent : (disk.put (.stageDatabase setting.token) (some setting.newDatabase)).folders
      (.stageArtifacts setting.token) = none := by
    rw [Disk.put_other _ _ (by simp), ready.cleared.2.2.2]
  rw [stagePair, meets_bind]
  refine copy_meets ready.newDatabase ready.cleared.2.2.1 (fun _ => ready.unopened.standing)
    (fun _ => ready.unopened.standing)
    (fun part _ => ⟨fun _ => (stays _).standing, fun _ => (stays _).standing⟩) (meets_bind.2 ?_)
  refine copy_meets source absent (fun _ => (stays _).standing) (fun _ => (stays _).standing)
    (fun part _ => ⟨fun _ => (also _).standing, fun _ => (also _).standing⟩) (meets_bind.2 ?_)
  refine step_meets (early_restoring (also _).standing) ?_
  have database : ((disk.put (.stageDatabase setting.token) (some setting.newDatabase)).put
      (.stageArtifacts setting.token) (some setting.newArtifacts)).folders
      (.stageDatabase setting.token) = some setting.newDatabase := by
    rw [Disk.put_other _ _ (by simp), Disk.put_same]
  refine verify_pair_meets database (Disk.put_same _ _ _) (early_restoring (also _).standing)
    (fun _ => (also _).standing) fun verified => ⟨also _, ?_, ?_, database, Disk.put_same _ _ _,
      verified⟩
  · rw [id, Disk.put_other _ _ (by simp), Disk.put_other _ _ (by simp), ready.cleared.1]
  · rw [id, Disk.put_other _ _ (by simp), Disk.put_other _ _ (by simp), ready.cleared.2.1]

/-- An open journal before anything is moved. -/
structure Opened (setting : Setting Piece) (disk : Unit_ Piece) : Prop where
  opened : Open setting disk
  database : disk.folders .database = setting.database
  artifacts : disk.folders .artifacts = setting.artifacts
  oldDatabase : disk.folders (.oldDatabase setting.token) = none
  oldArtifacts : disk.folders (.oldArtifacts setting.token) = none
  stageDatabase : disk.folders (.stageDatabase setting.token) = some setting.newDatabase
  stageArtifacts : disk.folders (.stageArtifacts setting.token) = some setting.newArtifacts

def placing (disk : Unit_ Piece) (journal : RestoreJournal) : Unit_ Piece :=
  disk.write fun files => { files with
    journal := some journal, next := none, durable := files.durable ++ [journal.phase] }

omit [AuthorityCheck Piece] in
theorem write_journal_meets {journal : RestoreJournal}
    {post : Post (Unit_ Piece) (Trouble Step Refusal) Unit}
    (before : ∀ next, Early faults post (disk.write fun files => { files with next := next }))
    (after : Early faults post (placing disk journal))
    (returned : post.returned () (placing disk journal)) :
    Meets faults post (writeJournal journal) disk := by
  refine meets_bind.2 (step_meets (before disk.files.next) ?_)
  refine meets_bind.2 (step_meets (before (some journal)) ?_)
  exact meets_bind.2 (step_meets (before (some journal)) (step_meets after returned))

theorem discard_unopened_meets (honest : faults.mayFail .look = false)
    {Returned : Unit_ Piece → Prop} (unopened : Unopened setting disk)
    (returned : ∀ after, Unopened setting after → Returned after) :
    Meets faults (restoring setting fun (_ : Unit) => Returned) (discardStage setting.token)
      disk := by
  have stays : ∀ content, Unopened setting (disk.put (.stageDatabase setting.token) content) :=
    fun content => unopened.put (by simp) content
  have also : ∀ content, Unopened setting ((disk.put (.stageDatabase setting.token) none).put
      (.stageArtifacts setting.token) content) := fun content => (stays _).put (by simp) content
  have last : Meets faults (restoring setting fun (_ : Unit) => Returned)
      (Script.step .dropNext fun disk => disk.write fun files => { files with next := none })
      ((disk.put (.stageDatabase setting.token) none).put (.stageArtifacts setting.token) none) :=
    step_meets (early_restoring (also none).standing) (returned _ ((also none).withNext none))
  rw [discardStage, meets_bind]
  refine record_exists_meets honest (early_restoring unopened.standing) ?_
  simp only [unopened.journal, Option.isSome_none, Bool.false_eq_true, if_false]
  refine meets_bind.2 (step_meets (early_restoring unopened.standing) (meets_bind.2 ?_))
  refine remove_meets (fun part => ⟨fun _ => (also part).standing,
    fun _ => (also part).standing⟩) ?_
  exact last

theorem discard_meets {failure : Trouble Step Refusal} {Returned : Unit_ Piece → Prop}
    (honest : faults.mayFail .look = false) (stands : Unopened setting disk ∨ Open setting disk) :
    Meets faults (restoring setting fun (_ : Unit) => Returned)
      (do
        discardStage setting.token
        throw failure) disk := by
  refine meets_bind.2 ?_
  rcases stands with unopened | opened
  · exact discard_unopened_meets honest unopened fun _ unopened => unopened.standing
  · rcases opened.journal with ⟨journal, found, _⟩
    rw [discardStage, meets_bind]
    refine record_exists_meets honest (early_restoring (.open_ opened)) ?_
    simp only [found, Option.isSome_some, if_true]
    exact .open_ opened

theorem open_journal_meets {journal : RestoreJournal} (honest : faults.mayFail .look = false)
    (named : Named setting journal) (phase : journal.phase = .staged)
    (staged : Staged setting disk) :
    Meets faults (restoring setting fun _ => Opened setting) (openJournal journal) disk := by
  have unopened := staged.unopened.withNext
  have opened : Open setting (placing disk journal) :=
    ⟨⟨journal, rfl, named, by rw [phase]; decide⟩,
      .inr ⟨staged.oldDatabase, fun _ => staged.unopened.database⟩,
      .inr ⟨staged.oldArtifacts, fun _ => staged.unopened.artifacts⟩,
      by simp [placing, staged.unopened.durable, phase], by simp [placing]⟩
  rw [openJournal, named.token, meets_handle]
  refine write_journal_meets (fun next => ⟨(unopened next).standing, fun _ _ => ?_⟩)
    ⟨.open_ opened, fun _ _ => ?_⟩ ⟨opened, staged.unopened.database, staged.unopened.artifacts,
      staged.oldDatabase, staged.oldArtifacts, staged.stageDatabase, staged.stageArtifacts⟩
  · exact discard_meets honest (.inl (unopened next))
  · exact discard_meets honest (.inr opened)

omit [AuthorityCheck Piece] in
-- A later journal of the same restore, while the pair before can be put back.
theorem Open.enter {journal : RestoreJournal} (opened : Open setting disk)
    (named : Named setting journal) (phase : journal.phase ≠ .committed) :
    Open setting (placing disk journal) :=
  ⟨⟨journal, rfl, named, phase⟩, opened.database, opened.artifacts,
    by simpa [placing, opened.uncommitted] using Ne.symm phase, by simp [placing]⟩

theorem write_open {journal : RestoreJournal} {Returned : Unit_ Piece → Prop}
    (opened : Open setting disk) (named : Named setting journal)
    (phase : journal.phase ≠ .committed) (returned : Returned (placing disk journal)) :
    Meets faults (restoring setting fun (_ : Unit) => Returned) (writeJournal journal) disk :=
  write_journal_meets
    (fun _ => early_restoring (.open_ ⟨opened.journal, opened.database, opened.artifacts,
      opened.uncommitted, opened.opened⟩))
    (early_restoring (.open_ (opened.enter named phase))) returned

omit [AuthorityCheck Piece] in
theorem Named.enter {journal : RestoreJournal} (named : Named setting journal)
    (phase : RestorePhase) : Named setting { journal with phase := phase } :=
  ⟨named.token, named.database, named.artifacts, named.valid⟩

omit [AuthorityCheck Piece] in
theorem aside_meets {moving : Place → Place → Restore Piece Unit} {live old : Place}
    {before : Option (List Piece)} {post : Post (Unit_ Piece) (Trouble Step Refusal) Unit}
    (renames : Renames faults moving) (found : disk.folders live = before)
    (absent : disk.folders old = none) (here : Early faults post disk)
    (moved : Early faults post ((disk.put old before).put live none))
    (returned : post.returned () ((disk.put old before).put live none)) :
    Meets faults post (if before.isSome then moving live old else pure ()) disk := by
  cases before with
  | some pieces =>
      simp only [Option.isSome_some, if_true]
      exact renames _ _ _ pieces _ found absent here moved returned
  | none =>
      simp only [Option.isSome_none, Bool.false_eq_true, if_false]
      have still : disk.put old none = disk := by
        simpa only [absent] using Disk.put_found disk old
      have also : disk.put live none = disk := by
        simpa only [found] using Disk.put_found disk live
      rwa [still, also] at returned

/-- Both halves are aside, so that either can be put back whatever is live. -/
structure Aside (setting : Setting Piece) (disk : Unit_ Piece) : Prop where
  opened : Open setting disk
  database : disk.folders (.oldDatabase setting.token) = setting.database
  artifacts : disk.folders (.oldArtifacts setting.token) = setting.artifacts

omit [AuthorityCheck Piece] in
theorem Aside.put (aside : Aside setting disk) {place : Place}
    (other : place ∉ [.oldDatabase setting.token, .oldArtifacts setting.token])
    (content : Option (List Piece)) : Aside setting (disk.put place content) := by
  simp only [List.mem_cons, List.not_mem_nil, or_false, not_or] at other
  have database := (Disk.put_other disk content (Ne.symm other.1)).trans aside.database
  have artifacts := (Disk.put_other disk content (Ne.symm other.2)).trans aside.artifacts
  refine ⟨⟨aside.opened.journal, ?_, ?_, aside.opened.uncommitted, aside.opened.opened⟩,
    database, artifacts⟩
  · rw [database]
    exact half_aside _ _
  · rw [artifacts]
    exact half_aside _ _

theorem asides_meets {journal : RestoreJournal} {Returned : Unit_ Piece → Prop}
    {rest : Restore Piece Unit}
    (named : Named setting journal) (opened : Opened setting disk)
    (returned : ∀ after, Aside setting after → after.folders .database = none →
      after.folders .artifacts = none →
      after.folders (.stageDatabase setting.token) = some setting.newDatabase →
      after.folders (.stageArtifacts setting.token) = some setting.newArtifacts →
      Meets faults (restoring setting fun _ => Returned) rest after) :
    Meets faults (restoring setting fun _ => Returned)
      (do
        moveDatabaseAside journal
        moveArtifactsAside journal
        rest) disk := by
  have stands : ∀ {after : Unit_ Piece} {Result : Type} {returned : Result → Unit_ Piece → Prop},
      Open setting after → Early faults ⟨Standing setting, fun _ => Standing setting,
        returned⟩ after := fun opened => early_restoring (.open_ opened)
  set first := (disk.put (.oldDatabase setting.token) setting.database).put .database none
    with first_eq
  have whole : first.folders .artifacts = setting.artifacts := by
    simp [first, Disk.put_other, opened.artifacts]
  have clear : first.folders (.oldArtifacts setting.token) = none := by
    simp [first, Disk.put_other, opened.oldArtifacts]
  have moved : Open setting first := by
    refine ⟨opened.opened.journal, ?_, ?_, opened.opened.uncommitted, opened.opened.opened⟩
    · simpa [first, Disk.put_other] using half_aside setting.database none
    · rw [whole, clear]
      exact .inr ⟨rfl, fun _ => rfl⟩
  set second := (first.put (.oldArtifacts setting.token) setting.artifacts).put .artifacts none
  have aside : Aside setting second := by
    refine ⟨⟨moved.journal, ?_, ?_, moved.uncommitted, moved.opened⟩, ?_, ?_⟩
    · simpa [second, first, Disk.put_other] using half_aside setting.database none
    · simpa [second, Disk.put_other] using half_aside setting.artifacts none
    · simp [second, first, Disk.put_other]
    · simp [second, Disk.put_other]
  rw [moveDatabaseAside, moveArtifactsAside, named.token, named.database, named.artifacts,
    meets_bind]
  refine aside_meets file_renames opened.database opened.oldDatabase (stands opened.opened)
    (stands moved) (meets_bind.2 ?_)
  refine aside_meets directory_renames whole clear (stands moved) (stands aside.opened) ?_
  refine returned second aside ?_ ?_ ?_ ?_
  · simp [second, first, Disk.put_other]
  · simp [second]
  · simp [second, first, Disk.put_other, opened.stageDatabase]
  · simp [second, first, Disk.put_other, opened.stageArtifacts]

omit [AuthorityCheck Piece] in
theorem Aside.enter {journal : RestoreJournal} (aside : Aside setting disk)
    (named : Named setting journal) (phase : journal.phase ≠ .committed) :
    Aside setting (placing disk journal) :=
  ⟨aside.opened.enter named phase, aside.database, aside.artifacts⟩

-- One half is renamed from its stage to an absent place, and the next phase is entered.
theorem activated_meets {moving : Place → Place → Restore Piece Unit} {live stage : Place}
    {pieces : List Piece} {journal : RestoreJournal} {Returned : Unit_ Piece → Prop}
    {rest : Restore Piece Unit} (renames : Renames faults moving) (aside : Aside setting disk)
    (named : Named setting journal) (phase : journal.phase ≠ .committed)
    (other : live ∉ [.oldDatabase setting.token, .oldArtifacts setting.token])
    (also : stage ∉ [.oldDatabase setting.token, .oldArtifacts setting.token])
    (found : disk.folders stage = some pieces) (absent : disk.folders live = none)
    (apart : live ≠ stage)
    (then_ : ∀ after, Aside setting after → after.folders live = some pieces →
      (∀ place, place ≠ live → place ≠ stage → after.folders place = disk.folders place) →
      Meets faults (restoring setting fun _ => Returned) rest after) :
    Meets faults (restoring setting fun _ => Returned)
      (do
        moving stage live
        writeJournal journal
        rest) disk := by
  have moved : Aside setting ((disk.put live (some pieces)).put stage none) :=
    (aside.put other _).put also none
  refine meets_bind.2 (renames _ _ _ pieces _ found absent
    (early_restoring (.open_ aside.opened)) (early_restoring (.open_ moved.opened))
    (meets_bind.2 ?_))
  refine write_open moved.opened named phase (then_ _ (moved.enter named phase) ?_ ?_)
  · exact (Disk.put_other _ _ apart).trans (Disk.put_same _ _ _)
  · intro place first second
    exact (Disk.put_other _ _ second).trans (Disk.put_other _ _ first)

theorem replace_meets {journal : RestoreJournal} (named : Named setting journal)
    (opened : Opened setting disk)
    (verified : AuthorityCheck.verifyAuthority setting.newDatabase setting.newArtifacts = true) :
    Meets faults (restoring setting fun (_ : Unit) => Committed setting) (replace journal)
      disk := by
  rw [replace]
  refine asides_meets named opened
    fun second aside noDatabase noArtifacts stagedDatabase stagedArtifacts => ?_
  rw [← named.token] at stagedDatabase stagedArtifacts
  refine meets_bind.2 (write_open aside.opened (named.enter .oldMoved) (by simp) ?_)
  have aside := aside.enter (named.enter .oldMoved) (by simp)
  refine activated_meets file_renames aside (named.enter .databaseActivated) (by simp) (by simp)
    (by simp) stagedDatabase noDatabase (by simp) fun third aside database others => ?_
  replace noArtifacts := (others .artifacts (by simp) (by simp)).trans noArtifacts
  replace stagedArtifacts := (others (.stageArtifacts _) (by simp) (by simp)).trans stagedArtifacts
  refine activated_meets directory_renames aside (named.enter .artifactsActivated) (by simp)
    (by simp) (by simp) stagedArtifacts noArtifacts (by simp) fun fourth aside artifacts others => ?_
  replace database := (others .database (by simp) (by simp)).trans database
  refine meets_bind.2 (verify_pair_meets database artifacts
    (early_restoring (.open_ aside.opened)) (fun refused => absurd verified refused) fun _ => ?_)
  have committed : Committed setting (placing fourth { journal with phase := .committed }) :=
    ⟨⟨_, rfl, named.enter .committed, rfl⟩, database, artifacts, verified, by simp [placing]⟩
  refine write_journal_meets (fun next => early_restoring (.open_ ?_))
    (early_restoring (.committed committed)) committed
  exact ⟨aside.opened.journal, aside.opened.database, aside.opened.artifacts,
    aside.opened.uncommitted, aside.opened.opened⟩

/-- A restore that returns is committed and leaves nothing behind. -/
def Restored (setting : Setting Piece) (disk : Unit_ Piece) : Prop :=
  Closed setting disk ∧ disk.files.next = none ∧ .committed ∈ disk.files.durable

theorem conclude_meets {request : Request} {journal : RestoreJournal}
    (honest : faults.mayFail .look = false) (named : Named setting journal)
    (committed : Committed setting disk) :
    Meets faults (restoring setting fun _ => Restored setting) (conclude request journal)
      disk := by
  have evidenced : ∀ evidence, Committed setting
      (disk.write fun files => { files with evidence := evidence }) := fun _ =>
    ⟨committed.journal, committed.database, committed.artifacts, committed.verified,
      committed.committed⟩
  rw [conclude, meets_bind]
  refine step_meets (early_restoring (.committed committed)) (meets_bind.2 ?_)
  refine step_meets (early_restoring (.committed (evidenced _))) (meets_bind.2 ?_)
  refine meets_mono (finish_forward_meets honest (named.enter .committed) (evidenced _))
    (fun _ stands => stands) (fun _ _ threw => threw.2) fun _ after finished => meets_bind.2 ?_
  refine step_meets (early_restoring (.committed finished.1)) (meets_bind.2 ?_)
  have closing : ∀ last, Closed setting last → last.files.next = none →
      (.committed ∈ last.files.durable ↔ .committed ∈ after.files.durable) →
      Restored setting last := fun last closed next durable =>
    ⟨closed, next, durable.2 finished.1.committed⟩
  exact meets_mono (close_meets honest (.inr finished.1) finished.2 closing)
    (fun _ stands => stands) (fun _ _ threw => threw.2) fun _ _ restored => restored

theorem recover_ready_meets (honest : faults.mayFail .look = false) (ready : Ready setting disk) :
    Meets faults (restoring setting fun _ => Ready setting) recoverInterruptedRestore disk := by
  have next : ∀ next, Ready setting (disk.write fun files => { files with next := next }) :=
    fun _ => ⟨ready.journal, ready.durable, ready.database, ready.artifacts, ready.cleared,
      ready.newDatabase, ready.newArtifacts⟩
  rw [recoverInterruptedRestore, meets_bind]
  refine record_exists_meets honest (early_restoring ready.unopened.standing) ?_
  simp only [ready.journal, Option.isSome_none, Bool.false_eq_true, if_false]
  refine meets_bind.2 (step_meets (early_restoring ready.unopened.standing) ?_)
  exact remove_next_meets honest (early_restoring ready.unopened.standing)
    (early_restoring (next none).unopened.standing) (next none)

theorem preflight_meets {request : Request} (honest : faults.mayFail .look = false)
    (ready : Ready setting disk) :
    Meets faults (restoring setting fun _ => Ready setting) (preflight request) disk := by
  rw [preflight, meets_bind]
  refine step_meets (early_restoring ready.unopened.standing) (meets_bind.2 ?_)
  refine record_exists_meets honest (early_restoring ready.unopened.standing) ?_
  simp only [id, ready.journal, Option.isSome_none, Bool.and_false, Bool.false_eq_true, if_false]
  exact ready

omit [AuthorityCheck Piece] in
theorem retain_meets {request : Request} {hadDatabase hadArtifacts : Bool}
    {post : Post (Unit_ Piece) (Trouble Step Refusal) (Option VerifiedBackupIdentity)}
    (early : Early faults post disk) (refused : ∀ refusal, post.threw (.refused refusal) disk)
    (returned : ∀ retained, validJournal (journalOf request hadDatabase hadArtifacts retained) →
      post.returned retained disk) :
    Meets faults post (retain request hadDatabase hadArtifacts) disk := by
  rw [retain]
  split
  · refine meets_bind.2 (meets_refuse_unless.2 ⟨fun _ => meets_bind.2 ?_, fun _ => refused _⟩)
    refine meets_refuse_unless.2 ⟨fun rooted => meets_bind.2 ?_, fun _ => refused _⟩
    refine meets_refuse_unless.2 ⟨fun _ => meets_bind.2 ?_, fun _ => refused _⟩
    exact step_meets early (returned _ ⟨request.tokenMatches, fun _ => ⟨rooted, rfl⟩⟩)
  · rename_i absent
    refine returned none ⟨request.tokenMatches, fun had => absurd ?_ absent⟩
    simpa [journalOf] using had

theorem restore_meets {request : Request} (honest : faults.mayFail .look = false)
    (token : request.token = setting.token) (ready : Ready setting disk) :
    Meets faults (restoring setting fun _ => Restored setting) (restoreBackup request) disk := by
  have early : ∀ {Result : Type} {returned : Result → Unit_ Piece → Prop} {after : Unit_ Piece},
      Ready setting after → Early faults ⟨Standing setting, fun _ => Standing setting,
        returned⟩ after := fun ready => early_restoring ready.unopened.standing
  rw [restoreBackup, meets_bind]
  refine step_meets (early ready) (meets_bind.2 ?_)
  refine meets_mono (preflight_meets honest ready) (fun _ stands => stands)
    (fun _ _ stands => stands) fun _ _ ready => meets_bind.2 ?_
  refine meets_mono (recover_ready_meets honest ready) (fun _ stands => stands)
    (fun _ _ stands => stands) fun _ _ ready => meets_bind.2 ?_
  refine exists_meets honest (early ready) (meets_bind.2 ?_)
  refine exists_meets honest (early ready) (meets_bind.2 ?_)
  refine retain_meets (early ready) (fun _ => ready.unopened.standing)
    fun retained valid => meets_bind.2 ?_
  have named : Named setting (journalOf request _ _ retained) :=
    ⟨token, congrArg Option.isSome ready.database, congrArg Option.isSome ready.artifacts, valid⟩
  rw [token]
  refine meets_mono (stage_pair_meets ready) (fun _ stands => stands)
    (fun _ _ stands => stands) fun _ _ staged => meets_bind.2 ?_
  refine meets_mono (open_journal_meets honest named rfl staged) (fun _ stands => stands)
    (fun _ _ stands => stands) fun _ _ opened => meets_bind.2 ?_
  exact meets_mono (replace_meets named opened staged.verified) (fun _ stands => stands)
    (fun _ _ stands => stands) fun _ _ committed => conclude_meets honest named committed

/-- Any step may fail but `existsSync`, and the process may stop before any. -/
def crashes : Faults Step := ⟨fun label => label != .look, fun _ => true⟩

/-- Recoveries of which each may end before it is through. -/
inductive Recovering (start : Unit_ Piece) : Unit_ Piece → Prop where
  | restored : Recovering start start
  | again {found : Unit_ Piece} {choices : List Choice} : Recovering start found →
      permitted crashes choices recoverInterruptedRestore found = true →
      Recovering start (follow choices recoverInterruptedRestore found).2

theorem follow_standing (stands : Standing setting disk) {choices : List Choice}
    (allowed : permitted crashes choices recoverInterruptedRestore disk = true) :
    Standing setting (follow choices recoverInterruptedRestore disk).2 :=
  meets_state (meets_mono (recover_meets rfl stands) (fun _ stands => stands)
    (fun _ _ threw => threw.2) fun _ _ returned => .closed returned.1) allowed

theorem recovering_standing {start : Unit_ Piece} (stands : Standing setting start)
    (recovering : Recovering start disk) : Standing setting disk := by
  induction recovering with
  | restored => exact stands
  | again _ allowed ih => exact follow_standing ih allowed

section Durable

variable {phases : List RestorePhase}

def Durable (phases : List RestorePhase) (disk : Unit_ Piece) : Prop :=
  disk.files.durable = phases

omit [AuthorityCheck Piece] in
theorem exists_durable (place : Place) : Preserves (Durable phases)
    (pathExists place : Restore Piece Bool) :=
  ⟨trivial, fun _ holds => ⟨holds, trivial⟩⟩

omit [AuthorityCheck Piece] in
theorem remove_file_durable (place : Place) :
    Preserves (Durable phases) (removeFile place : Restore Piece Unit) := by
  refine preserves_bind (exists_durable place) fun found => ?_
  split
  · exact preserves_bind (preserves_step fun _ holds => holds) fun _ =>
      preserves_step fun _ holds => holds
  · trivial

omit [AuthorityCheck Piece] in
theorem remove_directory_durable (place : Place) :
    Preserves (Durable phases) (removeDirectory place : Restore Piece Unit) := by
  refine preserves_bind (exists_durable place) fun found => ?_
  split
  · exact preserves_bind (preserves_remove fun _ _ holds => holds) fun _ =>
      preserves_step fun _ holds => holds
  · trivial

omit [AuthorityCheck Piece] in
theorem rename_file_durable (source destination : Place) :
    Preserves (Durable phases) (renameFile source destination : Restore Piece Unit) := by
  refine preserves_bind (preserves_attempt fun found after moved holds => ?_) fun _ =>
    preserves_step fun _ holds => holds
  rcases Option.map_eq_some_iff.1 moved with ⟨content, _, rfl⟩
  exact holds

omit [AuthorityCheck Piece] in
theorem rename_directory_durable (source destination : Place) :
    Preserves (Durable phases) (renameDirectory source destination : Restore Piece Unit) :=
  preserves_bind (preserves_rename (fun _ _ holds => holds) fun _ _ holds => holds) fun _ =>
    preserves_step fun _ holds => holds

omit [AuthorityCheck Piece] in
theorem rollback_half_durable {removal : Place → Restore Piece Unit}
    {moving : Place → Place → Restore Piece Unit} {live old : Place} {had : Bool}
    (removes : ∀ place, Preserves (Durable phases) (removal place))
    (moves : ∀ source destination, Preserves (Durable phases) (moving source destination)) :
    Preserves (Durable phases) (rollbackHalf removal moving live old had) := by
  refine preserves_bind (exists_durable old) fun found => ?_
  split
  · exact preserves_bind (removes live) fun _ => moves old live
  · split
    · trivial
    · exact removes live

omit [AuthorityCheck Piece] in
theorem activate_half_durable {moving : Place → Place → Restore Piece Unit} {live stage : Place}
    (moves : ∀ source destination, Preserves (Durable phases) (moving source destination)) :
    Preserves (Durable phases) (activateHalf moving live stage) := by
  refine preserves_bind (exists_durable live) fun _ =>
    preserves_bind (exists_durable stage) fun _ => ?_
  split
  · exact moves stage live
  · trivial

theorem verify_pair_durable (unit root : Place) :
    Preserves (Durable phases) (verifyPair unit root : Restore Piece Unit) := by
  refine preserves_bind preserves_ask fun found => ?_
  split
  · exact preserves_refuse_unless
  · trivial

theorem finish_durable (journal : RestoreJournal) :
    Preserves (Durable phases) (finish journal : Restore Piece Unit) := by
  rw [finish]
  split
  · refine preserves_bind (activate_half_durable rename_file_durable) fun _ => ?_
    refine preserves_bind (activate_half_durable rename_directory_durable) fun _ => ?_
    refine preserves_bind (verify_pair_durable _ _) fun _ => ?_
    refine preserves_bind (remove_file_durable _) fun _ => ?_
    refine preserves_bind (remove_directory_durable _) fun _ => ?_
    exact preserves_bind (remove_file_durable _) fun _ => remove_directory_durable _
  · refine preserves_bind (rollback_half_durable remove_file_durable rename_file_durable)
      fun _ => ?_
    refine preserves_bind (rollback_half_durable remove_directory_durable
      rename_directory_durable) fun _ => ?_
    exact preserves_bind (remove_file_durable _) fun _ => remove_directory_durable _

omit [AuthorityCheck Piece] in
theorem remove_record_durable {label : Step} {present : Files → Bool} {drop : Files → Files}
    (keeps : ∀ files, (drop files).durable = files.durable) :
    Preserves (Durable phases) (removeRecord label present drop : Restore Piece Unit) := by
  refine preserves_bind ⟨trivial, fun _ holds => ⟨holds, trivial⟩⟩ fun found => ?_
  split
  · refine preserves_bind (preserves_step fun found holds => ?_) fun _ =>
      preserves_step fun _ holds => holds
    exact (keeps found.files).trans holds
  · trivial

theorem recover_durable :
    Preserves (Durable phases) (recoverInterruptedRestore : Restore Piece Unit) := by
  refine preserves_bind ⟨trivial, fun _ holds => ⟨holds, trivial⟩⟩ fun found => ?_
  split
  · refine preserves_bind (preserves_bind preserves_ask fun journal => ?_) fun journal => ?_
    · cases journal with
      | none => trivial
      | some journal =>
          refine preserves_bind preserves_refuse_unless fun _ => ?_
          exact preserves_bind (preserves_step fun _ holds => holds) fun _ => trivial
    · refine preserves_bind (finish_durable journal) fun _ => ?_
      exact preserves_bind (remove_record_durable fun _ => rfl) fun _ =>
        remove_record_durable fun _ => rfl
  · exact preserves_bind (preserves_step fun _ holds => holds) fun _ =>
      remove_record_durable fun _ => rfl

theorem follow_durable {choices : List Choice}
    (allowed : permitted crashes choices recoverInterruptedRestore disk = true) :
    (follow choices recoverInterruptedRestore disk).2.files.durable = disk.files.durable :=
  meets_state (preserves_meets recover_durable (rfl : Durable disk.files.durable disk)) allowed

theorem recovering_durable {start : Unit_ Piece} (recovering : Recovering start disk) :
    disk.files.durable = start.files.durable := by
  induction recovering with
  | restored => rfl
  | again _ allowed ih => exact (follow_durable allowed).trans ih

end Durable

/-- The live pair is whole, the restored one exactly when a committed journal was durable, and
nothing of the restore is left. -/
structure Whole (setting : Setting Piece) (durable : List RestorePhase) (disk : Unit_ Piece) :
    Prop where
  restored : .committed ∈ durable → disk.folders .database = some setting.newDatabase ∧
    disk.folders .artifacts = some setting.newArtifacts
  kept : .committed ∉ durable → disk.folders .database = setting.database ∧
    disk.folders .artifacts = setting.artifacts
  journal : disk.files.journal = none
  next : disk.files.next = none
  cleared : durable ≠ [] → Cleared setting disk

omit [AuthorityCheck Piece] in
theorem closed_whole (closed : Closed setting disk) (next : disk.files.next = none) :
    Whole setting disk.files.durable disk := by
  refine ⟨fun committed => ?_, fun uncommitted => ?_, closed.journal, next, fun opened => ?_⟩
  · rcases closed.pair with ⟨_, _, uncommitted⟩ | ⟨database, artifacts, _⟩
    · exact absurd committed uncommitted
    · exact ⟨database, artifacts⟩
  · rcases closed.pair with ⟨database, artifacts, _⟩ | ⟨_, _, committed⟩
    · exact ⟨database, artifacts⟩
    · exact absurd committed uncommitted
  · exact closed.cleared.resolve_left opened

/-- Wherever a restore and any number of recoveries after it end, a recovery that completes
leaves one whole pair and nothing of the restore, and one without a fault completes. -/
theorem restore_recovers {request : Request} (token : request.token = setting.token)
    (ready : Ready setting disk) {choices : List Choice}
    (allowed : permitted crashes choices (restoreBackup request) disk = true)
    {found : Unit_ Piece}
    (recovering : Recovering (follow choices (restoreBackup request) disk).2 found) :
    (∀ last, permitted crashes last recoverInterruptedRestore found = true →
      (follow last recoverInterruptedRestore found).1 = .returned () →
      Whole setting (follow choices (restoreBackup request) disk).2.files.durable
        (follow last recoverInterruptedRestore found).2) ∧
    ∃ count, (follow (List.replicate count .goes) recoverInterruptedRestore found).1 =
      .returned () := by
  have restored : Standing setting (follow choices (restoreBackup request) disk).2 :=
    meets_state (meets_mono (restore_meets rfl token ready) (fun _ stands => stands)
      (fun _ _ stands => stands) fun _ _ restored => .closed restored.1) allowed
  have stands := recovering_standing restored recovering
  constructor
  · intro last allowed returned
    have ended := meets_follow (recover_meets rfl stands) allowed
    have same := (follow_durable allowed).trans (recovering_durable recovering)
    rw [← same]
    cases shape : follow last recoverInterruptedRestore found with
    | mk ending after =>
        rw [shape] at returned ended
        cases returned
        exact closed_whole ended.1 ended.2
  · have meets : Meets Faults.none (RestoreRecovery.recovering Faults.none setting)
        recoverInterruptedRestore found := recover_meets rfl stands
    have quiet : ∀ failure (after : Unit_ Piece),
        ¬(RestoreRecovery.recovering Faults.none setting).threw failure after := by
      rintro _ _ ⟨⟨_, may⟩, _⟩
      cases may
    rcases meets_completes meets quiet with ⟨count, _, after, shape, _⟩
    exact ⟨count, by rw [shape]⟩

end Standings

section Recorded

@[reducible] def recordedCheck : AuthorityCheck String where
  verifyAuthority := fun unit root => unit.length == root.length

attribute [local instance] recordedCheck

def sampleIdentity (digest : String) (written : isDigest digest = true) :
    VerifiedBackupIdentity := ⟨"2026-07-01T12:00:00.000Z", digest, digest, ⟨written, written⟩⟩

def sampleRequest : Request where
  confirmReplacement := true
  retainedBackupRoot := some "/backups/before"
  token := "3f2b8c1e-5a47-4d90-9c3e-7b1a2d4e6f80"
  tokenMatches := by decide +kernel
  retainedIdentity :=
    sampleIdentity "1111111111111111111111111111111111111111111111111111111111111111" (by decide)
  backupIdentity :=
    sampleIdentity "2222222222222222222222222222222222222222222222222222222222222222" (by decide)

def sampleSetting : Setting String where
  token := "3f2b8c1e-5a47-4d90-9c3e-7b1a2d4e6f80"
  database := some ["old rows"]
  artifacts := some ["old object"]
  newDatabase := ["rows"]
  newArtifacts := ["object"]

def sampleUnit : Unit_ String where
  folders := fun place =>
    if place = .database then some ["old rows"]
    else if place = .artifacts then some ["old object"]
    else if place = .backupDatabase then some ["rows"]
    else if place = .backupArtifacts then some ["object"]
    else none
  files := ⟨none, none, none, []⟩

theorem sample_ready : Ready sampleSetting sampleUnit :=
  ⟨rfl, rfl, rfl, rfl, ⟨rfl, rfl, rfl, rfl⟩, rfl, rfl⟩

/-- The process stops between the two activations, and a first recovery before it has put the
database back. -/
theorem aside_recovered : Whole sampleSetting
    (follow (List.replicate 35 .goes) (restoreBackup sampleRequest) sampleUnit).2.files.durable
    (follow (List.replicate 40 .goes) recoverInterruptedRestore
      (follow (List.replicate 6 .goes) recoverInterruptedRestore
        (follow (List.replicate 35 .goes) (restoreBackup sampleRequest) sampleUnit).2).2).2 := by
  have allowed : permitted crashes (List.replicate 35 .goes) (restoreBackup sampleRequest)
      sampleUnit = true := by decide +kernel
  have again : permitted crashes (List.replicate 6 .goes) recoverInterruptedRestore
      (follow (List.replicate 35 .goes) (restoreBackup sampleRequest) sampleUnit).2 = true := by
    decide +kernel
  have recovers := restore_recovers (rfl : sampleRequest.token = sampleSetting.token)
    sample_ready allowed
    (.again .restored again)
  exact recovers.1 _ (by decide +kernel) (by decide +kernel)

end Recorded

end Horseness.RestoreRecovery
