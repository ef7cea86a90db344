import Horseness.Folders
import Horseness.InstallerJournal

/-!
The migration engine of the installer: the state file, the journal and the directories below
its authority root, `migrate` and `recover` as scripts of the steps they take there.
-/

namespace Horseness.InstallerMigrations

open CrashScripts Folders InstallerVersions InstallerJournal

inductive MigrationPhase where
  | begun | backupCreated | staged | activated | compensating | compensated | repairRequired
  | complete
  deriving DecidableEq, Repr

inductive CrashPoint where
  | afterBegin | afterBackup | afterStageFsync | afterActivateRename | afterActivateFsync
  | duringCompensation
  deriving DecidableEq, Repr

/-- The directories below the authority root. -/
inductive Place where
  | active
  | backup (generation : Nat) (version : String)
  | staging (generation : Nat) (version : String)
  | previous (generation : Nat)
  deriving DecidableEq, Repr

structure StateCore where
  installedVersion : String
  generation : Nat
  phase : MigrationPhase
  transactionId : Option String
  backupPath : Option Place
  stagedPath : Option Place
  targetVersion : Option String
  deriving DecidableEq, Repr

structure InstallerState extends StateCore where
  detailDigest : String
  deriving DecidableEq, Repr

/-- `installerSha256` of `horseness.installer-state.v1\0` and the JSON text of a state. -/
class StateDigests where
  stateDigest : StateCore → String

export StateDigests (stateDigest)

structure Files where
  state : Option InstallerState
  journal : List JournalEntry
  deriving DecidableEq, Repr

inductive Refusal where
  | invalidMigrationPlan
  | downgradeReversiblePlanRequired
  | downgradeMajorGateRequired
  | migrationSourceMismatch
  | installerStateIntegrityMismatch
  | invalidJournalPayload
  | injectedCrash
  deriving DecidableEq, Repr

/-- The steps by the statements that take them. -/
inductive Step where
  | readState
  | persist (phase : MigrationPhase)
  | record (operation : JournalOperation)
  | hook (point : CrashPoint)
  | makeBackups | clearBackup | openBackup | fillBackup | syncBackups
  | makeStaging | clearStaging | transform | syncStaged | syncStaging
  | retire | activate | syncRoot | dropPrevious
  | findBackup | clearActive | openActive | fillActive
  deriving DecidableEq, Repr

abbrev Home (Piece : Type) := Disk Place Piece Files

abbrev Engine (Piece Result : Type) := Program Place Piece Files Step Refusal Result

/-- The transform is given the active home and the staged home, and no other place. -/
structure MigrationPlan (Piece : Type) where
  transactionId : String
  explicitMajorGate : Bool
  fromVersion : String
  toVersion : String
  reversible : Bool
  transform : Script (Option (List Piece) × Option (List Piece)) Unit Unit Unit

variable {Piece : Type} [StateDigests]

def createState (core : StateCore) : InstallerState :=
  { core with detailDigest := stateDigest core }

/-- What `readState` checks of a state that has the fields of one. -/
def authentic (state : InstallerState) : Bool :=
  isVersion state.installedVersion && 1 ≤ state.generation && state.generation < 2 ^ 53 &&
    state.detailDigest == stateDigest state.toStateCore

def readState : Engine Piece InstallerState := do
  match ← Script.ask .readState (·.files.state) with
  | none => throw (.broken .readState)
  | some state =>
      Script.refuseUnless (authentic state) .installerStateIntegrityMismatch
      return state

def persist (state : InstallerState) : Engine Piece Unit :=
  writeAtomic (.persist state.phase) (.persist state.phase) fun files => { files with state := some state }

def entryOf (operation : JournalOperation) (state : InstallerState) : JournalEntry where
  generation := state.generation
  operation := operation
  transactionId := state.transactionId.getD s!"steady-{state.generation}"
  releaseVersion := state.targetVersion.getD state.installedVersion
  detailDigest := state.detailDigest

/-- The append writes the journal as one rename and then still has its lock to release. -/
def record (operation : JournalOperation) (state : InstallerState) : Engine Piece Unit := do
  let entry := entryOf operation state
  Script.refuseUnless (validPayload entry) .invalidJournalPayload
  Script.step (.record operation) (·.write fun files =>
    { files with journal := files.journal ++ [entry] })
  Script.step (.record operation) id

/-- `crash?.(point)`, which throws where the process is to be taken for stopped. -/
def hook (point : CrashPoint) : Engine Piece Unit :=
  .act (.hook point) id (fun _ => .done ()) (.fails (.refused .injectedCrash))

/-- `stat(backup)`, with every failure taken for absence. -/
def statBackup (backup : Place) : Engine Piece Bool :=
  let found : Engine Piece Bool := do
    synchronize .findBackup backup
    return true
  found.handle fun _ => pure false

def restore (backup : Place) : Engine Piece Unit := do
  remove .clearActive .active
  copy .openActive .fillActive backup .active
  Script.step .syncRoot id

def recover : Engine Piece InstallerState := do
  let state ← readState
  if state.phase = .complete ∨ state.phase = .compensated then return state
  match state.backupPath with
  | none =>
      let state := createState { state.toStateCore with phase := .repairRequired }
      persist state
      return state
  | some backup =>
      if ← statBackup backup then
        restore backup
        let state := createState { state.toStateCore with
          phase := .compensated, backupPath := some backup, stagedPath := none }
        persist state
        record .compensated state
        return state
      else
        let state := createState { state.toStateCore with phase := .repairRequired }
        persist state
        return state

def transform (plan : MigrationPlan Piece) (staged : Place) : Engine Piece Unit :=
  plan.transform.within (fun _ => .transform) (fun _ => .broken .transform)
    (fun disk => (disk.folders .active, disk.folders staged))
    (fun pair disk => (disk.put .active pair.1).put staged pair.2)

/-- The `try` block of `migrate`. A failure is thrown with what `state` then holds. -/
def advance (plan : MigrationPlan Piece) (backup staged : Place) (begun : InstallerState) :
    Script (Home Piece) Step (Trouble Step Refusal × InstallerState) InstallerState := do
  Script.holding begun do
    Script.step .makeBackups id
    remove .clearBackup backup
    copy .openBackup .fillBackup .active backup
    Script.step .syncBackups id
  let created := createState { begun.toStateCore with phase := .backupCreated }
  Script.holding created do
    persist created
    record .backupCreated created
    hook .afterBackup
    Script.step .makeStaging id
    remove .clearStaging staged
    transform plan staged
    synchronize .syncStaged staged
    Script.step .syncStaging id
  let ready := createState { created.toStateCore with phase := .staged }
  Script.holding ready do
    persist ready
    record .staged ready
    hook .afterStageFsync
    rename .retire .active (.previous begun.generation)
    rename .activate staged .active
    hook .afterActivateRename
    Script.step .syncRoot id
    hook .afterActivateFsync
    remove .dropPrevious (.previous begun.generation)
  let complete := createState
    { installedVersion := plan.toVersion, generation := begun.generation, phase := .complete,
      transactionId := none, backupPath := some backup, stagedPath := none, targetVersion := none }
  Script.holding complete do
    persist complete
    record .activated { complete with
      transactionId := some plan.transactionId, targetVersion := some plan.toVersion }
    return complete

def compensate (plan : MigrationPlan Piece) (backup : Place) (state : InstallerState) :
    Engine Piece InstallerState := do
  let compensating := createState { state.toStateCore with phase := .compensating }
  persist compensating
  record .compensating compensating
  (do
    Script.holding compensating do
      hook .duringCompensation
      restore backup
    let compensated := createState
      { installedVersion := plan.fromVersion, generation := state.generation,
        phase := .compensated, transactionId := some plan.transactionId,
        backupPath := some backup, stagedPath := none, targetVersion := some plan.toVersion }
    Script.holding compensated do
      persist compensated
      record .compensated compensated
      return compensated).handle fun thrown => do
    let state := createState { thrown.2.toStateCore with phase := .repairRequired }
    persist state
    record .repairRequired state
    return state

def begunState (plan : MigrationPlan Piece) (generation : Nat) : InstallerState := createState
  { installedVersion := plan.fromVersion, generation := generation, phase := .begun,
    transactionId := some plan.transactionId,
    backupPath := some (.backup generation plan.fromVersion),
    stagedPath := some (.staging generation plan.toVersion), targetVersion := some plan.toVersion }

def migrate (plan : MigrationPlan Piece) : Engine Piece InstallerState := do
  let downgraded := downgrade plan.fromVersion plan.toVersion
  Script.refuseUnless (isVersion plan.fromVersion ∧ isVersion plan.toVersion) .invalidMigrationPlan
  Script.refuseUnless (downgraded → plan.reversible) .downgradeReversiblePlanRequired
  Script.refuseUnless (downgraded → sameNumber (component plan.toVersion 0)
    (component plan.fromVersion 0) ∨ plan.explicitMajorGate) .downgradeMajorGateRequired
  let found ← recover
  Script.refuseUnless (found.installedVersion = plan.fromVersion ∧ found.phase = .complete)
    .migrationSourceMismatch
  let generation := found.generation + 1
  let begun := begunState plan generation
  persist begun
  record .migrationBegun begun
  hook .afterBegin
  (advance plan (.backup generation plan.fromVersion) (.staging generation plan.toVersion)
    begun).handle fun thrown =>
      if thrown.1 = .refused .injectedCrash then throw thrown.1
      else compensate plan (.backup generation plan.fromVersion) thrown.2

end Horseness.InstallerMigrations
