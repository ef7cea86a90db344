import Horseness.Folders
import Horseness.InstallerJournal

/-!
The lifecycle of one host's installed generation: upgrade, downgrade, rollback and
retry-install as scripts over the managed target, the generations beside it, the owner
marker, the lifecycle state and the journal.
-/

namespace Horseness.HostLifecycle

open CrashScripts Folders InstallerVersions InstallerJournal

inductive InstallHostId where
  | pi | omp | claude | codex
  deriving DecidableEq, Repr

inductive InstallScope where
  | user | workspace
  deriving DecidableEq, Repr

inductive Operation where
  | upgrade | downgrade | rollback | retryInstall
  deriving DecidableEq, Repr

inductive Phase where
  | staging | staged | priorRetained | activated | healthy | compensating
  deriving DecidableEq, Repr

/-- The managed target, and the directories of generations below the data root. -/
inductive Place where
  | target
  | staged (digest transactionId : String)
  | retained (digest : String)
  deriving DecidableEq, Repr

structure OwnerMarker where
  scope : InstallScope
  workspaceId : String
  accountId : String
  hostId : InstallHostId
  releaseManifestDigest : String
  packageDigest : String
  sourceArtifactDigest : String
  target : Place
  operationId : String
  grantDigest : String
  deriving DecidableEq, Repr

structure LifecycleState where
  hostId : InstallHostId
  transactionId : String
  operation : Operation
  phase : Phase
  requestedDigest : String
  requestedVersion : String
  priorDigest : String
  priorVersion : String
  target : Place
  staged : Place
  retained : Place
  deriving DecidableEq, Repr

structure StoredFile where
  path : String
  mode : Nat
  bytes : String
  deriving DecidableEq, Repr

structure ContributionFile extends StoredFile where
  contentDigest : String

structure Contribution where
  hostId : InstallHostId
  packageDigest : String
  sourceArtifactDigest : String
  files : List ContributionFile

/-- What an operation reads of its request; the transaction id and the grant are the answers
of `randomUUID` and of the daemon. -/
structure Call where
  operation : Operation
  releaseVersion : String
  releaseManifestDigest : String
  scope : InstallScope
  accountId : String
  workspaceId : String
  entry : Contribution
  transactionId : String
  grantDigest : String

structure Files where
  marker : Option OwnerMarker
  lifecycle : Option LifecycleState
  versions : String → Option String
  journal : List JournalEntry

inductive CrashPoint where
  | afterStage | afterRetain | afterActivate | afterHealth
  deriving DecidableEq, Repr

inductive Refusal where
  | lifecycleRequiresInstalledGeneration
  | managedTargetBindingMismatch
  | noIncompleteInstall
  | retryReleaseMismatch
  | upgradeVersionNotNewer
  | downgradeVersionNotOlder
  | activatedHealthCheckFailed
  | invalidJournalPayload
  | injectedCrash
  deriving DecidableEq, Repr

/-- The steps by the statements that take them. A written file is settled by the
synchronization that follows its rename. -/
inductive Step where
  | readMarker | readLifecycle | readVersion
  | persist (phase : Phase) | settle (phase : Phase)
  | append (operation : JournalOperation)
  | hook (point : CrashPoint)
  | clearStaged | makeStaged | fillStaged | verifyStaged
  | findRetained | clearRetained | makeGenerations | retain
  | activate | verifyTarget | provision | writeMarker | writeVersion
  | findTarget | clearTarget | findPrior | restore | restoreMarker | dropStaged | dropState
  deriving DecidableEq, Repr

abbrev Host := Disk Place StoredFile Files

abbrev Lifecycle (Result : Type) := Program Place StoredFile Files Step Refusal Result

class ContentDigests where
  installerSha256 : String → String

section Sections

def readMarker : Lifecycle (Option OwnerMarker) := Script.ask .readMarker (·.files.marker)

def readLifecycle : Lifecycle (Option LifecycleState) :=
  Script.ask .readLifecycle (·.files.lifecycle)

/-- The version written for a release; whatever goes wrong reads as `0.0.0`. -/
def readVersion (digest : String) : Lifecycle String :=
  let found : Lifecycle (Option String) := Script.ask .readVersion (·.files.versions digest)
  found.handle (fun _ => pure none) >>= fun text => pure (text.getD "0.0.0")

def pathExists (label : Step) (place : Place) : Lifecycle Bool :=
  Script.ask label fun host => (host.folders place).isSome

/-- `if (await pathExists(path)) await rm(path, ...)` -/
def removeExisting (finding clearing : Step) (place : Place) : Lifecycle Unit := do
  if ← pathExists finding place then remove clearing place else pure ()

/-- `if (await pathExists(from)) await rename(from, to)` -/
def renameExisting (finding moving : Step) (source destination : Place) : Lifecycle Unit := do
  if ← pathExists finding source then rename moving source destination else pure ()

def append (operation : JournalOperation) (transactionId releaseVersion detailDigest : String) :
    Lifecycle Unit := do
  let entry : JournalEntry := ⟨1, operation, transactionId, releaseVersion, detailDigest⟩
  Script.refuseUnless (validPayload entry) .invalidJournalPayload
  Script.step (.append operation) (·.write fun files =>
    { files with journal := files.journal ++ [entry] })
  Script.step (.append operation) id

def hook (point : CrashPoint) : Lifecycle Unit :=
  .act (.hook point) id (fun _ => .done ()) (.fails (.refused .injectedCrash))

def writeLifecycle (state : LifecycleState) : Lifecycle Unit :=
  writeAtomic (.persist state.phase) (.settle state.phase) fun files =>
    { files with lifecycle := some state }

def persist (lifecycleCore : LifecycleState) (phase : Phase) : Lifecycle Unit :=
  writeLifecycle { lifecycleCore with phase := phase }

variable [ContentDigests]

open ContentDigests

/-- Each file of a contribution is at its path with the bytes it is listed with. -/
def verified (entry : Contribution) (stored : List StoredFile) : Prop :=
  ∀ file ∈ entry.files, ∃ found, stored.find? (·.path = file.path) = some found ∧
    installerSha256 found.bytes = file.contentDigest

instance (entry : Contribution) (stored : List StoredFile) : Decidable (verified entry stored) :=
  decidable_of_iff (∀ file ∈ entry.files, (stored.find? (·.path = file.path)).any
      (fun found => installerSha256 found.bytes = file.contentDigest) = true) (by
    simp only [verified, Option.any_eq_true, decide_eq_true_eq])

def verifyContributionBytes (label : Step) (entry : Contribution) (place : Place) :
    Lifecycle Unit := do
  match ← Script.ask label (·.folders place) with
  | none => throw (.broken label)
  | some stored => Script.refuseUnless (verified entry stored) .activatedHealthCheckFailed

def stageGeneration (entry : Contribution) (staged : Place) : Lifecycle Unit := do
  remove .clearStaged staged
  Script.step .makeStaged fun host => host.put staged (some ((host.folders staged).getD []))
  -- Each file is renamed to its place inside the generation.
  fill .fillStaged staged (entry.files.map (·.toStoredFile))
  verifyContributionBytes .verifyStaged entry staged

def stageSection (call : Call) (state : LifecycleState) : Lifecycle Unit := do
  stageGeneration call.entry state.staged
  persist state .staged
  append .staged state.transactionId state.requestedVersion state.requestedDigest
  hook .afterStage

def retainSection (state : LifecycleState) : Lifecycle Unit := do
  removeExisting .findRetained .clearRetained state.retained
  Script.step .makeGenerations id
  rename .retain state.target state.retained
  persist state .priorRetained
  append .backupCreated state.transactionId state.priorVersion state.priorDigest
  hook .afterRetain

def activateSection (state : LifecycleState) : Lifecycle Unit := do
  rename .activate state.staged state.target
  persist state .activated
  hook .afterActivate

def markerOf (call : Call) (state : LifecycleState) : OwnerMarker where
  scope := call.scope
  workspaceId := call.workspaceId
  accountId := call.accountId
  hostId := call.entry.hostId
  releaseManifestDigest := call.releaseManifestDigest
  packageDigest := call.entry.packageDigest
  sourceArtifactDigest := call.entry.sourceArtifactDigest
  target := state.target
  operationId := state.transactionId
  grantDigest := call.grantDigest

def healthSection (call : Call) (state : LifecycleState) : Lifecycle Unit := do
  verifyContributionBytes .verifyTarget call.entry state.target
  Script.step .provision id
  writeAtomic .writeMarker .writeMarker fun files =>
    { files with marker := some (markerOf call state) }
  writeAtomic .writeVersion .writeVersion fun files =>
    { files with versions :=
        Function.update files.versions call.releaseManifestDigest (some call.releaseVersion) }
  persist state .healthy
  append .activated state.transactionId state.requestedVersion state.requestedDigest
  hook .afterHealth

/-- The `try` block: a section runs where the phase has come to it. -/
def advance (call : Call) (state : LifecycleState) : Lifecycle Unit := do
  match state.phase with
  | .staging =>
      stageSection call state
      retainSection state
      activateSection state
      healthSection call state
  | .staged =>
      retainSection state
      activateSection state
      healthSection call state
  | .priorRetained =>
      activateSection state
      healthSection call state
  | .activated => healthSection call state
  | .healthy => pure ()
  | .compensating => pure ()

def compensate (existing : OwnerMarker) (state : LifecycleState)
    (failure : Trouble Step Refusal) : Lifecycle Unit := do
  if failure = .refused .injectedCrash then throw failure else
    persist state .compensating
    append .compensating state.transactionId state.requestedVersion state.requestedDigest
    removeExisting .findTarget .clearTarget state.target
    renameExisting .findPrior .restore state.retained state.target
    writeAtomic .restoreMarker .restoreMarker fun files => { files with marker := some existing }
    remove .dropStaged state.staged
    Script.step .dropState (·.write fun files => { files with lifecycle := none })
    append .compensated state.transactionId state.priorVersion state.priorDigest
    throw failure

end Sections

section Operations

variable [ContentDigests] [Collation]

def begunState (call : Call) (existing : OwnerMarker) (priorVersion : String) :
    LifecycleState where
  hostId := call.entry.hostId
  transactionId := call.transactionId
  operation := call.operation
  phase := .staging
  requestedDigest := call.releaseManifestDigest
  requestedVersion := call.releaseVersion
  priorDigest := existing.releaseManifestDigest
  priorVersion := priorVersion
  target := .target
  staged := .staged call.releaseManifestDigest call.transactionId
  retained := .retained existing.releaseManifestDigest

def atMost (compared : Option Ordering) : Bool := compared = some .lt || compared = some .eq

def atLeast (compared : Option Ordering) : Bool := compared = some .gt || compared = some .eq

def installedVersion (call : Call) (existing : OwnerMarker) : Lifecycle String :=
  if existing.releaseManifestDigest = call.releaseManifestDigest then pure call.releaseVersion
  else readVersion existing.releaseManifestDigest

def beginLifecycle (call : Call) (existing : OwnerMarker) : Lifecycle LifecycleState := do
  let comparison := compareVersions call.releaseVersion (← installedVersion call existing)
  Script.refuseUnless (call.operation = .upgrade → atMost comparison = false)
    .upgradeVersionNotNewer
  Script.refuseUnless (call.operation = .downgrade → atLeast comparison = false)
    .downgradeVersionNotOlder
  let priorVersion ← readVersion existing.releaseManifestDigest
  let state := begunState call existing priorVersion
  writeLifecycle state
  append .migrationBegun call.transactionId call.releaseVersion call.releaseManifestDigest
  return state

def resumed (call : Call) : Option LifecycleState → Lifecycle LifecycleState
  | none => throw (.refused .noIncompleteInstall)
  | some state => do
      Script.refuseUnless (state.phase ≠ .healthy) .noIncompleteInstall
      Script.refuseUnless (state.requestedDigest = call.releaseManifestDigest)
        .retryReleaseMismatch
      return state

def operateHostLifecycle (call : Call) : Lifecycle Unit := do
  match ← readMarker with
  | none => throw (.refused .lifecycleRequiresInstalledGeneration)
  | some existing =>
      Script.refuseUnless (existing.workspaceId = call.workspaceId ∧
          existing.accountId = call.accountId ∧ existing.hostId = call.entry.hostId)
        .managedTargetBindingMismatch
      let recorded ← readLifecycle
      let state ← if call.operation = .retryInstall then resumed call recorded
        else beginLifecycle call existing
      (advance call state).handle (compensate existing state)

end Operations

end Horseness.HostLifecycle
