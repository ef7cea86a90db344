import Horseness.Folders

/-!
Restoring an authority unit from a backup: the journal that names a restore, the siblings of
the live database and artifact root, `restoreBackup` and `recoverInterruptedRestore` as scripts
of the steps they take. Where the source lets an injector throw, a step fails here.
-/

namespace Horseness.AuthorityRestore

open CrashScripts Folders

inductive RestorePhase where
  | staged | oldMoved | databaseActivated | artifactsActivated | committed
  deriving DecidableEq, Repr

/-- The live pair, its siblings by the token of a restore, and the pair of the backup. -/
inductive Place where
  | database | artifacts
  | oldDatabase (token : String) | oldArtifacts (token : String)
  | stageDatabase (token : String) | stageArtifacts (token : String)
  | backupDatabase | backupArtifacts
  deriving DecidableEq, Repr

def lowerHex (character : Char) : Bool := character.isDigit || 'a' ≤ character && character ≤ 'f'

def isGenerationToken (token : String) : Bool :=
  match token.toList.splitOn '-' with
  | [first, second, third, fourth, fifth] =>
      [first, second, third, fourth, fifth].all (·.all lowerHex) &&
        [first, second, third, fourth, fifth].map List.length == [8, 4, 4, 4, 12] &&
        third.head? == some '4' && (fourth.head?.any fun variant => "89ab".toList.contains variant)
  | _ => false

def isDigest (text : String) : Bool := text.toList.length == 64 && text.toList.all lowerHex

/-- What `verifyBackupIdentity` answers: its digests are written in hexadecimal. -/
structure VerifiedBackupIdentity where
  createdAt : String
  databaseDigest : String
  manifestDigest : String
  written : isDigest databaseDigest = true ∧ isDigest manifestDigest = true
  deriving DecidableEq

structure RestoreJournal where
  phase : RestorePhase
  generationToken : String
  hadDatabase : Bool
  hadArtifacts : Bool
  retainedBackupRoot : Option String
  retainedBackupIdentity : Option VerifiedBackupIdentity
  deriving DecidableEq

structure RestoreCommitEvidence where
  generationToken : String
  retainedBackupRoot : String
  retainedBackupIdentity : VerifiedBackupIdentity
  deriving DecidableEq

/-- The files beside the pair. `durable` records the phases of the journals renamed into place;
no code reads it. -/
structure Files where
  journal : Option RestoreJournal
  next : Option RestoreJournal
  evidence : Option RestoreCommitEvidence
  durable : List RestorePhase

inductive Refusal where
  | invalidRestoreJournal
  | replacementNeedsConfirmation
  | replacementNeedsRetainedBackup
  | incompleteLiveUnit
  | incompleteAuthorityUnit
  | authorityRefused
  deriving DecidableEq, Repr

inductive Step where
  | look
  | verifyBackup | deriveRestorePaths | retainBackup
  | readJournal | writeNext | syncNext | placeJournal | syncJournal
  | copyDatabase | openArtifacts | copyArtifacts | syncStage | verifyPair
  | move (source : Place) | syncMove | removeEntry (place : Place) | syncRemoval (place : Place)
  | dropNext | dropJournal | writeEvidence | verifyRetained
  deriving DecidableEq, Repr

abbrev Unit_ (Piece : Type) := Disk Place Piece Files

abbrev Restore (Piece Result : Type) := Program Place Piece Files Step Refusal Result

/-- `verifyAuthority` on a database and an artifact root. -/
class AuthorityCheck (Piece : Type) where
  verifyAuthority : List Piece → List Piece → Bool

/-- The request, the answers of `randomUUID` and of `verifyBackupIdentity` for the two backups. -/
structure Request where
  confirmReplacement : Bool
  retainedBackupRoot : Option String
  token : String
  tokenMatches : isGenerationToken token = true
  retainedIdentity : VerifiedBackupIdentity
  backupIdentity : VerifiedBackupIdentity

variable {Piece : Type}

def pathExists (place : Place) : Restore Piece Bool :=
  .act .look id (fun found => .done (found.folders place).isSome) (.done false)

def recordExists (present : Files → Bool) : Restore Piece Bool :=
  .act .look id (fun found => .done (present found.files)) (.done false)

def journalExists : Restore Piece Bool := recordExists (·.journal.isSome)

/-- `durableRename` of a file, which replaces what it is renamed to. -/
def renameFile (source destination : Place) : Restore Piece Unit := do
  Script.attempt (.move source) fun disk => (disk.folders source).map fun content =>
    (disk.put destination (some content)).put source none
  Script.step .syncMove id

def renameDirectory (source destination : Place) : Restore Piece Unit := do
  rename (.move source) source destination
  Script.step .syncMove id

def removeFile (place : Place) : Restore Piece Unit := do
  if ← pathExists place then
    Script.step (.removeEntry place) (·.put place none)
    Script.step (.syncRemoval place) id
  else pure ()

def removeDirectory (place : Place) : Restore Piece Unit := do
  if ← pathExists place then
    remove (.removeEntry place) place
    Script.step (.syncRemoval place) id
  else pure ()

def removeRecord (label : Step) (present : Files → Bool) (drop : Files → Files) :
    Restore Piece Unit := do
  if ← recordExists present then
    Script.step label (·.write drop)
    Script.step label id
  else pure ()

def removeNext : Restore Piece Unit :=
  removeRecord .dropNext (·.next.isSome) fun files => { files with next := none }

def removeJournal : Restore Piece Unit :=
  removeRecord .dropJournal (·.journal.isSome) fun files => { files with journal := none }

def closeJournal : Restore Piece Unit := do
  removeNext
  removeJournal

def writeJournal (journal : RestoreJournal) : Restore Piece Unit := do
  Script.step .writeNext (·.write fun files => { files with next := some journal })
  Script.step .syncNext id
  Script.step .placeJournal (·.write fun files =>
    { files with
      journal := some journal, next := none, durable := files.durable ++ [journal.phase] })
  Script.step .syncJournal id

def validJournal (journal : RestoreJournal) : Prop :=
  isGenerationToken journal.generationToken = true ∧
    (journal.hadDatabase = true ∨ journal.hadArtifacts = true →
      journal.retainedBackupRoot.isSome = true ∧ journal.retainedBackupIdentity.isSome = true)

instance : DecidablePred validJournal := fun _ => inferInstanceAs (Decidable (_ ∧ _))

def parseJournal : Restore Piece RestoreJournal := do
  match ← Script.ask .readJournal (·.files.journal) with
  | none => throw (.broken .readJournal)
  | some journal =>
      Script.refuseUnless (validJournal journal) .invalidRestoreJournal
      Script.step .deriveRestorePaths id
      return journal

def verifyPair [AuthorityCheck Piece] (unit root : Place) : Restore Piece Unit := do
  match ← Script.ask .verifyPair fun disk => (disk.folders unit, disk.folders root) with
  | (some stored, some tree) =>
      Script.refuseUnless (AuthorityCheck.verifyAuthority stored tree = true) .authorityRefused
  | _ => throw (.refused .incompleteAuthorityUnit)

/-- One half of the pair goes back to its old sibling, or away when it did not exist. -/
def rollbackHalf (removal : Place → Restore Piece Unit)
    (moving : Place → Place → Restore Piece Unit) (live old : Place) (had : Bool) :
    Restore Piece Unit := do
  if ← pathExists old then
    removal live
    moving old live
  else if had then pure ()
  else removal live

def rollbackDatabase (journal : RestoreJournal) : Restore Piece Unit :=
  rollbackHalf removeFile renameFile .database (.oldDatabase journal.generationToken)
    journal.hadDatabase

def rollbackArtifacts (journal : RestoreJournal) : Restore Piece Unit :=
  rollbackHalf removeDirectory renameDirectory .artifacts (.oldArtifacts journal.generationToken)
    journal.hadArtifacts

def rollback (journal : RestoreJournal) : Restore Piece Unit := do
  rollbackDatabase journal
  rollbackArtifacts journal
  removeFile (.stageDatabase journal.generationToken)
  removeDirectory (.stageArtifacts journal.generationToken)

def activateHalf (moving : Place → Place → Restore Piece Unit) (live stage : Place) :
    Restore Piece Unit := do
  if !(← pathExists live) && (← pathExists stage) then moving stage live else pure ()

variable [AuthorityCheck Piece]

def finishForward (journal : RestoreJournal) : Restore Piece Unit := do
  activateHalf renameFile .database (.stageDatabase journal.generationToken)
  activateHalf renameDirectory .artifacts (.stageArtifacts journal.generationToken)
  verifyPair .database .artifacts
  removeFile (.oldDatabase journal.generationToken)
  removeDirectory (.oldArtifacts journal.generationToken)
  removeFile (.stageDatabase journal.generationToken)
  removeDirectory (.stageArtifacts journal.generationToken)

def finish (journal : RestoreJournal) : Restore Piece Unit :=
  if journal.phase = .committed then finishForward journal else rollback journal

def recoverInterruptedRestore : Restore Piece Unit := do
  if ← journalExists then
    let journal ← parseJournal
    finish journal
    closeJournal
  else
    Script.step .deriveRestorePaths id
    removeNext

/-- The containment of the retained backup is checked against an interrupted restore as well. -/
def preflight (request : Request) : Restore Piece Unit := do
  Script.step .deriveRestorePaths id
  if request.retainedBackupRoot.isSome && (← journalExists) then
    let _ ← parseJournal
    Script.step .retainBackup id
  else pure ()

/-- The live pair is kept as a backup of its own before it may be replaced. -/
def retain (request : Request) (hadDatabase hadArtifacts : Bool) :
    Restore Piece (Option VerifiedBackupIdentity) := do
  if hadDatabase || hadArtifacts then
    Script.refuseUnless (request.confirmReplacement = true) .replacementNeedsConfirmation
    Script.refuseUnless (request.retainedBackupRoot.isSome = true) .replacementNeedsRetainedBackup
    Script.refuseUnless (hadDatabase = true ∧ hadArtifacts = true) .incompleteLiveUnit
    Script.step .retainBackup id
    return some request.retainedIdentity
  else return none

def stagePair (token : String) : Restore Piece Unit := do
  copy .copyDatabase .copyDatabase .backupDatabase (.stageDatabase token)
  copy .openArtifacts .copyArtifacts .backupArtifacts (.stageArtifacts token)
  Script.step .syncStage id
  verifyPair (.stageDatabase token) (.stageArtifacts token)

/-- Without a journal nothing names what is staged, so it is removed. -/
def discardStage (token : String) : Restore Piece Unit := do
  if ← journalExists then pure ()
  else
    Script.step (.removeEntry (.stageDatabase token)) (·.put (.stageDatabase token) none)
    remove (.removeEntry (.stageArtifacts token)) (.stageArtifacts token)
    Script.step .dropNext (·.write fun files => { files with next := none })

def openJournal (journal : RestoreJournal) : Restore Piece Unit :=
  (writeJournal journal).handle fun failure => do
    discardStage journal.generationToken
    throw failure

def moveDatabaseAside (journal : RestoreJournal) : Restore Piece Unit :=
  if journal.hadDatabase then renameFile .database (.oldDatabase journal.generationToken)
  else pure ()

def moveArtifactsAside (journal : RestoreJournal) : Restore Piece Unit :=
  if journal.hadArtifacts then renameDirectory .artifacts (.oldArtifacts journal.generationToken)
  else pure ()

def replace (journal : RestoreJournal) : Restore Piece Unit := do
  moveDatabaseAside journal
  moveArtifactsAside journal
  writeJournal { journal with phase := .oldMoved }
  renameFile (.stageDatabase journal.generationToken) .database
  writeJournal { journal with phase := .databaseActivated }
  renameDirectory (.stageArtifacts journal.generationToken) .artifacts
  writeJournal { journal with phase := .artifactsActivated }
  verifyPair .database .artifacts
  writeJournal { journal with phase := .committed }

def journalOf (request : Request) (hadDatabase hadArtifacts : Bool)
    (retained : Option VerifiedBackupIdentity) : RestoreJournal where
  phase := .staged
  generationToken := request.token
  hadDatabase := hadDatabase
  hadArtifacts := hadArtifacts
  retainedBackupRoot := request.retainedBackupRoot
  retainedBackupIdentity := retained

def evidenceOf (request : Request) (retained : Option VerifiedBackupIdentity) :
    RestoreCommitEvidence where
  generationToken := request.token
  retainedBackupRoot := request.retainedBackupRoot.getD ""
  retainedBackupIdentity := retained.getD request.backupIdentity

def conclude (request : Request) (journal : RestoreJournal) : Restore Piece RestoreCommitEvidence :=
  do
    let evidence := evidenceOf request journal.retainedBackupIdentity
    Script.step .writeEvidence (·.write fun files => { files with evidence := some evidence })
    Script.step .writeEvidence id
    finishForward { journal with phase := .committed }
    Script.step .verifyRetained id
    closeJournal
    return evidence

def restoreBackup (request : Request) : Restore Piece RestoreCommitEvidence := do
  Script.step .verifyBackup id
  preflight request
  recoverInterruptedRestore
  let hadDatabase ← pathExists .database
  let hadArtifacts ← pathExists .artifacts
  let retained ← retain request hadDatabase hadArtifacts
  let journal := journalOf request hadDatabase hadArtifacts retained
  stagePair request.token
  openJournal journal
  replace journal
  conclude request journal

end Horseness.AuthorityRestore
