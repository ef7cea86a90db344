import Mathlib.Data.List.Perm.Basic
import Horseness.AuthorityLog

/-!
The object files beside the tables of an authority, and the collection of the artifacts that
nothing refers to. A collection takes two transactions with the removal of the file between
them; it may stop after each, and be taken up again.
-/

namespace Horseness.Retention

open FallibleRuns Records ScriptText JsonValues ScriptEngine AuthorityLog

section Files

/-- All that is read of the bytes of a file: their digest and their number. -/
structure StoredBytes where
  digest : JsString
  byteLength : Nat
  deriving DecidableEq

abbrev ObjectFiles := Record JsString StoredBytes

/-- `/^[a-f0-9]{64}$/`. -/
def validDigest (digest : JsString) : Prop :=
  digest.length = 64 ∧ ∀ unit ∈ digest, (48 ≤ unit ∧ unit ≤ 57) ∨ (97 ≤ unit ∧ unit ≤ 102)

instance (digest : JsString) : Decidable (validDigest digest) :=
  @instDecidableAnd _ _ _ (List.decidableBAll _ digest)

def pathFor (digest : JsString) : JsString :=
  js "objects/" ++ digest.take 2 ++ js "/" ++ digest.drop 2

def invalidDigest : StoreError := .artifact (js "invalid artifact digest")

def readVerifiedBytes (files : ObjectFiles) (digest : JsString) : Except StoreError StoredBytes := do
  ensure (validDigest digest) invalidDigest
  let data ← required (files.get digest) (.artifact (js "referenced artifact missing: " ++ digest))
  ensure (data.digest = digest) (.artifact (js "referenced artifact corrupt: " ++ digest))
  return data

def writeObject (files : ObjectFiles) (record : ArtifactRecord) : ObjectFiles :=
  if (files.get record.digest).isSome then files
  else files.set record.digest ⟨record.digest, record.byteLength⟩

/-- `ArtifactStore.publish` of the bytes that the record describes. What it throws after the file
is written leaves the file there. -/
def publish (files : ObjectFiles) (record : ArtifactRecord) : Except StoreError Unit × ObjectFiles :=
  if validDigest record.digest then
    let written := writeObject files record
    let checked := do
      let actual ← readVerifiedBytes written record.digest
      ensure (actual.byteLength = record.byteLength)
        (.artifact (js "published artifact length mismatch"))
    (checked, written)
  else (.error invalidDigest, files)

def verifyRecord (files : ObjectFiles) (record : ArtifactRecord) : Except StoreError Unit := do
  ensure (validDigest record.digest) invalidDigest
  ensure (record.relativePath = pathFor record.digest)
    (.artifact (js "artifact path mismatch: " ++ record.digest))
  let data ← readVerifiedBytes files record.digest
  ensure (data.byteLength = record.byteLength)
    (.artifact (js "artifact metadata mismatch: " ++ record.digest))

end Files

section Vaults

inductive IntentState where
  | pending
  | deleting
  | deleted
  deriving DecidableEq

structure RetentionIntent where
  intentId : JsString
  workspaceId : JsString
  digest : JsString
  state : IntentState
  deriving DecidableEq

structure ArtifactTombstone where
  digest : JsString
  workspaceId : JsString
  intentId : JsString
  deriving DecidableEq

/-- The tables of the authority with those of migration 2, and the object files. -/
structure Vault where
  authority : Authority
  files : ObjectFiles
  intents : List RetentionIntent
  tombstones : List ArtifactTombstone

def Vault.fresh : Vault := ⟨.fresh, ∅, [], []⟩

def Vault.intent (vault : Vault) (digest : JsString) : Option RetentionIntent :=
  vault.intents.find? fun intent => intent.digest = digest

/-- What the triggers of migration 2 ask, whatever the state of the intent. -/
def Vault.retained (vault : Vault) (digest : JsString) : Bool := (vault.intent digest).isSome

def Vault.referenced (vault : Vault) (digest : JsString) : Prop :=
  (∃ row ∈ vault.authority.references, row.digest = digest) ∨
    ∃ row ∈ vault.authority.pins, row.digest = digest

instance (vault : Vault) (digest : JsString) : Decidable (vault.referenced digest) :=
  inferInstanceAs (Decidable (_ ∨ _))

def Vault.withArtifacts (vault : Vault) (artifacts : Record JsString ArtifactRecord) : Vault :=
  { vault with authority := { vault.authority with artifacts := artifacts } }

/-- `UPDATE retention_intents SET state=… WHERE intent_id=…`. -/
def Vault.moveIntent (vault : Vault) (intentId : JsString) (state : IntentState) : Vault :=
  { vault with
    intents := vault.intents.map fun intent =>
      if intent.intentId = intentId then { intent with state := state } else intent }

end Vaults

section Artifacts

variable (vault : Vault)

def readReferenced (digest : JsString) : Except StoreError Unit := do
  let row ← required (vault.authority.artifacts.get digest)
    (.artifact (js "unknown artifact reference: " ++ digest))
  let data ← readVerifiedBytes vault.files digest
  ensure (data.byteLength = row.byteLength) (.artifact (js "artifact metadata mismatch: " ++ digest))

/-- What `publishAndAppendAtomic` meets in these files and intents. The files are those after its
artifacts have been published, and a reference is read after its artifact has been registered. -/
def Vault.around (base : Surroundings) : Surroundings :=
  { base with
    publish := fun _ => .ok ()
    verifyRecord := verifyRecord vault.files
    readReferenced := fun digest => do
      let _ ← readVerifiedBytes vault.files digest
    retained := vault.retained }

def publishAndRegister (base : Surroundings) (record : ArtifactRecord) : Except StoreError Unit × Vault :=
  let published := publish vault.files record
  let placed := { vault with files := published.2 }
  match published.1 with
  | .error failure => (.error failure, placed)
  | .ok () =>
      match register (placed.around base) vault.authority record with
      | .error failure => (.error failure, placed)
      | .ok after => (.ok (), { placed with authority := after })

/-- `ArtifactStore.addReference`. A row of another owner kind is ignored. -/
def addReference (workspaceId ownerKind ownerId digest : JsString) : Except StoreError Vault := do
  readReferenced vault digest
  ensure (vault.retained digest = false) .constraint
  if ownerKind = js "event" then do
    ensure (∃ row ∈ vault.authority.events, row.key.workspaceId = workspaceId ∧
      row.event.envelope.eventId = ownerId) .constraint
    let row : ArtifactReferenceRow := ⟨workspaceId, ownerId, digest⟩
    let references := vault.authority.references
    return { vault with
      authority := { vault.authority with
        references := if row ∈ references then references else references ++ [row] } }
  else
    return vault

def pin (pinId digest : JsString) : Except StoreError Vault := do
  readReferenced vault digest
  ensure (vault.retained digest = false) .constraint
  let row : ArtifactPinRow := ⟨pinId, digest⟩
  let pins := vault.authority.pins
  return { vault with
    authority := { vault.authority with pins := if row ∈ pins then pins else pins ++ [row] } }

def removeReference (workspaceId ownerId digest : JsString) : Vault :=
  { vault with
    authority := { vault.authority with
      references := vault.authority.references.filter fun row => row ≠ ⟨workspaceId, ownerId, digest⟩ } }

def unpin (pinId digest : JsString) : Vault :=
  { vault with
    authority := { vault.authority with
      pins := vault.authority.pins.filter fun row => row ≠ ⟨pinId, digest⟩ } }

def publishAll (files : ObjectFiles) : List ArtifactRecord → Except StoreError Unit × ObjectFiles
  | [] => (.ok (), files)
  | record :: rest =>
      match publish files record with
      | (.ok (), written) => publishAll written rest
      | (.error failure, written) => (.error failure, written)

def publishAppend [Engine] (base : Surroundings) (request : PublishAndAppendRequest) :
    Except StoreError JsValue × Vault :=
  let published := publishAll vault.files (request.artifacts.map ArtifactPublication.record)
  let placed := { vault with files := published.2 }
  match published.1 with
  | .error failure => (.error failure, placed)
  | .ok () =>
      match publishAndAppendAtomic (placed.around base) request vault.authority with
      | .error failure => (.error failure, placed)
      | .ok (answer, after) => (.ok answer, { placed with authority := after })

end Artifacts

section Collection

/-- What the retention functions throw. -/
inductive RetentionError where
  | thrown (message : JsString)
  | constraint
  deriving DecidableEq

def planRetention (vault : Vault) (workspaceId digest intentId : JsString) :
    Except RetentionError (RetentionIntent × Vault) := do
  ensure ((vault.authority.artifacts.get digest).isSome = true)
    (.thrown (js "retention rejects unknown/dangling artifact"))
  ensure (¬ vault.referenced digest) (.thrown (js "retention artifact is still referenced"))
  match vault.intent digest with
  | some row => do
      -- a digest that has an intent keeps it
      ensure (row.workspaceId = workspaceId)
        (.thrown (js "retention digest is owned by another workspace intent"))
      return (row, vault)
  | none => do
      ensure (∀ intent ∈ vault.intents, intent.intentId ≠ intentId) .constraint
      let row : RetentionIntent := ⟨intentId, workspaceId, digest, .pending⟩
      return (row, { vault with intents := vault.intents ++ [row] })

/-- Where a resumption is with one of its intents. -/
inductive Stage where
  | checking
  | removing
  | finishing
  deriving DecidableEq

structure Task where
  intentId : JsString
  workspaceId : JsString
  digest : JsString
  stage : Stage
  deriving DecidableEq

def taskOf (intent : RetentionIntent) : Option Task :=
  match intent.state with
  | .pending => some ⟨intent.intentId, intent.workspaceId, intent.digest, .checking⟩
  | .deleting => some ⟨intent.intentId, intent.workspaceId, intent.digest, .removing⟩
  | .deleted => none

/-- `SELECT … WHERE state IN ('pending','deleting')`, before it is ordered. -/
def selected (vault : Vault) : List Task := vault.intents.filterMap taskOf

/-- The first transaction of an intent: whether it is still pending, and then deleting. -/
def commitDeletion (vault : Vault) (task : Task) : Except RetentionError (Bool × Vault) :=
  match (vault.intents.find? fun intent => intent.intentId = task.intentId).map RetentionIntent.state with
  | some .pending => do
      ensure (¬ vault.referenced task.digest)
        (.thrown (js "retention reference reappeared: " ++ task.digest))
      ensure ((vault.authority.artifacts.get task.digest).isSome = true)
        (.thrown (js "retention catalog entry disappeared: " ++ task.digest))
      return (true, (vault.withArtifacts (vault.authority.artifacts.erase task.digest)).moveIntent
        task.intentId .deleting)
  | _ => return (false, vault)

def removeObject (vault : Vault) (task : Task) : Except RetentionError Vault := do
  ensure (validDigest task.digest) (.thrown (js "invalid retention digest"))
  return { vault with files := vault.files.erase task.digest }

def finishDeletion (vault : Vault) (task : Task) : Except RetentionError Vault :=
  match (vault.intents.find? fun intent => intent.intentId = task.intentId).map RetentionIntent.state with
  | some .deleting => do
      ensure (∀ tombstone ∈ vault.tombstones, tombstone.digest ≠ task.digest ∧
        tombstone.intentId ≠ task.intentId) .constraint
      let moved := vault.moveIntent task.intentId .deleted
      return { moved with
        tombstones := vault.tombstones ++ [⟨task.digest, task.workspaceId, task.intentId⟩] }
  | _ => return vault

end Collection

section Systems

/-- The vault, and the resumptions that are under way in some process. -/
structure System where
  vault : Vault
  resumptions : Record Nat (List Task)

def System.fresh : System := ⟨.fresh, ∅⟩

def resumeRetention (system : System) (process : Nat) : System :=
  match system.resumptions.get process with
  | none => system
  | some [] => { system with resumptions := system.resumptions.erase process }
  | some (task :: rest) =>
      match task.stage with
      | .checking =>
          match commitDeletion system.vault task with
          | .error _ => { system with resumptions := system.resumptions.erase process }
          | .ok (true, after) =>
              ⟨after, system.resumptions.set process ({ task with stage := .removing } :: rest)⟩
          | .ok (false, after) => ⟨after, system.resumptions.set process rest⟩
      | .removing =>
          match removeObject system.vault task with
          | .error _ => { system with resumptions := system.resumptions.erase process }
          | .ok after =>
              ⟨after, system.resumptions.set process ({ task with stage := .finishing } :: rest)⟩
      | .finishing =>
          match finishDeletion system.vault task with
          | .error _ => { system with resumptions := system.resumptions.erase process }
          | .ok after => ⟨after, system.resumptions.set process rest⟩

inductive Action where
  | publish (record : ArtifactRecord)
  | register (base : Surroundings) (record : ArtifactRecord)
  | reference (workspaceId ownerKind ownerId digest : JsString)
  | pin (pinId digest : JsString)
  | unreference (workspaceId ownerId digest : JsString)
  | unpin (pinId digest : JsString)
  | publishAppend (base : Surroundings) (request : PublishAndAppendRequest)
  | append (base : Surroundings) (request : AtomicAppendRequest)
  | command (base : Surroundings) (input : ExecutionCommand) (result : Option JsValue)
  | plan (workspaceId digest intentId : JsString)
  /-- A process takes up the selected intents, in some order. -/
  | resume (process : Nat) (order : List Task)
  | advance (process : Nat)
  | crash (process : Nat)

def System.settle {Failure : Type} (system : System) : Except Failure Vault → System
  | .ok vault => { system with vault := vault }
  | .error _ => system

def System.serve [Engine] (system : System) (base : Surroundings) (request : StoreRequest) : System :=
  { system with
    vault := { system.vault with authority := (AuthorityLog.serve base request system.vault.authority).2 } }

def System.act [Engine] (system : System) : Action → System
  | .publish record =>
      { system with vault := { system.vault with files := (Retention.publish system.vault.files record).2 } }
  | .register base record => { system with vault := (publishAndRegister system.vault base record).2 }
  | .reference workspaceId ownerKind ownerId digest =>
      system.settle (addReference system.vault workspaceId ownerKind ownerId digest)
  | .pin pinId digest => system.settle (Retention.pin system.vault pinId digest)
  | .unreference workspaceId ownerId digest =>
      { system with vault := removeReference system.vault workspaceId ownerId digest }
  | .unpin pinId digest => { system with vault := Retention.unpin system.vault pinId digest }
  | .publishAppend base request =>
      { system with vault := (Retention.publishAppend system.vault base request).2 }
  | .append base request => system.serve base (.append request)
  | .command base input result => system.serve base (.command input result)
  | .plan workspaceId digest intentId =>
      system.settle ((planRetention system.vault workspaceId digest intentId).map Prod.snd)
  | .resume process order =>
      if order.Perm (selected system.vault) then
        { system with resumptions := system.resumptions.set process order }
      else system
  | .advance process => resumeRetention system process
  | .crash process => { system with resumptions := system.resumptions.erase process }

def vaultStep [Engine] (system : System) (action : Action) : Except StoreError System :=
  .ok (system.act action)

end Systems

end Horseness.Retention
