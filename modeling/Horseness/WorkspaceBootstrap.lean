import Horseness.AuthorityLog
import Horseness.CrashScripts
import Horseness.GrantStore
import Horseness.PolicyDocuments

/-!
The initialization of a workspace: the daemon's constructor, the bootstrap ceremony on its
capability file, and the two callers that write the reference of the first grant to a file. A
file that is created and not yet written is empty. The directories below the workspace's and the
permissions of files are left out.
-/

namespace Horseness.WorkspaceBootstrap

open FallibleRuns CrashScripts ScriptText JsonValues ScriptEngine Canonical Cursors EventChains
  AuthorityLog ServiceViews GrantStore PolicyDocuments

section Store

structure AuthorityStateRow where
  workspaceId : JsString
  stateKind : JsString
  revision : Nat
  stateDigest : JsString
  state : GrantAuthorityStateV1
  commandId : JsString

/-- The log's tables and that of the authority states, which are all grant states. -/
structure AuthorityStore where
  log : Authority
  authorityStates : List AuthorityStateRow

def AuthorityStore.fresh : AuthorityStore := ⟨Authority.fresh, []⟩

structure WorkspaceAuthorityState where
  workspaceId : JsString
  stateKind : JsString
  revision : Nat
  stateDigest : JsString
  state : GrantAuthorityStateV1

structure BootstrapWorkspaceAuthorityRequestV1 where
  commandId : JsString
  workspace : AppendRequest
  authorityState : WorkspaceAuthorityState

def WorkspaceAuthorityState.toJson (state : WorkspaceAuthorityState) : JsValue :=
  object [("schemaVersion", .str (js "1")), ("workspaceId", .str state.workspaceId),
    ("stateKind", .str state.stateKind), ("revision", natural state.revision),
    ("stateDigest", .str state.stateDigest), ("state", state.state.toJson)]

def BootstrapWorkspaceAuthorityRequestV1.toJson (request : BootstrapWorkspaceAuthorityRequestV1) :
    JsValue :=
  object [("commandId", .str request.commandId), ("workspace", request.workspace.toJson),
    ("authorityState", request.authorityState.toJson)]

variable [Engine]

def authorityStateDigest (state : GrantAuthorityStateV1) : Except DomainError JsString :=
  domainDigest (js "horseness.workspace-authority-state.v1") state.toJson

def bootstrapWorkspaceAuthorityAtomic (request : BootstrapWorkspaceAuthorityRequestV1)
    (store : AuthorityStore) : Except StoreError (JsValue × AuthorityStore) := do
  let state := request.authorityState
  ensure (request.workspace.expectedSequence = 0 ∧ request.workspace.expectedEnvelopeHash = none ∧
    request.workspace.events.length = 1 ∧ state.workspaceId = request.workspace.workspaceId ∧
    state.revision = 1 ∧ state.stateKind ≠ [])
    (.integrity (js "invalid workspace authority bootstrap"))
  let computed ← (authorityStateDigest state.state).mapError StoreError.domain
  ensure (computed = state.stateDigest)
    (.integrity (js "workspace authority state digest mismatch"))
  let digest ← (domainDigest (js "horseness.workspace-authority-bootstrap.v1")
    request.toJson).mapError StoreError.domain
  let key : CommandKey := ⟨state.workspaceId, .workspace, state.workspaceId, request.commandId⟩
  match store.log.command key with
  | some prior => do
      ensure (prior.requestDigest = digest) reusedCommand
      return (deduplicated prior.result, store)
  | none => do
      ensure (∀ row ∈ store.authorityStates, row.workspaceId ≠ state.workspaceId)
        (.conflict (js "workspace authority is already bootstrapped"))
      let (head, written) ← writeAppend store.log request.workspace
      let result := AppendResult.toJson ⟨request.commandId, some head, none, none⟩
      let log ← insertCommand written key digest result
      return (result, ⟨log, store.authorityStates ++ [⟨state.workspaceId, state.stateKind,
        state.revision, state.stateDigest, state.state, request.commandId⟩]⟩)

end Store

section Files

structure AuthorityManifestV1 where
  authorityId : JsString
  workspaceId : JsString
  databasePath : JsString
  artifactRoot : JsString
  secretDigest : JsString
  deriving DecidableEq

structure BootstrapCapabilityV1 where
  capabilityId : JsString
  secret : JsString
  workspaceId : JsString
  osIdentity : JsString
  authorityPrincipalId : JsString
  issuedAt : JsString
  deriving DecidableEq

structure BootstrapResultV1 where
  workspaceId : JsString
  principalId : JsString
  grantReference : JsString
  grantDigest : JsString
  deriving DecidableEq

/-- What `init` answers in its result file. -/
structure InitResultV1 where
  workspaceId : JsString
  principalId : JsString
  workspaceCursor : WorkspaceOnlyCursorV1

/-- The files that `init` is told to write. -/
inductive OutputContent where
  | reference (text : JsString)
  | result (value : InitResultV1)

/-- `reference` is the file `bootstrap-authority-grant.ref` of the state directory. -/
structure Disk where
  directory : Bool
  secret : FileState (List Nat)
  manifest : FileState AuthorityManifestV1
  capability : FileState BootstrapCapabilityV1
  consuming : FileState BootstrapCapabilityV1
  reference : FileState JsString
  outputs : JsString → FileState OutputContent
  store : AuthorityStore

def Disk.initial (directory : Bool) : Disk :=
  ⟨directory, .absent, .absent, .absent, .absent, .absent, fun _ => .absent, .fresh⟩

inductive Step where
  | inspectDirectory | makeDirectory | readReference
  | makeDirectories | findCredential | createSecret | writeSecret | createManifest
  | writeManifest | readCredential | openStore
  | replay | removeConsuming | restoreCapability
  | createCapability | writeCapability | takeCapability | readCapability | commit
  | createReference | writeReference | createOutput (path : JsString) | writeOutput (path : JsString)
  deriving DecidableEq

inductive Refusal where
  | workspaceNotFound
  | incompleteAuthorityCredential
  | authorityCredentialBindingMismatch
  | malformedFile
  | authenticatedWorkspaceMissing
  | bootstrapCapabilityBindingMismatch
  | alreadyBootstrapped
  | existingWorkspaceAuthority
  | workspaceGenesisMissing
  | invalidTime
  | domain (error : DomainError)
  | store (error : StoreError)
  deriving DecidableEq

abbrev Ceremony (Result : Type) := Script Disk Step (Trouble Step Refusal) Result

end Files

section Daemon

structure DaemonConfigV1 where
  workspaceId : JsString
  databasePath : JsString
  artifactRoot : JsString
  osIdentity : JsString
  userName : JsString

/-- What a call draws at random, and its two readings of the clock. -/
structure Draw where
  authorityId : JsString
  authoritySecret : List Nat
  capabilityId : JsString
  capabilitySecret : JsString
  principalId : JsString
  grantId : JsString
  issuedAt : Int
  consumedAt : Int

variable [Engine] (secretDigest : List Nat → JsString) (config : DaemonConfigV1) (draw : Draw)

/-- The secret is created first: a manifest without it is never found. -/
def createCredential : Ceremony Unit := do
  let manifest : AuthorityManifestV1 :=
    { authorityId := draw.authorityId
      workspaceId := config.workspaceId
      databasePath := config.databasePath
      artifactRoot := config.artifactRoot
      secretDigest := secretDigest draw.authoritySecret }
  Script.attempt .createSecret fun disk =>
    if disk.secret = .absent then some { disk with secret := .empty } else none
  Script.step .writeSecret fun disk => { disk with secret := .written draw.authoritySecret }
  Script.attempt .createManifest fun disk =>
    if disk.manifest = .absent then some { disk with manifest := .empty } else none
  Script.step .writeManifest fun disk => { disk with manifest := .written manifest }

def credentialBound (secret : List Nat) (manifest : AuthorityManifestV1) : Prop :=
  manifest.authorityId ≠ [] ∧ manifest.workspaceId = config.workspaceId ∧
    manifest.databasePath = config.databasePath ∧ manifest.artifactRoot = config.artifactRoot ∧
    secret.length = 32 ∧ manifest.secretDigest = secretDigest secret

instance (secret : List Nat) (manifest : AuthorityManifestV1) :
    Decidable (credentialBound secretDigest config secret manifest) :=
  inferInstanceAs (Decidable (_ ∧ _))

/-- An empty secret reads as no bytes, and an empty manifest does not parse. -/
def loadCredential (disk : Disk) : Except Refusal Unit :=
  match disk.secret, disk.manifest with
  | .written secret, .written manifest =>
      ensure (credentialBound secretDigest config secret manifest)
        .authorityCredentialBindingMismatch
  | .empty, .written _ => .error .authorityCredentialBindingMismatch
  | _, _ => .error .malformedFile

def readCredential : Ceremony Unit :=
  Script.transact .readCredential fun disk => do
    loadCredential secretDigest config disk
    return ((), disk)

def createOrLoadAuthorityCredential : Ceremony Unit := do
  let (secret, manifest) ← Script.ask .findCredential fun disk =>
    (decide (disk.secret ≠ .absent), decide (disk.manifest ≠ .absent))
  if secret || manifest then
    Script.refuseUnless (secret = true ∧ manifest = true) .incompleteAuthorityCredential
  else createCredential secretDigest config draw
  readCredential secretDigest config

def workspaceRows (disk : Disk) : Except Refusal (List HashedEventEnvelopeV1) :=
  (authenticatedRows disk.store.log (.workspace config.workspaceId)).mapError .store

def replay : Ceremony (List HashedEventEnvelopeV1) :=
  Script.transact .replay fun disk => do
    let rows ← workspaceRows config disk
    return (rows, disk)

def openAuthenticatedWorkspace : Ceremony Unit := do
  Script.step .openStore id
  let rows ← replay config
  Script.refuseUnless (rows ≠ []) .authenticatedWorkspaceMissing

def restoreCapability : Ceremony Unit :=
  Script.step .restoreCapability fun disk =>
    if disk.consuming = .absent then disk
    else { disk with capability := disk.consuming, consuming := .absent }

def removeConsuming : Ceremony Unit :=
  Script.step .removeConsuming fun disk => { disk with consuming := .absent }

def recoverInterruptedConsumption : Ceremony Unit := do
  let rows ← replay config
  if rows ≠ [] then removeConsuming else restoreCapability

def openDaemon : Ceremony Unit := do
  Script.step .makeDirectories fun disk => { disk with directory := true }
  createOrLoadAuthorityCredential secretDigest config draw
  Script.step .openStore id
  let existing ← replay config
  if existing ≠ [] then openAuthenticatedWorkspace config
  recoverInterruptedConsumption config

end Daemon

section Ceremony

variable [Engine] (config : DaemonConfigV1) (draw : Draw)

def authorityMethods : List ProtocolMethodV1 :=
  [.workspaceGet, .runCreate, .runGet, .runList, .taskCreate, .taskList, .taskGet, .taskCancel,
    .taskDispatch, .taskBreakdown, .taskAdoptPlan, .taskRevisePlan, .taskExecute, .dispatchLaunch,
    .dispatchGet, .dispatchReconcile, .grantIssue, .grantDelegate, .grantRevoke, .grantList]

def newCapability (authorityPrincipalId : JsString) : BootstrapCapabilityV1 :=
  { capabilityId := draw.capabilityId
    secret := draw.capabilitySecret
    workspaceId := config.workspaceId
    osIdentity := config.osIdentity
    authorityPrincipalId := authorityPrincipalId
    issuedAt := Engine.toISOString draw.issuedAt }

def createCapability (authorityPrincipalId : JsString) : Ceremony BootstrapCapabilityV1 := do
  let capability := newCapability config draw authorityPrincipalId
  Script.attempt .createCapability fun disk =>
    if disk.capability = .absent then some { disk with capability := .empty } else none
  Script.step .writeCapability fun disk => { disk with capability := .written capability }
  return capability

/-- `365*24*60*60*1000` -/
def grantLifetime : Int := 31536000000

def grantExpiry : Except Refusal JsString :=
  match Engine.dateParse (Engine.toISOString draw.consumedAt) with
  | some time => .ok (Engine.toISOString (time + grantLifetime))
  | none => .error .invalidTime

def authorityGrantCore (authorityPrincipalId expiresAt : JsString) : AuthenticatedGrantV1 :=
  { principalId := authorityPrincipalId
    principalRole := .authority
    peerIdentity := config.osIdentity
    workspaceId := config.workspaceId
    runId := none
    taskId := none
    attemptId := none
    generation := none
    proposalId := none
    adapterId := none
    allowedMethods := authorityMethods
    expiresAt := expiresAt
    grantDigest := [] }

def consumptionMarker (capabilityId : JsString) : Except DomainError JsString :=
  domainDigest (js "horseness.bootstrap-consumption.v1")
    (object [("capabilityId", .str capabilityId), ("workspaceId", .str config.workspaceId),
      ("osIdentity", .str config.osIdentity)])

def genesisEnvelope (workspaceId authorityPrincipalId initialGrantDigest
    authorityConsumptionMarker activePolicyDigest commandId : JsString) : EventEnvelopeV1 :=
  { streamKind := .workspace
    workspaceId := workspaceId
    streamId := workspaceId
    sequence := 1
    eventId := commandId ++ js ":1"
    eventType := js "WorkspaceCreatedV1"
    principalId := authorityPrincipalId
    causationId := commandId
    correlationId := commandId
    idempotencyKey := commandId
    priorEnvelopeHash := none
    payloadHash := []
    payload := .workspace (.workspaceCreatedV1 workspaceId authorityPrincipalId
      initialGrantDigest authorityConsumptionMarker activePolicyDigest) }

def createWorkspaceGenesis (workspaceId authorityPrincipalId initialGrantDigest
    authorityConsumptionMarker activePolicyDigest commandId : JsString) :
    Except DomainError HashedEventEnvelopeV1 :=
  sealEventEnvelope (genesisEnvelope workspaceId authorityPrincipalId initialGrantDigest
    authorityConsumptionMarker activePolicyDigest commandId)

/-- The request that `consumeBootstrapCapability` makes of the store, and what it will answer. -/
def foundation (capability : BootstrapCapabilityV1) :
    Except Refusal (BootstrapWorkspaceAuthorityRequestV1 × BootstrapResultV1) := do
  let grantReference := js "grant:" ++ draw.grantId
  let expiresAt ← grantExpiry draw
  let core := authorityGrantCore config capability.authorityPrincipalId expiresAt
  let grantDigest ← (grantDigestOf core).mapError .domain
  let marker ← (consumptionMarker config capability.capabilityId).mapError .domain
  let genesis ← (createWorkspaceGenesis config.workspaceId capability.authorityPrincipalId
    grantDigest marker noPolicyDigest (js "bootstrap:" ++ capability.capabilityId)).mapError .domain
  let state := initialState grantReference { core with grantDigest := grantDigest } false
  let stateDigest ← (authorityStateDigest state).mapError .domain
  return (⟨genesis.envelope.causationId,
    ⟨.workspace, config.workspaceId, config.workspaceId, 0, none, [genesis]⟩,
    ⟨config.workspaceId, grantAuthorityStateKind, 1, stateDigest, state⟩⟩,
    ⟨config.workspaceId, capability.authorityPrincipalId, grantReference, grantDigest⟩)

def capabilityBound (capability : BootstrapCapabilityV1) (secret : JsString) : Prop :=
  capability.workspaceId = config.workspaceId ∧ capability.osIdentity = config.osIdentity ∧
    capability.secret = secret ∧ capability.capabilityId ≠ [] ∧
    capability.authorityPrincipalId ≠ []

instance (capability : BootstrapCapabilityV1) (secret : JsString) :
    Decidable (capabilityBound config capability secret) := inferInstanceAs (Decidable (_ ∧ _))

def readCapability : Ceremony BootstrapCapabilityV1 :=
  Script.transact .readCapability fun disk => match disk.consuming with
    | .written capability => .ok (capability, disk)
    | _ => .error .malformedFile

def consumption (secret : JsString) : Ceremony BootstrapResultV1 := do
  let capability ← readCapability
  Script.refuseUnless (capabilityBound config capability secret)
    .bootstrapCapabilityBindingMismatch
  let rows ← replay config
  Script.refuseUnless (rows = []) .alreadyBootstrapped
  let (request, result) ← Script.compute (foundation config draw capability)
  Script.transact .commit fun disk => do
    let (_, store) ← (bootstrapWorkspaceAuthorityAtomic request disk.store).mapError .store
    return ((), { disk with store := store })
  return result

def consumeCapability (secret : JsString) : Ceremony BootstrapResultV1 := do
  Script.attempt .takeCapability fun disk =>
    if disk.capability = .absent then none
    else some { disk with consuming := disk.capability, capability := .absent }
  let result ← (consumption config draw secret).handle fun failure => do
    restoreCapability
    throw failure
  removeConsuming
  return result

def consumeBootstrapCapability (secret : JsString) : Ceremony BootstrapResultV1 := do
  let result ← consumeCapability config draw secret
  openAuthenticatedWorkspace config
  return result

end Ceremony

section Callers

variable [Engine] (secretDigest : List Nat → JsString) (config : DaemonConfigV1) (draw : Draw)

def referenceLine (grantReference : JsString) : JsString := grantReference ++ js "\n"

/-- `writeFile` truncates the file before it is written. -/
def writeProtected (text : JsString) : Ceremony Unit := do
  Script.step .createReference fun disk => { disk with reference := .empty }
  Script.step .writeReference fun disk => { disk with reference := .written text }

def bootstrapDaemon : Ceremony Unit := do
  openDaemon secretDigest config draw
  let capability ← createCapability config draw (js "authority:" ++ config.userName)
  let result ← consumeBootstrapCapability config draw capability.secret
  writeProtected (referenceLine result.grantReference)

def ensureReference : Ceremony Unit := do
  let reference ← Script.ask .readReference Disk.reference
  if reference = .absent then bootstrapDaemon secretDigest config draw

def ensureWorkspace (create : Bool) : Ceremony Bool := do
  let found ← Script.ask .inspectDirectory Disk.directory
  if found then
    ensureReference secretDigest config draw
    return false
  else
    Script.refuseUnless (create = true) .workspaceNotFound
    Script.step .makeDirectory fun disk => { disk with directory := true }
    ensureReference secretDigest config draw
    return true

/-- Where `init` is told to write the reference of the grant. -/
inductive ReferenceFile where
  | own
  | output (path : JsString)

def createOutput (path : JsString) (content : OutputContent) : Ceremony Unit := do
  Script.attempt (.createOutput path) fun disk =>
    if disk.outputs path matches .absent then
      some { disk with outputs := Function.update disk.outputs path .empty }
    else none
  Script.step (.writeOutput path) fun disk =>
    { disk with outputs := Function.update disk.outputs path (.written content) }

def writeNewReference (text : JsString) : ReferenceFile → Ceremony Unit
  | .own => do
      Script.attempt .createReference fun disk =>
        if disk.reference = .absent then some { disk with reference := .empty } else none
      Script.step .writeReference fun disk => { disk with reference := .written text }
  | .output path => createOutput path (.reference text)

def init (grantReferenceFile : ReferenceFile) (resultFile : JsString) : Ceremony Unit := do
  openDaemon secretDigest config draw
  let existing ← replay config
  Script.refuseUnless (existing = []) .existingWorkspaceAuthority
  let capability ← createCapability config draw (js "authority:" ++ draw.principalId)
  let result ← consumeBootstrapCapability config draw capability.secret
  let rows ← replay config
  match rows.getLast? with
  | none => throw (.refused .workspaceGenesisMissing)
  | some head => do
      writeNewReference (referenceLine result.grantReference) grantReferenceFile
      createOutput resultFile (.result ⟨result.workspaceId, result.principalId,
        { workspaceId := result.workspaceId
          workspaceSequence := head.envelope.sequence
          workspaceEnvelopeHash := head.envelopeHash
          workspaceContextEpoch := head.envelope.sequence - 1 }⟩)

end Callers

end Horseness.WorkspaceBootstrap
