import Horseness.Interleaving
import Horseness.JsonWriting
import Horseness.Retention

/-!
The spool of a native task and the four adapters over it, as scripts of steps on the files of one
state directory. The sessions of a process share nothing but these files; the calls on one session
share its `active` attempt. What the native host answers is given for each call.
-/

namespace Horseness.NativeSpool

open FallibleRuns CrashScripts Interleaving ScriptText JsonValues JsonWriting ScriptEngine Canonical
  Cursors Tasks TaskPlans AttemptReceipts Retention

section Records

structure BoundAdapterOperationV1 where
  workspaceId : JsString
  runId : JsString
  taskId : JsString
  attemptId : JsString
  generation : Nat
  forkPinDigest : JsString
  contextManifestCoreDigest : JsString
  attemptContextBindingDigest : JsString
  providerIdempotencyKeyDigest : JsString
  attemptCapability : JsString
  deriving DecidableEq

def BoundAdapterOperationV1.toJson (binding : BoundAdapterOperationV1) : JsValue :=
  object [("schemaVersion", .str (js "1")), ("workspaceId", .str binding.workspaceId),
    ("runId", .str binding.runId), ("taskId", .str binding.taskId),
    ("attemptId", .str binding.attemptId), ("generation", natural binding.generation),
    ("forkPinDigest", .str binding.forkPinDigest),
    ("contextManifestCoreDigest", .str binding.contextManifestCoreDigest),
    ("attemptContextBindingDigest", .str binding.attemptContextBindingDigest),
    ("providerIdempotencyKeyDigest", .str binding.providerIdempotencyKeyDigest),
    ("attemptCapability", .str binding.attemptCapability)]

structure NativeTaskAdapterOptionsV1 where
  binding : BoundAdapterOperationV1
  producerPrincipalId : JsString
  producerGrantDigest : JsString
  workspacePath : JsString
  renderedContext : JsString
  model : Option JsString
  purpose : TaskKind
  profile : TaskExecutionProfileV1

/-- `UNKNOWN_OUTCOME` comes with or without a reason, which is left out. -/
inductive NativeRefusal where
  | contextLimit | profileMismatch | contextMismatch | contextBindingMismatch | bindingMismatch
  | executableChanged | effortUnsupported | privateRecordInvalid | handoffRequired | missing
  | malformed | unknownOutcome | terminalTampered | terminalInvalid | terminalOutputInvalid
  | terminalUnobservable | modelMismatch | evidenceInvalid | outputLimit | mediaTypeUnsupported
  | publicationDigestInvalid | publicationDigestMismatch | cancelUnsupported | resumeUnsupported
  | domain (error : DomainError)
  | host (message : JsString)
  deriving DecidableEq

structure NativeTaskTerminalV1 where
  providerOperationId : JsString
  nativeSessionId : JsString
  startedAt : JsString
  finishedAt : JsString
  outcome : AttemptTerminalState
  outputDigest : Option JsString
  evidence : List ReceiptEvidenceV1
  provenance : JsValue

def NativeTaskTerminalV1.toJson (record : NativeTaskTerminalV1) : JsValue :=
  object [("providerOperationId", .str record.providerOperationId),
    ("nativeSessionId", .str record.nativeSessionId), ("startedAt", .str record.startedAt),
    ("finishedAt", .str record.finishedAt), ("outcome", .str record.outcome.text),
    ("outputDigest", nullable .str record.outputDigest),
    ("evidence", .arr (record.evidence.map ReceiptEvidenceV1.toJson)),
    ("provenance", record.provenance)]

structure NativeTaskPublicationV1 where
  digest : JsString
  mediaType : JsString
  bytes : JsString

/-- What `terminal.json` holds. -/
structure RetainedTerminal where
  identity : JsString
  record : NativeTaskTerminalV1
  recordDigest : JsString

def RetainedTerminal.toJson (retained : RetainedTerminal) : JsValue :=
  object [("identity", .str retained.identity), ("record", retained.record.toJson),
    ("recordDigest", .str retained.recordDigest)]

structure NativeTaskSpoolV1 where
  options : NativeTaskAdapterOptionsV1
  profileDigest : JsString
  contextDigest : JsString
  identity : JsString

variable [Engine]

def nativeBytesDigestV1 (bytes : JsString) : JsString := Engine.sha256Hex bytes

def nativeRenderedContextDigestV1 (text : JsString) : Except DomainError JsString :=
  domainDigest (js "horseness.context-source-bytes.v1")
    (.str (base64 (utf8 (Engine.normalizeNFC text))))

def createNativeTaskSpoolV1 (options : NativeTaskAdapterOptionsV1) :
    Except NativeRefusal NativeTaskSpoolV1 := do
  ensure (byteLength options.renderedContext ≤ 1048576) .contextLimit
  let profileDigest ← (taskExecutionProfileDigest options.profile).mapError .domain
  let contextDigest ← (nativeRenderedContextDigestV1 options.renderedContext).mapError .domain
  return {
    options := options
    profileDigest := profileDigest
    contextDigest := contextDigest
    identity := stringify (object [("binding", options.binding.toJson),
      ("profileDigest", .str profileDigest), ("workspacePath", .str options.workspacePath),
      ("renderedContextDigest", .str contextDigest),
      ("producerPrincipalId", .str options.producerPrincipalId),
      ("producerGrantDigest", .str options.producerGrantDigest)]) }

variable (spool : NativeTaskSpoolV1)

def retain (record : NativeTaskTerminalV1) : RetainedTerminal :=
  ⟨spool.identity, record, nativeBytesDigestV1 (stringify record.toJson)⟩

def validate (record : NativeTaskTerminalV1) : Except NativeRefusal Unit := do
  let profile := spool.options.profile
  let provenance ← (parseTaskExecutionReceiptProvenanceV1 record.provenance).mapError .domain
  ensure (provenance.profileDigest = spool.profileDigest) .profileMismatch
  ensure (record.outcome = .succeeded → provenance.observedHostId = some profile.hostId ∧
    provenance.observedHostVersion = some profile.hostVersion ∧
    provenance.observedProviderId = some profile.providerId ∧
    provenance.observedModelId = some profile.modelId) .modelMismatch
  ensure (record.outcome = .succeeded →
    provenance.nativeSessionId = some record.nativeSessionId ∧ provenance.exitCode = some 0)
    .terminalUnobservable
  ensure (record.providerOperationId ≠ [] ∧ record.nativeSessionId ≠ [] ∧
    (Engine.dateParse record.startedAt).isSome = true ∧
    (Engine.dateParse record.finishedAt).isSome = true ∧
    (∀ item ∈ record.evidence, validDigest item.digest ∧ item.size ≤ maxSafeInteger) ∧
    ∀ digest ∈ record.outputDigest, validDigest digest) .terminalInvalid
  ensure (record.outcome = .succeeded ↔ record.outputDigest ≠ none) .terminalOutputInvalid

end Records

section Files

/-- `handoff.json`, `terminal.json`, the two files of a publication, `identity-config.json` and
`identity-guard.mjs`. -/
inductive FileName where
  | marker | terminal | bytes (digest : JsString) | media (digest : JsString) | config | guard
  deriving DecidableEq

@[reducible] def FileName.Content : FileName → Type
  | .marker => JsString
  | .terminal => RetainedTerminal
  | .bytes _ => JsString
  | .media _ => JsString
  | .config => Unit
  | .guard => Unit

def FileName.size [Engine] : (name : FileName) → name.Content → Nat
  | .marker, text => byteLength text
  | .terminal, retained => byteLength (stringify retained.toJson)
  | .bytes _, text => byteLength text
  | .media _, text => byteLength text
  | .config, _ => 0
  | .guard, _ => 0

inductive Step (Call : Type) where
  | read (name : FileName)
  | create (name : FileName)
  | write (name : FileName)
  | sync (name : FileName)
  | readActive | verifyExecutable | resolveProfile | startProcess | runHost | settle
  | await (call : Call)
  deriving DecidableEq

/-- `active` is the attempt that a session has launched and `settled` how attempts have ended.
Nothing reads the creators of the files and the processes started. -/
structure World (Session Call : Type) where
  files : (name : FileName) → FileState name.Content
  active : Session → Option Call
  settled : Call → Option (Except (Trouble (Step Call) NativeRefusal) NativeTaskTerminalV1)
  creators : FileName → Option Call
  starts : List Call

def World.fresh {Session Call : Type} : World Session Call :=
  ⟨fun _ => .absent, fun _ => none, fun _ => none, fun _ => none, []⟩

abbrev Action (Session Call : Type) :=
  Script (World Session Call) (Step Call) (Trouble (Step Call) NativeRefusal)

def conduct {Session Call : Type} : Conduct (World Session Call) (Step Call) where
  enabled := fun step world => match step with
    | .await call => (world.settled call).isSome
    | _ => true
  mayFail := fun step => match step with
    | .readActive => false
    | .startProcess => false
    | .settle => false
    | .await _ => false
    | _ => true

end Files

section Spool

variable [Engine] (spool : NativeTaskSpoolV1) {Session Call : Type} (call : Call)

def readLimit : Nat := max spool.options.profile.maxOutputBytes 65536 + 65536

def find (name : FileName) : Action Session Call (FileState name.Content) :=
  .transact (.read name) fun world => match world.files name with
    | .written content => do
        ensure (name.size content ≤ readLimit spool) .privateRecordInvalid
        return (.written content, world)
    | found => .ok (found, world)

def privateRead (name : FileName) (text : name.Content → JsString) :
    Action Session Call JsString := do
  match ← find spool name with
  | .absent => .fails (.refused .missing)
  | .empty => return []
  | .written content => return text content

def create (name : FileName) : Action Session Call Unit :=
  .attempt (.create name) fun world => match world.files name with
    | .absent => some { world with
        files := Function.update world.files name .empty
        creators := Function.update world.creators name (some call) }
    | _ => none

def writeNew (name : FileName) (content : name.Content) : Action Session Call Unit := do
  create call name
  .step (.write name) fun world =>
    { world with files := Function.update world.files name (.written content) }

def exclusive (name : FileName) (content : name.Content) : Action Session Call Unit := do
  writeNew call name content
  .step (.sync name) id

def FileState.text : FileState JsString → JsString
  | .written content => content
  | _ => []

/-- Whether the marker exists, which must then be that of the same options. -/
def check : Action Session Call Bool := do
  let found ← find spool .marker
  .refuseUnless (found = .absent ∨ FileState.text found = spool.identity) .bindingMismatch
  return found ≠ .absent

def begin : Action Session Call Unit := exclusive call .marker spool.identity

def handedOff : Action Session Call Bool := check spool

def mediaTypes : List JsString := [js "text/plain", js "application/json"]

def publication (digest : JsString) : Action Session Call NativeTaskPublicationV1 := do
  .refuseUnless (validDigest digest) .publicationDigestInvalid
  let handed ← check spool
  .refuseUnless (handed = true) .handoffRequired
  let bytes ← privateRead spool (.bytes digest) id
  .refuseUnless (nativeBytesDigestV1 bytes = digest) .publicationDigestMismatch
  let mediaType ← privateRead spool (.media digest) id
  .refuseUnless (mediaType ∈ mediaTypes) .mediaTypeUnsupported
  return ⟨digest, mediaType, bytes⟩

def validateEvidence : List ReceiptEvidenceV1 → Action Session Call Unit
  | [] => return ()
  | item :: rest => do
      let published ← publication spool item.digest
      .refuseUnless (published.mediaType = item.mediaType ∧
        byteLength published.bytes = item.size) .evidenceInvalid
      validateEvidence rest

def validatePublications (record : NativeTaskTerminalV1) : Action Session Call Unit := do
  match record.outputDigest with
  | some digest => do
      let _ ← publication spool digest
      validateEvidence spool record.evidence
  | none => validateEvidence spool record.evidence

def load : Action Session Call (Option NativeTaskTerminalV1) := do
  let handed ← check spool
  match ← find spool .terminal with
  | .absent => do
      .refuseUnless (handed = false) .unknownOutcome
      return none
  | .empty => .fails (.refused .malformed)
  | .written envelope => do
      .refuseUnless (handed = true ∧ envelope.identity = spool.identity) .bindingMismatch
      .refuseUnless (envelope.recordDigest =
        nativeBytesDigestV1 (stringify envelope.record.toJson)) .terminalTampered
      .compute (validate spool envelope.record)
      validatePublications spool envelope.record
      return some envelope.record

def save (record : NativeTaskTerminalV1) : Action Session Call Unit := do
  let handed ← check spool
  .refuseUnless (handed = true) .handoffRequired
  .compute (validate spool record)
  validatePublications spool record
  exclusive call .terminal (retain spool record)

def publish (bytes mediaType : JsString) : Action Session Call JsString := do
  let handed ← check spool
  .refuseUnless (handed = true) .handoffRequired
  .refuseUnless (byteLength bytes ≤ spool.options.profile.maxOutputBytes) .outputLimit
  .refuseUnless (mediaType ∈ mediaTypes) .mediaTypeUnsupported
  let digest := nativeBytesDigestV1 bytes
  exclusive call (.bytes digest) bytes
  exclusive call (.media digest) mediaType
  return digest

end Spool

section Adapters

/-- What an adapter reads off the output of the native process, or off its failure. -/
structure NativeObservation where
  providerOperationId : JsString
  nativeSessionId : JsString
  startedAt : JsString
  finishedAt : JsString
  outcome : AttemptTerminalState
  output : JsString
  evidence : JsString
  provenance : JsValue

/-- The native host as each call finds it. -/
structure Host (Call : Type) where
  executable : Call → JsString
  resolved : Call → Except NativeRefusal TaskExecutionProfileV1
  run : Call → Except NativeRefusal NativeObservation

/-- The adapters that write files for the native process before the handoff. -/
def guarded : NativeTaskAdapterIdV1 → Bool
  | .pi => true
  | .omp => true
  | .claude => false
  | .codex => false

def hostVersion : NativeTaskAdapterIdV1 → JsString
  | .pi => js "0.73.1"
  | .omp => js "17.2.15"
  | .claude => js "2.1.228"
  | .codex => js "0.144.1-linux-x64"

def pinned : NativeTaskAdapterIdV1 → Option (JsString × JsString)
  | .codex => some (js "openai", js "a96f944d1a596dbfb7fdd84f482be5c5" ++
      js "0e34b04bb371126840d873e4ebf26902")
  | .claude => some (js "anthropic", js "d535985e6941a3eb00179ccd7f52ceb0" ++
      js "c6623a0305a518ebc4e6514f84a94c99")
  | _ => none

def Supported (options : NativeTaskAdapterOptionsV1) : Prop :=
  let profile := options.profile
  profile.hostId = profile.adapterId.text ∧ profile.hostVersion = hostVersion profile.adapterId ∧
    profile.purpose = options.purpose ∧ profile.lookup = .localTerminalRecord ∧
    profile.idempotentLaunch = false ∧ ∀ pin ∈ pinned profile.adapterId,
      profile.providerId = pin.1 ∧ some profile.modelId = options.model ∧
      profile.nativeExecutableDigest = pin.2

instance (options : NativeTaskAdapterOptionsV1) : Decidable (Supported options) :=
  inferInstanceAs (Decidable (_ ∧ _))

variable [Engine] (spool : NativeTaskSpoolV1) {Session Call : Type} [DecidableEq Session]
  [DecidableEq Call] (host : Host Call) (session : Session) (call : Call)

def adapter : NativeTaskAdapterIdV1 := spool.options.profile.adapterId

def verifyExecutable (refusal : NativeRefusal) : Action Session Call Unit := do
  let digest ← .ask .verifyExecutable fun _ => host.executable call
  .refuseUnless (digest = spool.options.profile.nativeExecutableDigest) refusal

def verifiedProfile (resolved : TaskExecutionProfileV1) : TaskExecutionProfileV1 :=
  if spool.options.profile.effort = none then { resolved with effort := none } else resolved

def resolveTaskProfile : Action Session Call TaskExecutionProfileV1 := do
  verifyExecutable spool host call .profileMismatch
  let resolved ← .transact .resolveProfile fun world => do
    let profile ← host.resolved call
    return (profile, world)
  return verifiedProfile spool resolved

def createTaskAdapter : Action Session Call Unit := do
  .refuseUnless (Supported spool.options) .profileMismatch
  if guarded (adapter spool) then do
    let handed ← handedOff spool
    if handed then return ()
    else do
      let verified ← resolveTaskProfile spool host call
      let digest ← .compute ((taskExecutionProfileDigest verified).mapError NativeRefusal.domain)
      .refuseUnless (digest = spool.profileDigest) .profileMismatch
  else return ()

def awaiting (attempt : Call) : Action Session Call NativeTaskTerminalV1 :=
  .act (.await attempt) id
    (fun world => match world.settled attempt with
      | some (.ok record) => .done record
      | some (.error trouble) => .fails trouble
      | none => .fails (.refused .unknownOutcome))
    (.fails (.refused .unknownOutcome))

def outputMediaType : JsString :=
  if guarded (adapter spool) = false ∧ spool.options.purpose = .planner then
    js "application/json" else js "text/plain"

def publishOutput (seen : NativeObservation) : Action Session Call (Option JsString) :=
  if seen.outcome = .succeeded then do
    let digest ← publish spool call seen.output (outputMediaType spool)
    return some digest
  else return none

def terminalRecord (seen : NativeObservation) (outputDigest : Option JsString)
    (evidenceDigest : JsString) : NativeTaskTerminalV1 :=
  { providerOperationId := seen.providerOperationId
    nativeSessionId := seen.nativeSessionId
    startedAt := seen.startedAt
    finishedAt := seen.finishedAt
    outcome := seen.outcome
    outputDigest := outputDigest
    evidence := [⟨evidenceDigest, js "application/json", byteLength seen.evidence⟩]
    provenance := seen.provenance }

def observe : Action Session Call NativeTaskTerminalV1 := do
  let seen ← .transact .runHost fun world => do
    let seen ← host.run call
    return (seen, world)
  let outputDigest ← publishOutput spool call seen
  let evidenceDigest ← publish spool call seen.evidence (js "application/json")
  let record := terminalRecord seen outputDigest evidenceDigest
  save spool call record
  return record

/-- Codex and Claude hide the failure of an attempt behind an unknown outcome. -/
def reported (outcome : Except (Trouble (Step Call) NativeRefusal) NativeTaskTerminalV1) :
    Except (Trouble (Step Call) NativeRefusal) NativeTaskTerminalV1 :=
  if guarded (adapter spool) then outcome else outcome.mapError fun _ => .refused .unknownOutcome

def settle (outcome : Except (Trouble (Step Call) NativeRefusal) NativeTaskTerminalV1) :
    Action Session Call NativeTaskTerminalV1 := do
  .step .settle fun world =>
    { world with settled := Function.update world.settled call (some outcome) }
  match outcome with
  | .ok record => return record
  | .error trouble => .fails trouble

def handOff : Action Session Call NativeTaskTerminalV1 := do
  begin spool call
  .step .startProcess fun world => { world with
    starts := call :: world.starts
    active := Function.update world.active session (some call) }
  let outcome ← (observe spool host call).outcome
  settle call (reported spool outcome)

def writeGuard : Action Session Call Unit := do
  writeNew call .config ()
  writeNew call .guard ()

def launchFresh : Action Session Call NativeTaskTerminalV1 := do
  if guarded (adapter spool) then do
    verifyExecutable spool host call .profileMismatch
    .refuseUnless (¬(adapter spool = .pi ∧ spool.options.profile.effort = some .max))
      .effortUnsupported
    writeGuard call
    handOff spool host session call
  else do
    verifyExecutable spool host call .executableChanged
    handOff spool host session call

def launchUnlessRetained : Action Session Call NativeTaskTerminalV1 := do
  match ← load spool with
  | some retained => return retained
  | none => launchFresh spool host session call

/-- Codex and Claude do not look at the attempt of their session. -/
def launch (renderedContextDigest : JsString) : Action Session Call NativeTaskTerminalV1 := do
  if guarded (adapter spool) then do
    .refuseUnless (renderedContextDigest = spool.contextDigest) .contextMismatch
    match ← .ask .readActive fun world => world.active session with
    | some attempt => awaiting attempt
    | none => launchUnlessRetained spool host session call
  else do
    .refuseUnless (renderedContextDigest = spool.contextDigest) .contextBindingMismatch
    launchUnlessRetained spool host session call

def collect : Action Session Call (Option NativeTaskTerminalV1) := do
  match ← .ask .readActive fun world => world.active session with
  | some attempt => do
      let record ← awaiting attempt
      return some record
  | none => load spool

def collected : Action Session Call NativeTaskTerminalV1 := do
  match ← collect spool session with
  | some record => return record
  | none => .fails (.refused .unknownOutcome)

def awaitActive : Action Session Call Unit := do
  match ← .ask .readActive fun world => world.active session with
  | some attempt => do
      let _ ← (awaiting attempt).outcome
      return ()
  | none => return ()

def cancel : Action Session Call NativeTaskTerminalV1 := do
  if guarded (adapter spool) then .fails (.refused .cancelUnsupported)
  else do
    awaitActive session
    match ← load spool with
    | some record => return record
    | none => .fails (.refused .unknownOutcome)

def reconcile : Action Session Call (Option NativeTaskTerminalV1) := do
  if guarded (adapter spool) then do
    let _ ← collected spool session
    collect spool session
  else do
    let record ← collected spool session
    return some record

def resume : Action Session Call NativeTaskTerminalV1 := do
  if guarded (adapter spool) then .fails (.refused .resumeUnsupported)
  else collected spool session

inductive Operation where
  | create
  | launch (renderedContextDigest : JsString)
  | cancel | reconcile | resume | collect | load | close
  deriving DecidableEq

def perform : Operation → Action Session Call (Option NativeTaskTerminalV1)
  | .create => do
      createTaskAdapter spool host call
      return none
  | .launch renderedContextDigest => do
      let record ← launch spool host session call renderedContextDigest
      return some record
  | .cancel => do
      let record ← cancel spool session
      return some record
  | .reconcile => reconcile spool session
  | .resume => do
      let record ← resume spool session
      return some record
  | .collect => collect spool session
  | .load => load spool
  | .close => do
      awaitActive session
      return none

end Adapters

end Horseness.NativeSpool
