import Horseness.DispatchAuthority
import Horseness.PolicyDocuments

/-!
The two authority snapshots that an admission is decided on: what was so when the proposal was
sealed, and what is so now. They are stored as JSON and read back as values of their types;
a stored value that is not of its type reads as nothing.
-/

namespace Horseness.AuthoritySnapshots

open FallibleRuns ScriptText JsonValues Canonical Cursors ForkContext Tasks AttemptReceipts Delta
  PolicyDocuments DispatchAuthority

section Capabilities

inductive PrincipalRole where
  | authority
  | approver
  | operator
  | worker
  | adapter
  deriving DecidableEq

inductive PrivilegedCommand where
  | createWorkspace
  | rebindWorkspace
  | grantAdmin
  | policyAdmin
  | quotaAdmin
  | approveProposal
  | rejectProposal
  | releaseProposal
  | resolveUnknown
  | duplicateRiskLaunch
  | promoteImport
  | recoveryAdmin
  | daemonAdmin
  | install
  | dispatch
  | submitReceipt
  | submitProposal
  | readBoundContext
  | cancelOwnAttempt
  deriving DecidableEq

def allowedCommands : PrincipalRole → List PrivilegedCommand
  | .authority => [.createWorkspace, .rebindWorkspace, .grantAdmin, .policyAdmin, .quotaAdmin,
      .approveProposal, .rejectProposal, .releaseProposal, .resolveUnknown, .duplicateRiskLaunch,
      .promoteImport, .recoveryAdmin, .daemonAdmin, .install, .dispatch, .submitReceipt,
      .submitProposal, .readBoundContext, .cancelOwnAttempt]
  | .approver => [.approveProposal]
  | .operator => [.install, .dispatch]
  | .worker => [.submitReceipt, .submitProposal, .readBoundContext, .cancelOwnAttempt]
  | .adapter => [.submitReceipt, .readBoundContext]

structure CapabilityV1 where
  workspaceId : JsString
  runId : Option JsString
  taskId : Option JsString
  attemptId : Option JsString
  generation : Option Nat
  commands : List PrivilegedCommand
  issuer : JsString
  delegatee : JsString
  issuedObservationSequence : Nat
  expiresObservationSequence : Nat
  nonce : JsString
  revocationSequence : Option Nat
  deriving DecidableEq

structure CommandInput where
  role : PrincipalRole
  command : PrivilegedCommand
  capability : CapabilityV1
  workspaceId : JsString
  runId : Option JsString
  taskId : Option JsString
  attemptId : Option JsString
  generation : Option Nat
  observationSequence : Nat
  grantDigest : JsString
  expectedGrantDigest : JsString
  userPresence : Bool
  recoveryQuorum : Bool

def bound {Value : Type} [DecidableEq Value] (named given : Option Value) : Bool :=
  named.isNone || named = given

def authorizeCommand (input : CommandInput) : Except DomainError Unit := do
  ensure (input.command ∈ allowedCommands input.role) .roleForbidden
  ensure (input.capability.workspaceId = input.workspaceId) .crossWorkspaceDenied
  ensure (input.command ∈ input.capability.commands) .capabilityScopeMismatch
  ensure (bound input.capability.runId input.runId ∧ bound input.capability.taskId input.taskId ∧
    bound input.capability.attemptId input.attemptId ∧
    bound input.capability.generation input.generation) .capabilityScopeMismatch
  ensure (input.grantDigest = input.expectedGrantDigest) .grantSubstituted
  ensure (input.capability.issuedObservationSequence ≤ input.observationSequence ∧
    input.observationSequence ≤ input.capability.expiresObservationSequence ∧
    ∀ sequence ∈ input.capability.revocationSequence, input.observationSequence < sequence)
    .grantStale
  ensure (input.command ∈ [PrivilegedCommand.duplicateRiskLaunch, .rebindWorkspace, .promoteImport,
    .resolveUnknown] → input.userPresence = true) .userPresenceRequired
  ensure (input.command = .recoveryAdmin → input.recoveryQuorum = true) .recoveryQuorumRequired
  -- An approver may not approve what it issued itself.
  ensure (input.role = .approver → input.capability.delegatee ≠ input.capability.issuer)
    .roleForbidden

structure AuthoritativeAdmissionAuthorization where
  role : PrincipalRole
  capabilityId : JsString
  capability : CapabilityV1
  grantDigest : JsString
  revoked : Bool
  deriving DecidableEq

structure AdmissionSubject where
  workspaceId : JsString
  runId : JsString
  principalId : JsString
  observationSequence : Nat

def authorizeAdmission (capabilityId : JsString) (authority : AuthoritativeAdmissionAuthorization)
    (subject : AdmissionSubject) : Except DomainError Unit := do
  ensure (capabilityId = authority.capabilityId ∧ authority.revoked = false)
    .capabilityScopeMismatch
  ensure (authority.capability.delegatee = subject.principalId) .capabilityScopeMismatch
  authorizeCommand
    { role := authority.role
      command := .submitProposal
      capability := authority.capability
      workspaceId := subject.workspaceId
      runId := some subject.runId
      taskId := none
      attemptId := none
      generation := none
      observationSequence := subject.observationSequence
      grantDigest := authority.grantDigest
      expectedGrantDigest := authority.grantDigest
      userPresence := false
      recoveryQuorum := false }

end Capabilities

section Snapshots

/-- Evidence is kept as it is stored: what of it is checked is read from it. -/
structure AdmissionSealingAuthorityV1 where
  observationCursor : CompositeCursorV1
  fork : SealedForkPinV1
  scope : DeltaAuthorityScopeV1
  receipts : List AttemptReceiptEnvelopeV1
  pinnedPolicy : PolicySlotV1
  evidence : List JsValue

structure AdmissionQuota where
  id : JsString
  digest : JsString
  available : Bool
  deriving DecidableEq

structure AdmissionCurrentAuthorityV1 where
  evaluationObservationCursor : CompositeCursorV1
  currentPolicy : PolicySlotV1
  authorization : AuthoritativeAdmissionAuthorization
  quota : AdmissionQuota
  authenticatedApproverPrincipalId : JsString
  authorityTime : JsString

def PrincipalRole.text : PrincipalRole → JsString
  | .authority => js "authority"
  | .approver => js "approver"
  | .operator => js "operator"
  | .worker => js "worker"
  | .adapter => js "adapter"

def PrivilegedCommand.text : PrivilegedCommand → JsString
  | .createWorkspace => js "create-workspace"
  | .rebindWorkspace => js "rebind-workspace"
  | .grantAdmin => js "grant-admin"
  | .policyAdmin => js "policy-admin"
  | .quotaAdmin => js "quota-admin"
  | .approveProposal => js "approve-proposal"
  | .rejectProposal => js "reject-proposal"
  | .releaseProposal => js "release-proposal"
  | .resolveUnknown => js "resolve-unknown"
  | .duplicateRiskLaunch => js "duplicate-risk-launch"
  | .promoteImport => js "promote-import"
  | .recoveryAdmin => js "recovery-admin"
  | .daemonAdmin => js "daemon-admin"
  | .install => js "install"
  | .dispatch => js "dispatch"
  | .submitReceipt => js "submit-receipt"
  | .submitProposal => js "submit-proposal"
  | .readBoundContext => js "read-bound-context"
  | .cancelOwnAttempt => js "cancel-own-attempt"

def CapabilityV1.toJson (capability : CapabilityV1) : JsValue :=
  object (("schemaVersion", .str (js "1")) :: ("workspaceId", .str capability.workspaceId) ::
    AuthorityLog.optional "runId" .str capability.runId ++
    AuthorityLog.optional "taskId" .str capability.taskId ++
    AuthorityLog.optional "attemptId" .str capability.attemptId ++
    AuthorityLog.optional "generation" natural capability.generation ++
    [("commands", texts (capability.commands.map PrivilegedCommand.text)),
      ("issuer", .str capability.issuer), ("delegatee", .str capability.delegatee),
      ("issuedObservationSequence", natural capability.issuedObservationSequence),
      ("expiresObservationSequence", natural capability.expiresObservationSequence),
      ("nonce", .str capability.nonce),
      ("revocationSequence", nullable natural capability.revocationSequence)])

def AuthoritativeAdmissionAuthorization.toJson
    (authorization : AuthoritativeAdmissionAuthorization) : JsValue :=
  object [("role", .str authorization.role.text), ("capabilityId", .str authorization.capabilityId),
    ("capability", authorization.capability.toJson),
    ("grantDigest", .str authorization.grantDigest), ("revoked", .bool authorization.revoked)]

def AdmissionQuota.toJson (quota : AdmissionQuota) : JsValue :=
  object [("id", .str quota.id), ("digest", .str quota.digest), ("available", .bool quota.available)]

def AdmissionCurrentAuthorityV1.toJson (current : AdmissionCurrentAuthorityV1) : JsValue :=
  object [("schemaVersion", .str (js "1")),
    ("evaluationObservationCursor", current.evaluationObservationCursor.toJson),
    ("currentPolicy", current.currentPolicy.toJson),
    ("authorization", current.authorization.toJson), ("quota", current.quota.toJson),
    ("authenticatedApproverPrincipalId", .str current.authenticatedApproverPrincipalId),
    ("authorityTime", .str current.authorityTime)]

end Snapshots

section Readers

variable {Value : Type}

def textAt (name : String) (value : JsValue) : Option JsString := textOf (property name value)

def naturalOf : JsValue → Option Nat
  | .num .negativeZero => some 0
  | .num (.finite number) =>
      if number.den = 1 ∧ 0 ≤ number.num then some number.num.toNat else none
  | _ => none

def naturalAt (name : String) (value : JsValue) : Option Nat :=
  (property name value).bind naturalOf

def flagAt (name : String) (value : JsValue) : Option Bool :=
  match property name value with
  | some (.bool flag) => some flag
  | _ => none

def listAt (read : JsValue → Option Value) (name : String) (value : JsValue) :
    Option (List Value) :=
  match property name value with
  | some (.arr items) => items.mapM read
  | _ => none

def textItem : JsValue → Option JsString
  | .str text => some text
  | _ => none

def nullableAt (read : JsValue → Option Value) (name : String) (value : JsValue) :
    Option (Option Value) :=
  match property name value with
  | some .null => some none
  | some found => (read found).map some
  | none => none

def optionalAt (read : JsValue → Option Value) (name : String) (value : JsValue) :
    Option (Option Value) :=
  match property name value with
  | none => some none
  | some found => (read found).map some

def namedBy [DecidableEq Value] (members : List Value) (name : Value → JsString) (value : JsValue) :
    Option Value :=
  members.find? fun member => textItem value = some (name member)

def literalAt (name : String) (expected : String) (value : JsValue) : Option Unit :=
  if textAt name value = some (js expected) then some () else none

def readCompositeCursor (value : JsValue) : Option CompositeCursorV1 := do
  literalAt "schemaVersion" "1" value
  literalAt "kind" "composite" value
  return ⟨← textAt "workspaceId" value, ← naturalAt "workspaceSequence" value,
    ← textAt "workspaceEnvelopeHash" value, ← naturalAt "workspaceContextEpoch" value,
    ← textAt "runId" value, ← naturalAt "runSequence" value,
    ← textAt "runEnvelopeHash" value, ← naturalAt "runContextEpoch" value⟩

def cursorAt (name : String) (value : JsValue) : Option CompositeCursorV1 :=
  (property name value).bind readCompositeCursor

/-- A fork pin's version is composite, or the pin does not verify. -/
def readContextVersion (value : JsValue) : Option ContextVersionV1 := do
  literalAt "schemaVersion" "1" value
  literalAt "kind" "composite" value
  return .composite (← naturalAt "workspaceContextEpoch" value)
    (← naturalAt "runContextEpoch" value) (← cursorAt "observationCursor" value)

def readForkPinCore (value : JsValue) : Option ForkPinCoreV1 := do
  literalAt "schemaVersion" "1" value
  literalAt "canonicalizerVersion" "jcs-v1" value
  literalAt "hashVersion" "sha256-v1" value
  return {
    forkId := ← textAt "forkId" value
    pinVersion := ← naturalAt "pinVersion" value
    workspaceId := ← textAt "workspaceId" value
    runId := ← textAt "runId" value
    parentForkPinDigest := ← nullableAt textItem "parentForkPinDigest" value
    refreshesForkPinDigest := ← nullableAt textItem "refreshesForkPinDigest" value
    canonicalRevision := ← naturalAt "canonicalRevision" value
    canonicalStateHash := ← textAt "canonicalStateHash" value
    sourceObservationCursor := ← cursorAt "sourceObservationCursor" value
    sourceContextVersion := ← (property "sourceContextVersion" value).bind readContextVersion
    dependencyJoinSnapshotDigest := ← textAt "dependencyJoinSnapshotDigest" value
    deltaAuthorityScopeDigest := ← textAt "deltaAuthorityScopeDigest" value
    pinnedPolicyDigest := ← textAt "pinnedPolicyDigest" value
    ancestry := ← listAt textItem "ancestry" value
    createdByPrincipalId := ← textAt "createdByPrincipalId" value
    createdByGrantDigest := ← textAt "createdByGrantDigest" value }

def readForkPin (value : JsValue) : Option SealedForkPinV1 := do
  return ⟨← (property "core" value).bind readForkPinCore, ← textAt "forkPinDigest" value,
    ← textAt "forkPinId" value⟩

def readScope (value : JsValue) : Option DeltaAuthorityScopeV1 := do
  literalAt "schemaVersion" "1" value
  return ⟨← textAt "workspaceId" value, ← textAt "runId" value, ← textAt "taskId" value,
    ← listAt textItem "roots" value⟩

def readReceiptEvidence (value : JsValue) : Option ReceiptEvidenceV1 := do
  return ⟨← textAt "digest" value, ← textAt "mediaType" value, ← naturalAt "size" value⟩

def terminalStates : List AttemptTerminalState := [.succeeded, .failed, .cancelled]

def readReceipt (value : JsValue) : Option AttemptReceiptEnvelopeV1 := do
  literalAt "schemaVersion" "1" value
  return {
    workspaceId := ← textAt "workspaceId" value
    runId := ← textAt "runId" value
    taskId := ← textAt "taskId" value
    attemptId := ← textAt "attemptId" value
    generation := ← naturalAt "generation" value
    attemptContextBindingDigest := ← textAt "attemptContextBindingDigest" value
    contextManifestCoreDigest := ← textAt "contextManifestCoreDigest" value
    forkPinDigest := ← textAt "forkPinDigest" value
    providerId := ← textAt "providerId" value
    providerOperationId := ← textAt "providerOperationId" value
    providerIdempotencyKeyDigest := ← textAt "providerIdempotencyKeyDigest" value
    producerPrincipalId := ← textAt "producerPrincipalId" value
    producerGrantDigest := ← textAt "producerGrantDigest" value
    adapterId := ← textAt "adapterId" value
    adapterVersion := ← textAt "adapterVersion" value
    hostId := ← textAt "hostId" value
    hostVersion := ← textAt "hostVersion" value
    outcome := ← (property "outcome" value).bind
      (namedBy terminalStates TaskResolution.text)
    startedAt := ← textAt "startedAt" value
    finishedAt := ← textAt "finishedAt" value
    outputDigest := ← nullableAt textItem "outputDigest" value
    evidence := ← listAt readReceiptEvidence "evidence" value
    provenance := ← property "provenance" value
    nonce := ← textAt "nonce" value
    receiptId := ← textAt "receiptId" value
    receiptDigest := ← textAt "receiptDigest" value }

def readRequirement (value : JsValue) : Option EvidenceRequirementV1 := do
  return ⟨← textAt "evidenceId" value, ← textAt "digest" value, ← textAt "path" value,
    ← textAt "version" value⟩

def readSubject (value : JsValue) : Option PolicySubjectV1 := do
  return ⟨← nullableAt textItem "action" value, ← nullableAt textItem "pathPrefix" value,
    ← nullableAt textItem "version" value⟩

def policyEffects : List PolicyEffectV1 := [.accepted, .rejected, .quarantined, .approvalRequired]

def readRule (value : JsValue) : Option PolicyRuleV1 := do
  return ⟨← textAt "ruleId" value, ← (property "subject" value).bind readSubject,
    ← (property "effect" value).bind (namedBy policyEffects PolicyEffectV1.text),
    ← listAt textItem "constraints" value, ← listAt readRequirement "evidence" value⟩

def readPolicyCore (value : JsValue) : Option PolicyDocumentCoreV1 := do
  literalAt "schemaVersion" "1" value
  literalAt "kind" "policy" value
  return ⟨← textAt "policyId" value, ← naturalAt "revision" value,
    ← nullableAt textItem "predecessorDigest" value, ← listAt readRule "rules" value⟩

def readPolicySlot (value : JsValue) : Option PolicySlotV1 :=
  if textAt "kind" value = some (js "no-policy") then some .noPolicy
  else do
    return .document ⟨← (property "core" value).bind readPolicyCore, ← textAt "policyDigest" value⟩

def principalRoles : List PrincipalRole := [.authority, .approver, .operator, .worker, .adapter]

def readCapability (value : JsValue) : Option CapabilityV1 := do
  literalAt "schemaVersion" "1" value
  return {
    workspaceId := ← textAt "workspaceId" value
    runId := ← optionalAt textItem "runId" value
    taskId := ← optionalAt textItem "taskId" value
    attemptId := ← optionalAt textItem "attemptId" value
    generation := ← optionalAt naturalOf "generation" value
    commands := ← listAt (namedBy (allowedCommands .authority) PrivilegedCommand.text) "commands"
      value
    issuer := ← textAt "issuer" value
    delegatee := ← textAt "delegatee" value
    issuedObservationSequence := ← naturalAt "issuedObservationSequence" value
    expiresObservationSequence := ← naturalAt "expiresObservationSequence" value
    nonce := ← textAt "nonce" value
    revocationSequence := ← nullableAt naturalOf "revocationSequence" value }

def readAuthorization (value : JsValue) : Option AuthoritativeAdmissionAuthorization := do
  return ⟨← (property "role" value).bind (namedBy principalRoles PrincipalRole.text),
    ← textAt "capabilityId" value, ← (property "capability" value).bind readCapability,
    ← textAt "grantDigest" value, ← flagAt "revoked" value⟩

def readQuota (value : JsValue) : Option AdmissionQuota := do
  return ⟨← textAt "id" value, ← textAt "digest" value, ← flagAt "available" value⟩

def readSealingAuthority (value : JsValue) : Option AdmissionSealingAuthorityV1 := do
  literalAt "schemaVersion" "1" value
  return ⟨← cursorAt "observationCursor" value, ← (property "fork" value).bind readForkPin,
    ← (property "scope" value).bind readScope, ← listAt readReceipt "receipts" value,
    ← (property "pinnedPolicy" value).bind readPolicySlot, ← listAt some "evidence" value⟩

def readCurrentAuthority (value : JsValue) : Option AdmissionCurrentAuthorityV1 := do
  literalAt "schemaVersion" "1" value
  return ⟨← cursorAt "evaluationObservationCursor" value,
    ← (property "currentPolicy" value).bind readPolicySlot,
    ← (property "authorization" value).bind readAuthorization,
    ← (property "quota" value).bind readQuota,
    ← textAt "authenticatedApproverPrincipalId" value, ← textAt "authorityTime" value⟩

end Readers

end Horseness.AuthoritySnapshots
