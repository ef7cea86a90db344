import Horseness.AdmissionService

/-!
The registry of forks. A fork is begun with its first pin and refreshed with pins that name the
one before them; the registry keeps all pins by their digest, and by fork the digest of the
active one. Every operation authenticates the snapshots of its capability first.
-/

namespace Horseness.ForkRegistry

open FallibleRuns Records ScriptText JsonValues ScriptEngine Canonical Cursors ForkContext Delta
  PlainObjects AdmissionService

inductive ForkError where
  | domain (error : DomainError)
  | invalidForkLineage
  | forkParentMismatch
  | forkRefreshContinuity
  | forkIdentityContinuity
  | forkAuthorityCursorInvalid
  | forkGrantInvalid
  | forkGrantRevoked
  | forkPinnedPolicySubstituted
  | forkCurrentPolicyInvalid
  | forkQuotaUnavailable
  | forkRefreshCasMismatch
  | forkReuseStale
  deriving DecidableEq

section Snapshots

structure ForkSourceSnapshotV1 where
  workspaceId : JsString
  runId : JsString
  observationCursor : CompositeCursorV1
  contextVersion : ContextVersionV1
  canonicalRevision : Nat
  canonicalStateHash : JsString
  dependencyJoinSnapshotDigest : JsString
  scope : DeltaAuthorityScopeV1
  pinnedPolicyDigest : JsString

def ForkSourceSnapshotV1.toJson (source : ForkSourceSnapshotV1) : JsValue :=
  object [("schemaVersion", .str (js "1")), ("workspaceId", .str source.workspaceId),
    ("runId", .str source.runId), ("observationCursor", source.observationCursor.toJson),
    ("contextVersion", source.contextVersion.toJson),
    ("canonicalRevision", natural source.canonicalRevision),
    ("canonicalStateHash", .str source.canonicalStateHash),
    ("dependencyJoinSnapshotDigest", .str source.dependencyJoinSnapshotDigest),
    ("scope", scopeJson source.scope), ("pinnedPolicyDigest", .str source.pinnedPolicyDigest)]

structure ForkAuthorizationSnapshotV1 where
  workspaceId : JsString
  runId : JsString
  observationCursor : CompositeCursorV1
  contextVersion : ContextVersionV1
  principalId : JsString
  grantDigest : JsString
  revoked : Bool
  pinnedPolicyDigest : JsString
  currentPolicyDigest : JsString
  quotaId : JsString
  quotaDigest : JsString
  quotaAvailable : Bool
  expectedActiveForkPinDigest : Option JsString

/-- The snapshot without the pin it expects, as `authenticate` digests it. -/
def ForkAuthorizationSnapshotV1.toJson (authorization : ForkAuthorizationSnapshotV1) : JsValue :=
  object [("schemaVersion", .str (js "1")), ("workspaceId", .str authorization.workspaceId),
    ("runId", .str authorization.runId),
    ("observationCursor", authorization.observationCursor.toJson),
    ("contextVersion", authorization.contextVersion.toJson),
    ("principalId", .str authorization.principalId),
    ("grantDigest", .str authorization.grantDigest), ("revoked", .bool authorization.revoked),
    ("pinnedPolicyDigest", .str authorization.pinnedPolicyDigest),
    ("currentPolicyDigest", .str authorization.currentPolicyDigest),
    ("quotaId", .str authorization.quotaId), ("quotaDigest", .str authorization.quotaDigest),
    ("quotaAvailable", .bool authorization.quotaAvailable)]

structure ForkAuthorityContextV1 where
  source : ForkSourceSnapshotV1
  authorization : ForkAuthorizationSnapshotV1

/-- A capability that was issued; what it was issued for is checked again at every use. -/
structure ForkAuthorityCapabilityV1 where
  context : ForkAuthorityContextV1

structure ForkAuthoritySnapshotIdentitiesV1 where
  sourceSnapshotDigest : JsString
  authorizationSnapshotDigest : JsString
  deriving DecidableEq

variable [Engine]

def sameJson (left right : JsValue) (code : ForkError) : Except ForkError Unit := do
  let first ← (canonicalJson left).mapError ForkError.domain
  let second ← (canonicalJson right).mapError ForkError.domain
  ensure (first = second) code

def deltaAuthorityScopeDigest (scope : DeltaAuthorityScopeV1) : Except DomainError JsString := do
  let canonical ← canonicalScope scope
  domainDigest (js "horseness.delta-authority-scope.v1") (scopeJson canonical)

def authenticate (capability : ForkAuthorityCapabilityV1) :
    Except ForkError ForkAuthoritySnapshotIdentitiesV1 := do
  let source := capability.context.source
  let authorization := capability.context.authorization
  let cursorsValid : Except DomainError Unit := do
    parseObservationCursorV1 (.composite source.observationCursor)
    parseObservationCursorV1 (.composite authorization.observationCursor)
    parseContextVersionV1 source.contextVersion
    parseContextVersionV1 authorization.contextVersion
  cursorsValid.mapError fun _ => ForkError.forkAuthorityCursorInvalid
  sameJson source.contextVersion.observationCursor.toJson source.observationCursor.toJson
    (.domain .contextVersionMismatch)
  sameJson authorization.contextVersion.observationCursor.toJson
    authorization.observationCursor.toJson (.domain .contextVersionMismatch)
  ensure (source.workspaceId = authorization.workspaceId ∧ source.runId = authorization.runId ∧
    source.observationCursor.workspaceId = source.workspaceId ∧
    source.observationCursor.runId = source.runId ∧
    authorization.observationCursor.workspaceId = authorization.workspaceId ∧
    authorization.observationCursor.runId = authorization.runId ∧
    source.scope.workspaceId = source.workspaceId ∧ source.scope.runId = source.runId)
    (.domain .capabilityScopeMismatch)
  ensure (authorization.principalId ≠ [] ∧ authorization.grantDigest ≠ []) .forkGrantInvalid
  ensure (authorization.revoked = false) .forkGrantRevoked
  ensure (authorization.pinnedPolicyDigest = source.pinnedPolicyDigest) .forkPinnedPolicySubstituted
  ensure (authorization.currentPolicyDigest ≠ []) .forkCurrentPolicyInvalid
  ensure (authorization.quotaId ≠ [] ∧ authorization.quotaDigest ≠ [] ∧
    authorization.quotaAvailable = true) .forkQuotaUnavailable
  let sourceSnapshotDigest ← (domainDigest (js "horseness.fork-source-snapshot.v1")
    source.toJson).mapError ForkError.domain
  let authorizationSnapshotDigest ← (domainDigest (js "horseness.fork-authorization-snapshot.v1")
    authorization.toJson).mapError ForkError.domain
  return ⟨sourceSnapshotDigest, authorizationSnapshotDigest⟩

end Snapshots

section Pins

variable [Engine]

/-- The fields of a pin that a refresh replaces. -/
structure ForkPinChanges where
  canonicalRevision : Nat
  canonicalStateHash : JsString
  sourceObservationCursor : CompositeCursorV1
  sourceContextVersion : ContextVersionV1
  dependencyJoinSnapshotDigest : JsString
  deltaAuthorityScopeDigest : JsString
  pinnedPolicyDigest : JsString
  createdByPrincipalId : JsString
  createdByGrantDigest : JsString

/-- A pin's core without its ancestry. -/
structure ForkPinDraft extends ForkPinChanges where
  forkId : JsString
  pinVersion : Nat
  workspaceId : JsString
  runId : JsString
  parentForkPinDigest : Option JsString
  refreshesForkPinDigest : Option JsString

def ForkPinDraft.core (draft : ForkPinDraft) (ancestry : List JsString) : ForkPinCoreV1 :=
  { forkId := draft.forkId
    pinVersion := draft.pinVersion
    workspaceId := draft.workspaceId
    runId := draft.runId
    parentForkPinDigest := draft.parentForkPinDigest
    refreshesForkPinDigest := draft.refreshesForkPinDigest
    canonicalRevision := draft.canonicalRevision
    canonicalStateHash := draft.canonicalStateHash
    sourceObservationCursor := draft.sourceObservationCursor
    sourceContextVersion := draft.sourceContextVersion
    dependencyJoinSnapshotDigest := draft.dependencyJoinSnapshotDigest
    deltaAuthorityScopeDigest := draft.deltaAuthorityScopeDigest
    pinnedPolicyDigest := draft.pinnedPolicyDigest
    ancestry := ancestry
    createdByPrincipalId := draft.createdByPrincipalId
    createdByGrantDigest := draft.createdByGrantDigest }

def createForkPin (draft : ForkPinDraft) :
    Option SealedForkPinV1 → Except ForkError SealedForkPinV1
  | none => do
      ensure (draft.parentForkPinDigest = none ∧ draft.refreshesForkPinDigest = none ∧
        draft.pinVersion = 1) .invalidForkLineage
      (sealForkPin (draft.core [])).mapError ForkError.domain
  | some parent => do
      (verifyForkPin parent).mapError ForkError.domain
      ensure (draft.parentForkPinDigest = some parent.forkPinDigest ∧
        draft.workspaceId = parent.core.workspaceId ∧ draft.runId = parent.core.runId)
        .forkParentMismatch
      let refresh := draft.refreshesForkPinDigest.isSome
      ensure (refresh = true → draft.refreshesForkPinDigest = some parent.forkPinDigest ∧
        draft.forkId = parent.core.forkId ∧ draft.pinVersion = parent.core.pinVersion + 1)
        .forkRefreshContinuity
      ensure (refresh = false → draft.forkId ≠ parent.core.forkId ∧ draft.pinVersion = 1)
        .forkIdentityContinuity
      (sealForkPin (draft.core (parent.core.ancestry ++ [parent.forkPinDigest]))).mapError
        ForkError.domain

def refreshForkPin (parent : SealedForkPinV1) (changes : ForkPinChanges) :
    Except ForkError SealedForkPinV1 := do
  (verifyForkPin parent).mapError ForkError.domain
  createForkPin { changes with
    forkId := parent.core.forkId
    pinVersion := parent.core.pinVersion + 1
    workspaceId := parent.core.workspaceId
    runId := parent.core.runId
    parentForkPinDigest := some parent.forkPinDigest
    refreshesForkPinDigest := some parent.forkPinDigest } (some parent)

end Pins

section Projection

structure ForkProjectionV1 where
  pins : Record JsString SealedForkPinV1
  activeByForkId : Record JsString JsString
  authoritySnapshotsByPin : Record JsString ForkAuthoritySnapshotIdentitiesV1

def emptyForkProjection : ForkProjectionV1 := ⟨∅, ∅, ∅⟩

def store (state : ForkProjectionV1) (pin : SealedForkPinV1)
    (identities : ForkAuthoritySnapshotIdentitiesV1) : ForkProjectionV1 :=
  { pins := state.pins.set pin.forkPinDigest pin
    activeByForkId := state.activeByForkId.set pin.core.forkId pin.forkPinDigest
    authoritySnapshotsByPin := state.authoritySnapshotsByPin.set pin.forkPinDigest identities }

def activePin (state : ForkProjectionV1) (forkId : JsString) : Option SealedForkPinV1 :=
  if truthy (state.activeByForkId.get forkId) then
    (state.activeByForkId.get forkId).bind state.pins.get
  else none

variable [Engine]

def pinInput (context : ForkAuthorityContextV1) : Except ForkError ForkPinChanges := do
  let scopeDigest ← (deltaAuthorityScopeDigest context.source.scope).mapError ForkError.domain
  return {
    canonicalRevision := context.source.canonicalRevision
    canonicalStateHash := context.source.canonicalStateHash
    sourceObservationCursor := context.source.observationCursor
    sourceContextVersion := context.source.contextVersion
    dependencyJoinSnapshotDigest := context.source.dependencyJoinSnapshotDigest
    deltaAuthorityScopeDigest := scopeDigest
    pinnedPolicyDigest := context.source.pinnedPolicyDigest
    createdByPrincipalId := context.authorization.principalId
    createdByGrantDigest := context.authorization.grantDigest }

def createProjectedFork (state : ForkProjectionV1) (forkId : JsString)
    (capability : ForkAuthorityCapabilityV1) :
    Except ForkError (ForkProjectionV1 × SealedForkPinV1) := do
  let identities ← authenticate capability
  let context := capability.context
  ensure (state.activeByForkId.get forkId = none ∧
    context.authorization.expectedActiveForkPinDigest = none) .forkIdentityContinuity
  let changes ← pinInput context
  let pin ← createForkPin { changes with
    forkId := forkId
    pinVersion := 1
    workspaceId := context.source.workspaceId
    runId := context.source.runId
    parentForkPinDigest := none
    refreshesForkPinDigest := none } none
  return (store state pin identities, pin)

def refreshProjectedFork (state : ForkProjectionV1) (forkId : JsString)
    (capability : ForkAuthorityCapabilityV1) :
    Except ForkError (ForkProjectionV1 × SealedForkPinV1) := do
  let identities ← authenticate capability
  let context := capability.context
  let parent ← required (activePin state forkId) .forkRefreshCasMismatch
  ensure (context.authorization.expectedActiveForkPinDigest = state.activeByForkId.get forkId)
    .forkRefreshCasMismatch
  (verifyForkPin parent).mapError ForkError.domain
  ensure (parent.core.workspaceId = context.source.workspaceId ∧
    parent.core.runId = context.source.runId) .forkParentMismatch
  let changes ← pinInput context
  let pin ← refreshForkPin parent changes
  return (store state pin identities, pin)

/-- The active pin, where the authority is as it was when the pin was made. -/
def reuseProjectedFork (state : ForkProjectionV1) (forkId : JsString)
    (capability : ForkAuthorityCapabilityV1) : Except ForkError SealedForkPinV1 := do
  let identities ← authenticate capability
  let source := capability.context.source
  let pin ← required (activePin state forkId) .forkReuseStale
  ensure (capability.context.authorization.expectedActiveForkPinDigest =
    state.activeByForkId.get forkId) .forkReuseStale
  (verifyForkPin pin).mapError ForkError.domain
  ensure (state.authoritySnapshotsByPin.get pin.forkPinDigest = some identities ∧
    pin.core.canonicalRevision = source.canonicalRevision ∧
    pin.core.canonicalStateHash = source.canonicalStateHash ∧
    pin.core.dependencyJoinSnapshotDigest = source.dependencyJoinSnapshotDigest) .forkReuseStale
  let scopeDigest ← (deltaAuthorityScopeDigest source.scope).mapError ForkError.domain
  ensure (pin.core.deltaAuthorityScopeDigest = scopeDigest ∧
    pin.core.pinnedPolicyDigest = source.pinnedPolicyDigest) .forkReuseStale
  sameJson pin.core.sourceObservationCursor.toJson source.observationCursor.toJson .forkReuseStale
  sameJson pin.core.sourceContextVersion.toJson source.contextVersion.toJson .forkReuseStale
  return pin

end Projection

end Horseness.ForkRegistry
