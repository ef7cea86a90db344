import Horseness.ServiceCommands
import Horseness.TaskGraphs
import Horseness.DispatchAuthority

/-!
The projection of the tasks of a run that schedulers read: contracts with their completion
predicates, dependency edges, the predicates that became durable and the resolutions.
-/

namespace Horseness.TaskProjections

open FallibleRuns Records ScriptText JsonValues ScriptEngine Canonical Cursors ForkContext Tasks
  ServiceCommands DispatchAuthority

section Contracts

inductive CompletionPredicateV1 where
  | receiptOnly
  | canonicalChange (proposalDigest acceptedEventDigest : JsString) (resultingRevision : Nat)
      (resultingStateHash : JsString)
  | artifactPublished (objectDigests publicationEventDigests : List JsString)
  | approvalRecorded (approvalId scopeDigest : JsString) (evaluationCursor : CompositeCursorV1)
      (expiresAt : JsString)
  deriving DecidableEq

def CompletionPredicateV1.toJson : CompletionPredicateV1 → JsValue
  | .receiptOnly => object [("kind", .str (js "receipt-only"))]
  | .canonicalChange proposalDigest acceptedEventDigest resultingRevision resultingStateHash =>
      object [("kind", .str (js "canonical-change")), ("proposalDigest", .str proposalDigest),
        ("acceptedEventDigest", .str acceptedEventDigest),
        ("resultingRevision", natural resultingRevision),
        ("resultingStateHash", .str resultingStateHash)]
  | .artifactPublished objectDigests publicationEventDigests =>
      object [("kind", .str (js "artifact-published")), ("objectDigests", texts objectDigests),
        ("publicationEventDigests", texts publicationEventDigests)]
  | .approvalRecorded approvalId scopeDigest evaluationCursor expiresAt =>
      object [("kind", .str (js "approval-recorded")), ("approvalId", .str approvalId),
        ("scopeDigest", .str scopeDigest), ("evaluationCursor", evaluationCursor.toJson),
        ("expiresAt", .str expiresAt)]

inductive TaskCompletionPolicyV1 where
  | predicate (single : CompletionPredicateV1)
  | all (predicates : List CompletionPredicateV1)
  deriving DecidableEq

def TaskCompletionPolicyV1.predicates : TaskCompletionPolicyV1 → List CompletionPredicateV1
  | .predicate single => [single]
  | .all predicates => predicates

structure TaskContractV1 where
  taskId : JsString
  contractDigest : JsString
  completionPolicy : TaskCompletionPolicyV1
  deriving DecidableEq

structure DurableTaskStateV1 where
  contract : TaskContractV1
  lifecycle : TaskLifecycle
  resolution : Option TaskResolution
  winningGeneration : Option Nat
  resolutionEventSequence : Option Nat
  resolutionDigest : Option JsString
  durablePredicateIds : List JsString
  deriving DecidableEq

structure TaskProjectionV1 where
  tasks : Record JsString DurableTaskStateV1
  edges : Record JsString DependencyEdgeV1

def emptyTaskProjection : TaskProjectionV1 := ⟨Record.empty, Record.empty⟩

inductive ProjectionError where
  | domain (failure : DomainError)
  | invalidReleasePredicate
  | invalidCompletionPolicy
  | predicateEventInvalid
  | predicateNotInContract
  | taskCompletionUnsatisfied
  | authorityProofInvalid
  | authorityCursorSubstituted
  | authorityUnread
  deriving DecidableEq

end Contracts

section Events

inductive DurablePredicatePayloadV1 where
  | deltaAccepted (proposalDigest : JsString) (resultingRevision : Nat)
      (resultingStateHash : JsString)
  | artifactPublished (objectDigests publicationEventDigests : List JsString)
  | approvalRecorded (approvalId scopeDigest : JsString) (evaluationCursor : CompositeCursorV1)
      (expiresAt : JsString)
  | bindingValidSelectedReceipt (receiptDigest : JsString) (generation : Nat)
      (attemptContextBindingDigest : JsString) (bindingValid selected : Bool)
      (outcome : AttemptTerminalState)

/-- An event that was issued from the head of the store. -/
structure VerifiedAuthorityEventV1 where
  taskId : JsString
  payload : DurablePredicatePayloadV1
  envelopeHash : JsString
  resultCursor : CompositeCursorV1

/-- The head event of a run, which is numbered from one and has the hash of its envelope. -/
structure StoredTaskResolvedCapabilityV1 where
  workspaceId : JsString
  runId : JsString
  taskId : JsString
  resolution : TaskResolution
  winningGeneration : Option Nat
  eventSequence : Nat
  eventDigest : JsString
  compositeCursor : CompositeCursorV1
  numbered : 1 ≤ eventSequence
  hashed : eventDigest ≠ []

end Events

section Operations

variable [Engine]

def completionPredicateIdentity (predicate : CompletionPredicateV1) : Except DomainError JsString :=
  domainDigest (js "horseness.task-completion-predicate.v1") predicate.toJson

def predicateIds (policy : TaskCompletionPolicyV1) : Except ProjectionError (List JsString) :=
  (policy.predicates.mapM completionPredicateIdentity).mapError .domain

def completionPolicySatisfied (policy : TaskCompletionPolicyV1)
    (durablePredicateIds : List JsString) : Except ProjectionError Bool := do
  ensure (policy.predicates ≠ []) .invalidCompletionPolicy
  policy.predicates.allM fun predicate => do
    let identity ← (completionPredicateIdentity predicate).mapError .domain
    return durablePredicateIds.contains identity

def requireTask (state : TaskProjectionV1) (taskId : JsString) (code : DomainError) :
    Except ProjectionError DurableTaskStateV1 :=
  required (state.tasks.get taskId) (.domain code)

def addTask (state : TaskProjectionV1) (contract : TaskContractV1) :
    Except ProjectionError TaskProjectionV1 := do
  ensure (contract.taskId ≠ [] ∧ contract.contractDigest ≠ [] ∧
    state.tasks.get contract.taskId = none) (.domain .taskIdentityConflict)
  let identities ← predicateIds contract.completionPolicy
  ensure (identities ≠ []) (.domain .taskIdentityConflict)
  return { state with
    tasks := state.tasks.set contract.taskId
      { contract := contract
        lifecycle := .draft
        resolution := none
        winningGeneration := none
        resolutionEventSequence := none
        resolutionDigest := none
        durablePredicateIds := [] } }

def validateGraph (state : TaskProjectionV1) : Except ProjectionError Unit := do
  let _ ← (state.tasks.keys.foldlM (fun visited task =>
    visitTask state.edges.values (state.tasks.keys.length + 1) [] task visited) []).mapError
      ProjectionError.domain
  return ()

/-- Only an edge that requires an outcome lists outcomes, each of them once. -/
def outcomesListed (edge : DependencyEdgeV1) : Prop :=
  if edge.edgeType = .requiresOutcome then
    edge.allowedOutcomes.getD [] ≠ [] ∧ (edge.allowedOutcomes.getD []).Nodup
  else edge.allowedOutcomes = none

instance (edge : DependencyEdgeV1) : Decidable (outcomesListed edge) :=
  inferInstanceAs (Decidable (if edge.edgeType = .requiresOutcome then
    edge.allowedOutcomes.getD [] ≠ [] ∧ (edge.allowedOutcomes.getD []).Nodup
    else edge.allowedOutcomes = none))

def addDependency (state : TaskProjectionV1) (edge : DependencyEdgeV1) :
    Except ProjectionError TaskProjectionV1 := do
  let source ← requireTask state edge.sourceTaskId .invalidDependency
  let dependent ← requireTask state edge.dependentTaskId .invalidDependency
  ensure (state.edges.get edge.edgeId = none ∧ source.lifecycle = .draft ∧
    dependent.lifecycle = .draft) (.domain .invalidDependency)
  let released ← predicateIds source.contract.completionPolicy
  ensure (edge.releasePredicate ∈ released) .invalidReleasePredicate
  ensure (outcomesListed edge) (.domain .invalidDependency)
  let next := { state with edges := state.edges.set edge.edgeId edge }
  validateGraph next
  return next

def activateTask (state : TaskProjectionV1) (taskId : JsString) :
    Except ProjectionError TaskProjectionV1 := do
  let current ← requireTask state taskId .illegalTaskTransition
  ensure (current.lifecycle = .draft) (.domain .illegalTaskTransition)
  return { state with tasks := state.tasks.set taskId { current with lifecycle := .active } }

def evaluatedBefore (evaluation result : CompositeCursorV1) : Prop :=
  evaluation.workspaceId = result.workspaceId ∧ evaluation.runId = result.runId ∧
    evaluation.workspaceSequence ≤ result.workspaceSequence ∧
    evaluation.runSequence < result.runSequence

instance (evaluation result : CompositeCursorV1) : Decidable (evaluatedBefore evaluation result) :=
  inferInstanceAs (Decidable (_ ∧ _))

def predicateFrom (event : VerifiedAuthorityEventV1) :
    Except ProjectionError CompletionPredicateV1 :=
  match event.payload with
  | .deltaAccepted proposalDigest resultingRevision resultingStateHash =>
      .ok (.canonicalChange proposalDigest event.envelopeHash resultingRevision resultingStateHash)
  | .artifactPublished objectDigests publicationEventDigests => do
      ensure (objectDigests ≠ [] ∧ publicationEventDigests ≠ []) .predicateEventInvalid
      return .artifactPublished objectDigests publicationEventDigests
  | .approvalRecorded approvalId scopeDigest evaluationCursor expiresAt => do
      ensure (Engine.dateParse expiresAt ≠ none ∧
        evaluatedBefore evaluationCursor event.resultCursor) .predicateEventInvalid
      return .approvalRecorded approvalId scopeDigest evaluationCursor expiresAt
  | .bindingValidSelectedReceipt receiptDigest generation attemptContextBindingDigest bindingValid
      selected outcome => do
      ensure (bindingValid = true ∧ selected = true ∧ outcome = .succeeded ∧ 1 ≤ generation ∧
        receiptDigest ≠ [] ∧ attemptContextBindingDigest ≠ []) .predicateEventInvalid
      return .receiptOnly

def added (ids : List JsString) (identity : JsString) : List JsString :=
  if identity ∈ ids then ids else ids ++ [identity]

def projectDurablePredicate (state : TaskProjectionV1) (event : VerifiedAuthorityEventV1) :
    Except ProjectionError TaskProjectionV1 := do
  let predicate ← predicateFrom event
  let current ← requireTask state event.taskId .illegalTaskTransition
  ensure (current.lifecycle = .active) (.domain .illegalTaskTransition)
  let identity ← (completionPredicateIdentity predicate).mapError .domain
  let contracted ← predicateIds current.contract.completionPolicy
  ensure (identity ∈ contracted) .predicateNotInContract
  return { state with
    tasks := state.tasks.set event.taskId { current with
      durablePredicateIds := added current.durablePredicateIds identity } }

def resolveProjectedTask (state : TaskProjectionV1) (capability : StoredTaskResolvedCapabilityV1) :
    Except ProjectionError TaskProjectionV1 := do
  let current ← requireTask state capability.taskId .illegalTaskTransition
  ensure (current.lifecycle = .active ∧ 1 ≤ capability.eventSequence ∧ capability.eventDigest ≠ [])
    (.domain .illegalTaskTransition)
  let satisfied ← completionPolicySatisfied current.contract.completionPolicy
    current.durablePredicateIds
  ensure (satisfied = true) .taskCompletionUnsatisfied
  return { state with
    tasks := state.tasks.set capability.taskId { current with
      lifecycle := .resolved capability.resolution
      resolution := some capability.resolution
      winningGeneration := capability.winningGeneration
      resolutionEventSequence := some capability.eventSequence
      resolutionDigest := some capability.eventDigest } }

inductive Operation where
  | addTask (contract : TaskContractV1)
  | addDependency (edge : DependencyEdgeV1)
  | activateTask (taskId : JsString)
  | projectDurablePredicate (event : VerifiedAuthorityEventV1)
  | resolveProjectedTask (capability : StoredTaskResolvedCapabilityV1)

def apply (state : TaskProjectionV1) : Operation → Except ProjectionError TaskProjectionV1
  | .addTask contract => TaskProjections.addTask state contract
  | .addDependency edge => TaskProjections.addDependency state edge
  | .activateTask taskId => TaskProjections.activateTask state taskId
  | .projectDurablePredicate event => TaskProjections.projectDurablePredicate state event
  | .resolveProjectedTask capability => TaskProjections.resolveProjectedTask state capability

def build (operations : List Operation) : Except ProjectionError TaskProjectionV1 :=
  operations.foldlM apply emptyTaskProjection

end Operations

section Authority

inductive AuthorityTruthV1 where
  | allowed
  | denied
  | unknown
  deriving DecidableEq

def AuthorityTruthV1.text : AuthorityTruthV1 → JsString
  | .allowed => js "allowed"
  | .denied => js "denied"
  | .unknown => js "unknown"

inductive RevocationState where
  | clear
  | revoked
  | unknown
  deriving DecidableEq

def RevocationState.text : RevocationState → JsString
  | .clear => js "clear"
  | .revoked => js "revoked"
  | .unknown => js "unknown"

inductive QuotaState where
  | available
  | exhausted
  | unknown
  deriving DecidableEq

def QuotaState.text : QuotaState → JsString
  | .available => js "available"
  | .exhausted => js "exhausted"
  | .unknown => js "unknown"

/-- Whether the task has an attempt, and one whose outcome nobody knows. -/
inductive AttemptOutcomeState where
  | absent
  | live
  | unknownOutcome
  deriving DecidableEq

def AttemptOutcomeState.text : AttemptOutcomeState → JsString
  | .absent => js "none"
  | .live => js "live"
  | .unknownOutcome => js "unknown_outcome"

inductive TaskAuthorityComponentKindV1 where
  | contract
  | policy
  | grantRevocation
  | quota
  | attemptOutcome
  deriving DecidableEq

def TaskAuthorityComponentKindV1.text : TaskAuthorityComponentKindV1 → JsString
  | .contract => js "contract"
  | .policy => js "policy"
  | .grantRevocation => js "grant-revocation"
  | .quota => js "quota"
  | .attemptOutcome => js "attempt-outcome"

def componentKinds : List TaskAuthorityComponentKindV1 :=
  [.contract, .policy, .grantRevocation, .quota, .attemptOutcome]

inductive TaskAuthorityComponentValueV1 where
  | contract (valid : Bool)
  | policy (state : AuthorityTruthV1)
  | grantRevocation (grantState : AuthorityTruthV1) (revocationState : RevocationState)
  | quota (state : QuotaState)
  | attemptOutcome (state : AttemptOutcomeState)
  deriving DecidableEq

def TaskAuthorityComponentValueV1.kind :
    TaskAuthorityComponentValueV1 → TaskAuthorityComponentKindV1
  | .contract _ => .contract
  | .policy _ => .policy
  | .grantRevocation _ _ => .grantRevocation
  | .quota _ => .quota
  | .attemptOutcome _ => .attemptOutcome

def TaskAuthorityComponentValueV1.toJson (value : TaskAuthorityComponentValueV1) : JsValue :=
  object (("kind", .str value.kind.text) :: match value with
    | .contract valid => [("valid", .bool valid)]
    | .policy state => [("state", .str state.text)]
    | .grantRevocation grantState revocationState =>
        [("grantState", .str grantState.text), ("revocationState", .str revocationState.text)]
    | .quota state => [("state", .str state.text)]
    | .attemptOutcome state => [("state", .str state.text)])

structure ProjectionProof where
  projectionName : JsString
  snapshotDigest : JsString
  replayDigest : JsString
  deriving DecidableEq

structure TaskAuthorityComponentSnapshotV1 where
  workspaceId : JsString
  runId : JsString
  taskId : JsString
  observationCursor : CompositeCursorV1
  value : TaskAuthorityComponentValueV1
  projectionProof : ProjectionProof
  deriving DecidableEq

structure TaskAuthorityProjectionV1 where
  observationCursor : CompositeCursorV1
  taskId : JsString
  components : List TaskAuthorityComponentSnapshotV1
  compositeDigest : JsString
  deriving DecidableEq

/-- The cursor of the view that is read and the states of its head snapshots by projection name;
nothing where reading throws. -/
structure TrustedAuthorityReader where
  authenticatedView : JsString → JsString → Option CompositeCursorV1
  exactRunHeadSnapshot : JsString → JsString → JsString → Option JsValue

structure TaskInput where
  workspaceId : JsString
  runId : JsString
  taskId : JsString

def projectionName (kind : TaskAuthorityComponentKindV1) : JsString :=
  js "task-authority/" ++ kind.text

def spelled {Item : Type} (text : Item → JsString) (items : List Item) (stored : Option JsValue) :
    Option Item :=
  items.find? fun item => textOf stored = some (text item)

def componentValue (state : JsValue) :
    TaskAuthorityComponentKindV1 → Option TaskAuthorityComponentValueV1
  | .contract =>
      match property "valid" state with
      | some (.bool valid) => some (.contract valid)
      | _ => none
  | .policy =>
      (spelled AuthorityTruthV1.text [.allowed, .denied, .unknown] (property "state" state)).map
        .policy
  | .grantRevocation => do
      let grantState ← spelled AuthorityTruthV1.text [.allowed, .denied, .unknown]
        (property "grantState" state)
      let revocationState ← spelled RevocationState.text [.clear, .revoked, .unknown]
        (property "revocationState" state)
      return .grantRevocation grantState revocationState
  | .quota =>
      (spelled QuotaState.text [.available, .exhausted, .unknown] (property "state" state)).map
        .quota
  | .attemptOutcome =>
      (spelled AttemptOutcomeState.text [.absent, .live, .unknownOutcome]
        (property "state" state)).map .attemptOutcome

variable [Engine]

def componentDigest (workspaceId runId taskId : JsString) (observationCursor : CompositeCursorV1)
    (value : TaskAuthorityComponentValueV1) : Except DomainError JsString :=
  domainDigest (js "horseness.task-authority-component.v1")
    (object [("schemaVersion", .str (js "1")), ("workspaceId", .str workspaceId),
      ("runId", .str runId), ("taskId", .str taskId),
      ("observationCursor", observationCursor.toJson), ("value", value.toJson)])

def replayDigest (kind : TaskAuthorityComponentKindV1) (observationCursor : CompositeCursorV1)
    (snapshotDigest : JsString) : Except DomainError JsString :=
  domainDigest (js "horseness.task-authority-replay-proof.v1")
    (object [("projectionName", .str (projectionName kind)), ("projectionVersion", .str (js "1")),
      ("observationCursor", observationCursor.toJson), ("snapshotDigest", .str snapshotDigest)])

def compositeDigest (observationCursor : CompositeCursorV1) (taskId : JsString)
    (components : List TaskAuthorityComponentSnapshotV1) : Except DomainError JsString :=
  domainDigest (js "horseness.task-authority-composite.v1")
    (object [("schemaVersion", .str (js "1")), ("observationCursor", observationCursor.toJson),
      ("taskId", .str taskId),
      ("componentDigests",
        texts (components.map fun component => component.projectionProof.snapshotDigest))])

def issueComponent (reader : TrustedAuthorityReader) (input : TaskInput)
    (cursor : CompositeCursorV1) (kind : TaskAuthorityComponentKindV1) :
    Except ProjectionError TaskAuthorityComponentSnapshotV1 := do
  let state ← required (reader.exactRunHeadSnapshot input.workspaceId input.runId
    (projectionName kind)) .authorityUnread
  ensure (textOf (property "taskId" state) = some input.taskId ∧
    textOf (property "kind" state) = some kind.text) .authorityProofInvalid
  let value ← required (componentValue state kind) .authorityProofInvalid
  let snapshotDigest ← (componentDigest input.workspaceId input.runId input.taskId cursor
    value).mapError ProjectionError.domain
  let replayed ← (replayDigest kind cursor snapshotDigest).mapError ProjectionError.domain
  return ⟨input.workspaceId, input.runId, input.taskId, cursor, value,
    ⟨projectionName kind, snapshotDigest, replayed⟩⟩

def checkComponent (observationCursor : CompositeCursorV1) (taskId : JsString)
    (component : TaskAuthorityComponentSnapshotV1) : Except ProjectionError Unit := do
  ensure (component.workspaceId = observationCursor.workspaceId ∧
    component.runId = observationCursor.runId ∧ component.taskId = taskId)
    .authorityCursorSubstituted
  let found ← (canonicalJson component.observationCursor.toJson).mapError ProjectionError.domain
  let expected ← (canonicalJson observationCursor.toJson).mapError ProjectionError.domain
  ensure (found = expected) .authorityCursorSubstituted
  let proof := component.projectionProof
  ensure (proof.projectionName = projectionName component.value.kind ∧
    proof.snapshotDigest ≠ [] ∧ proof.replayDigest ≠ []) .authorityProofInvalid
  let snapshotDigest ← (componentDigest component.workspaceId component.runId component.taskId
    component.observationCursor component.value).mapError ProjectionError.domain
  ensure (proof.snapshotDigest = snapshotDigest) .authorityProofInvalid
  let replayed ← (replayDigest component.value.kind component.observationCursor
    proof.snapshotDigest).mapError ProjectionError.domain
  ensure (proof.replayDigest = replayed) .authorityProofInvalid

def assembleTaskAuthorityProjection (projection : TaskAuthorityProjectionV1) :
    Except ProjectionError TaskAuthorityProjectionV1 := do
  ensure (projection.taskId ≠ [] ∧ projection.components.length = 5) .authorityProofInvalid
  forM projection.components (checkComponent projection.observationCursor projection.taskId)
  ensure ((projection.components.map fun component => component.value.kind).dedup.length = 5)
    .authorityProofInvalid
  let composite ← (compositeDigest projection.observationCursor projection.taskId
    projection.components).mapError ProjectionError.domain
  ensure (projection.compositeDigest = composite) .authorityProofInvalid
  return projection

def issueTaskAuthorityProjection (reader : TrustedAuthorityReader) (input : TaskInput) :
    Except ProjectionError TaskAuthorityProjectionV1 := do
  let cursor ← required (reader.authenticatedView input.workspaceId input.runId) .authorityUnread
  let components ← componentKinds.mapM (issueComponent reader input cursor)
  let composite ← (compositeDigest cursor input.taskId components).mapError ProjectionError.domain
  assembleTaskAuthorityProjection ⟨cursor, input.taskId, components, composite⟩

end Authority

section Joins

inductive ReasonCode where
  | contractInvalid
  | policyDenied
  | policyUnknown
  | grantDenied
  | grantUnknown
  | grantRevoked
  | revocationUnknown
  | quotaExhausted
  | quotaUnknown
  | attemptLive
  | attemptOutcomeUnknown
  | dependencyUnknown
  | dependencyUnsatisfied
  | cancellationPropagated
  deriving DecidableEq

def ReasonCode.text : ReasonCode → JsString
  | .contractInvalid => js "CONTRACT_INVALID"
  | .policyDenied => js "POLICY_DENIED"
  | .policyUnknown => js "POLICY_UNKNOWN"
  | .grantDenied => js "GRANT_DENIED"
  | .grantUnknown => js "GRANT_UNKNOWN"
  | .grantRevoked => js "GRANT_REVOKED"
  | .revocationUnknown => js "REVOCATION_UNKNOWN"
  | .quotaExhausted => js "QUOTA_EXHAUSTED"
  | .quotaUnknown => js "QUOTA_UNKNOWN"
  | .attemptLive => js "ATTEMPT_LIVE"
  | .attemptOutcomeUnknown => js "ATTEMPT_OUTCOME_UNKNOWN"
  | .dependencyUnknown => js "DEPENDENCY_UNKNOWN"
  | .dependencyUnsatisfied => js "DEPENDENCY_UNSATISFIED"
  | .cancellationPropagated => js "CANCELLATION_PROPAGATED"

def blockingReasons : List ReasonCode :=
  [.policyDenied, .policyUnknown, .grantDenied, .grantUnknown, .grantRevoked, .revocationUnknown,
    .quotaExhausted, .quotaUnknown]

def noted (condition : Prop) [Decidable condition] (code : ReasonCode) : List ReasonCode :=
  if condition then [code] else []

/-- What the five components of an authority say. -/
structure AuthorityValues where
  contractValid : Bool
  policy : AuthorityTruthV1
  grantState : AuthorityTruthV1
  revocationState : RevocationState
  quota : QuotaState
  attempt : AttemptOutcomeState
  deriving DecidableEq

def valueOf (components : List TaskAuthorityComponentSnapshotV1)
    (kind : TaskAuthorityComponentKindV1) : Option TaskAuthorityComponentValueV1 :=
  ((components.map fun component => component.value).filter fun value => value.kind = kind).getLast?

def authorityValues (components : List TaskAuthorityComponentSnapshotV1) : Option AuthorityValues :=
  match valueOf components .contract, valueOf components .policy,
    valueOf components .grantRevocation, valueOf components .quota,
    valueOf components .attemptOutcome with
  | some (.contract valid), some (.policy policy),
    some (.grantRevocation grantState revocationState), some (.quota quota),
    some (.attemptOutcome attempt) =>
      some ⟨valid, policy, grantState, revocationState, quota, attempt⟩
  | _, _, _, _, _ => none

def authorityReasons (values : AuthorityValues) : List ReasonCode :=
  noted (values.contractValid = false) .contractInvalid ++
    noted (values.policy = .denied) .policyDenied ++
    noted (values.policy = .unknown) .policyUnknown ++
    noted (values.grantState = .denied) .grantDenied ++
    noted (values.grantState = .unknown) .grantUnknown ++
    noted (values.revocationState = .revoked) .grantRevoked ++
    noted (values.revocationState = .unknown) .revocationUnknown ++
    noted (values.quota = .exhausted) .quotaExhausted ++
    noted (values.quota = .unknown) .quotaUnknown ++
    noted (values.attempt = .live) .attemptLive ++
    noted (values.attempt = .unknownOutcome) .attemptOutcomeUnknown

structure ReleasePredicate where
  sourceTaskId : JsString
  predicateIdentity : JsString
  deriving DecidableEq

structure SealedJoin where
  core : DependencyJoinSnapshotCoreV1
  digest : JsString
  id : JsString
  deriving DecidableEq

structure JoinEvaluationV1 where
  taskId : JsString
  schedulability : Schedulability
  cancellationPropagated : Bool
  reasonCodes : List JsString
  authoritySnapshotIdentities : List JsString
  dependencyReleasePredicates : List ReleasePredicate
  snapshot : SealedJoin
  deriving DecidableEq

structure JoinInput where
  taskId : JsString
  cursor : CompositeCursorV1
  authority : TaskAuthorityProjectionV1

/-- What the loop over the edges carries. -/
structure JoinRound where
  outcomes : Record JsString (DependencyOutcomeV1 × TaskResolution)
  unknown : Bool
  unsatisfied : Bool
  cancellationPropagated : Bool

def noRound : JoinRound := ⟨Record.empty, false, false, false⟩

/-- The outcome of a source that is resolved and has met the release predicate of the edge. -/
def releasedOutcome (source : DurableTaskStateV1) (edge : DependencyEdgeV1) :
    Option (DependencyOutcomeV1 × TaskResolution) :=
  match source.resolution, source.resolutionEventSequence, source.resolutionDigest with
  | some resolution, some sequence, some digest =>
      if sequence ≠ 0 ∧ digest ≠ [] ∧ edge.releasePredicate ∈ source.durablePredicateIds then
        some (⟨edge.edgeId, edge.edgeType, edge.sourceTaskId, sequence, digest,
          source.winningGeneration⟩, resolution)
      else none
  | _, _, _ => none

def edgeSatisfied (edge : DependencyEdgeV1) (resolution : TaskResolution) : Bool :=
  edge.edgeType = .requiresTerminal ||
    edge.edgeType = .requiresSuccess && resolution = .succeeded ||
    edge.edgeType = .requiresOutcome && (edge.allowedOutcomes.getD []).contains resolution

variable [Engine]

def joinEdge (state : TaskProjectionV1) (round : JoinRound) (edge : DependencyEdgeV1) :
    Except ProjectionError JoinRound := do
  let source ← requireTask state edge.sourceTaskId .taskNotFound
  match releasedOutcome source edge with
  | none => return { round with unknown := true }
  | some (outcome, resolution) =>
      return { round with
        outcomes := round.outcomes.set edge.edgeId (outcome, resolution)
        unsatisfied := round.unsatisfied || !edgeSatisfied edge resolution
        cancellationPropagated := round.cancellationPropagated ||
          (resolution = .cancelled && edge.propagateCancellation) }

def incoming (state : TaskProjectionV1) (taskId : JsString) : List DependencyEdgeV1 :=
  state.edges.values.filter fun edge => edge.dependentTaskId = taskId

def edgeBefore (left right : DependencyEdgeV1) : Prop :=
  Engine.localeCompare left.edgeId right.edgeId ≤ 0

instance (left right : DependencyEdgeV1) : Decidable (edgeBefore left right) :=
  inferInstanceAs (Decidable (_ ≤ _))

def joinSchedulability (lifecycle : TaskLifecycle) (values : AuthorityValues) (round : JoinRound)
    (reasons : List ReasonCode) : Schedulability :=
  match lifecycle with
  | .resolved _ => .terminal
  | .draft => .ineligible
  | .active =>
      if values.contractValid = false ∨ round.cancellationPropagated = true then .ineligible
      else if values.attempt = .unknownOutcome then .unknownOutcome
      else if values.attempt = .live then .running
      else if round.unknown = true ∨ round.unsatisfied = true ∨
          reasons.any (blockingReasons.contains ·) = true then .blocked
      else .ready

def joinEvaluationId (taskId : JsString) (cursor : CompositeCursorV1) : JsString :=
  js "join:" ++ taskId ++ js ":" ++ decimal cursor.workspaceSequence ++ js ":" ++
    decimal cursor.runSequence

def authorityAggregate (authority : TaskAuthorityProjectionV1) (cursor : CompositeCursorV1)
    (taskId : JsString) : Except ProjectionError AuthorityValues := do
  ensure (authority.taskId = taskId) .authorityCursorSubstituted
  let found ← (canonicalJson authority.observationCursor.toJson).mapError ProjectionError.domain
  let expected ← (canonicalJson cursor.toJson).mapError ProjectionError.domain
  ensure (found = expected) .authorityCursorSubstituted
  required (authorityValues authority.components) .authorityProofInvalid

def evaluateTaskJoin (state : TaskProjectionV1) (input : JoinInput) :
    Except ProjectionError JoinEvaluationV1 := do
  let task ← requireTask state input.taskId .taskNotFound
  let edges := (incoming state input.taskId).insertionSort edgeBefore
  let round ← edges.foldlM (joinEdge state) noRound
  let values ← authorityAggregate input.authority input.cursor input.taskId
  let reasons := authorityReasons values ++ noted (round.unknown = true) .dependencyUnknown ++
    noted (round.unsatisfied = true) .dependencyUnsatisfied ++
    noted (round.cancellationPropagated = true) .cancellationPropagated
  let schedulability := joinSchedulability task.lifecycle values round reasons
  let reasonCodes := (reasons.map ReasonCode.text).dedup.insertionSort (· ≤ ·)
  let join : DependencyJoinSnapshotCoreV1 :=
    { runId := input.cursor.runId
      taskId := input.taskId
      taskContractDigest := task.contract.contractDigest
      joinEvaluationId := joinEvaluationId input.taskId input.cursor
      joinObservationCursor := input.cursor
      dependencies := round.outcomes.values.map Prod.fst
      schedulability := schedulability
      reasonCodes := reasonCodes }
  let digest ← (sealDependencyJoinSnapshot join).mapError ProjectionError.domain
  return { taskId := input.taskId
           schedulability := schedulability
           cancellationPropagated := round.cancellationPropagated
           reasonCodes := reasonCodes
           authoritySnapshotIdentities := input.authority.components.map fun component =>
             component.projectionProof.snapshotDigest
           dependencyReleasePredicates := edges.map fun edge =>
             ⟨edge.sourceTaskId, edge.releasePredicate⟩
           snapshot := ⟨sealedJoin join, digest, digestId (js "djs_") digest⟩ }

end Joins

end Horseness.TaskProjections
