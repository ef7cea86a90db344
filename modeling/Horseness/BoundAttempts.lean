import Horseness.AuthoritySnapshots
import Horseness.SealedValues

/-!
Attempts bound to their context. Every transition seals a new value; the values that are
handed around are sealed ones, so no transition meets one that it has to refuse as untrusted.
-/

namespace Horseness.BoundAttempts

open FallibleRuns ScriptText JsonValues ScriptEngine Canonical Cursors ForkContext Tasks
  RecordedRuns SealedValues

/-- The codes of attempts, leases, dispatch records, receipts and recovery. -/
inductive DispatchError where
  | domain (error : DomainError)
  | attemptSchemaInvalid
  | attemptIdentityInvalid
  | attemptDigestMismatch
  | outcomeInvalid
  | bindingImmutable
  | leaseSchemaInvalid
  | leaseTimeInvalid
  | leaseDigestMismatch
  | leaseAttemptInvalid
  | leaseFenceStale
  | generationIdentityConflict
  | unauthenticatedReceiptEvent
  | receiptAuthorityInvalid
  | unknownAttemptGeneration
  | receiptBindingMismatch
  | receiptGrantMismatch
  | receiptOperationMismatch
  | dispatchRecordDigestMismatch
  | dispatchRecordInvalid
  | dispatchAttemptInvalid
  | dispatchBindingMismatch
  | providerIdInvalid
  | duplicateIntentMismatch
  | launchCancelled
  | providerBindingMismatch
  | dispatchCancelled
  | intentNotCommitted
  | providerDispatchInvalid
  | providerHandleInvalid
  | providerHandleMismatch
  | handlePreIntent
  | lookupPreIntent
  | cancellationNotRequested
  | dispatchReceiptMismatch
  | receiptPreIntent
  | dispatchReceiptConflict
  | recoveryStateSchemaInvalid
  | recoveryStateBindingMismatch
  /-- What an adapter threw. -/
  | provider
  deriving DecidableEq

inductive AttemptTransitionCodeV1 where
  | cancellationRequested
  | cancellationIdempotent
  | outcomeUnknown
  | outcomeRecorded
  deriving DecidableEq

inductive AttemptCancellationStateV1 where
  | none
  | requested
  | acknowledged
  deriving DecidableEq

inductive AttemptOutcomeV1 where
  | live
  | unknown
  | terminal (outcome : AttemptTerminalState)
  deriving DecidableEq

def AttemptCancellationStateV1.text : AttemptCancellationStateV1 → JsString
  | .none => js "none"
  | .requested => js "requested"
  | .acknowledged => js "acknowledged"

def AttemptOutcomeV1.text : AttemptOutcomeV1 → JsString
  | .live => js "live"
  | .unknown => js "unknown"
  | .terminal outcome => outcome.text

structure AttemptBindingV1 extends AttemptContextBindingV1 where
  bindingDigest : JsString
  deriving DecidableEq

structure BoundAttemptCoreV1 where
  workspaceId : JsString
  runId : JsString
  taskId : JsString
  attemptId : JsString
  generation : Nat
  schedulerDecisionDigest : JsString
  authorizationKey : JsString
  binding : AttemptBindingV1
  bindingDigest : JsString
  forkPinDigest : JsString
  contextManifestCoreDigest : JsString
  cancellation : AttemptCancellationStateV1
  outcome : AttemptOutcomeV1
  priorGeneration : Option Nat
  deriving DecidableEq

def AttemptBindingV1.toJson (binding : AttemptBindingV1) : JsValue :=
  withField "bindingDigest" (.str binding.bindingDigest) binding.toAttemptContextBindingV1.toJson

def BoundAttemptCoreV1.toJson (core : BoundAttemptCoreV1) : JsValue :=
  object [("schemaVersion", .str (js "1")), ("workspaceId", .str core.workspaceId),
    ("runId", .str core.runId), ("taskId", .str core.taskId), ("attemptId", .str core.attemptId),
    ("generation", natural core.generation),
    ("schedulerDecisionDigest", .str core.schedulerDecisionDigest),
    ("authorizationKey", .str core.authorizationKey), ("binding", core.binding.toJson),
    ("bindingDigest", .str core.bindingDigest), ("forkPinDigest", .str core.forkPinDigest),
    ("contextManifestCoreDigest", .str core.contextManifestCoreDigest),
    ("cancellation", .str core.cancellation.text), ("outcome", .str core.outcome.text),
    ("priorGeneration", nullable natural core.priorGeneration)]

def BoundAttemptCoreV1.requiredTexts (core : BoundAttemptCoreV1) : List JsString :=
  [core.workspaceId, core.runId, core.taskId, core.attemptId, core.schedulerDecisionDigest,
    core.authorizationKey, core.bindingDigest, core.forkPinDigest, core.contextManifestCoreDigest]

/-- What all values of one attempt generation have in common. -/
structure AttemptIdentity where
  attemptId : JsString
  generation : Nat
  bindingDigest : JsString
  deriving DecidableEq

def BoundAttemptCoreV1.identity (core : BoundAttemptCoreV1) : AttemptIdentity :=
  ⟨core.attemptId, core.generation, core.bindingDigest⟩

section Attempts

variable [Engine]

abbrev BoundAttemptV1 := Sealed (js "horseness.bound-attempt.v1") BoundAttemptCoreV1.toJson

def BoundAttemptV1.toJson (attempt : BoundAttemptV1) : JsValue :=
  withField "attemptDigest" (.str attempt.digest) attempt.core.toJson

structure AttemptTransitionResultV1 where
  code : AttemptTransitionCodeV1
  attempt : BoundAttemptV1

def sealAttempt (core : BoundAttemptCoreV1) : Except DispatchError BoundAttemptV1 :=
  (sealCore _ _ core).mapError .domain

def validateAttemptCore (core : BoundAttemptCoreV1) : Except DispatchError Unit := do
  ensure ((∀ text ∈ core.requiredTexts, text ≠ []) ∧ 1 ≤ core.generation ∧
    core.generation ≤ maxSafeInteger) .attemptSchemaInvalid
  ensure (∀ prior ∈ core.priorGeneration, 1 ≤ prior ∧ prior < core.generation) .attemptSchemaInvalid
  let bindingDigest ← (attemptContextBindingDigest
    core.binding.toAttemptContextBindingV1).mapError DispatchError.domain
  ensure (bindingDigest = core.bindingDigest ∧ core.binding.bindingDigest = core.bindingDigest ∧
    core.binding.attemptId = core.attemptId ∧ core.binding.generation = core.generation ∧
    core.binding.forkPinDigest = core.forkPinDigest ∧
    core.binding.contextManifestCoreDigest = core.contextManifestCoreDigest) .attemptIdentityInvalid

def rehydrateBoundAttempt (value : Serialized BoundAttemptCoreV1) :
    Except DispatchError BoundAttemptV1 := do
  let attempt ← sealAttempt value.core
  ensure (value.digest = attempt.digest) .attemptDigestMismatch
  validateAttemptCore value.core
  return attempt

/-- Neither cancellation nor an outcome changes an attempt that has its outcome. -/
def settled (attempt : BoundAttemptV1) : Prop :=
  attempt.core.outcome ≠ .live ∧ attempt.core.outcome ≠ .unknown

instance (attempt : BoundAttemptV1) : Decidable (settled attempt) :=
  inferInstanceAs (Decidable (_ ∧ _))

def requestAttemptCancellation (attempt : BoundAttemptV1) :
    Except DispatchError AttemptTransitionResultV1 :=
  if settled attempt ∨ attempt.core.cancellation ≠ .none then .ok ⟨.cancellationIdempotent, attempt⟩
  else do
    let cancelled ← sealAttempt { attempt.core with cancellation := .requested }
    return ⟨.cancellationRequested, cancelled⟩

def recordAttemptOutcome (attempt : BoundAttemptV1) (outcome : AttemptOutcomeV1) :
    Except DispatchError AttemptTransitionResultV1 :=
  if settled attempt then .ok ⟨.outcomeRecorded, attempt⟩
  else do
    ensure (outcome ≠ .live) .outcomeInvalid
    let recorded ← sealAttempt { attempt.core with
      outcome := outcome
      cancellation :=
        if outcome = .terminal .cancelled then .acknowledged else attempt.core.cancellation }
    return ⟨if outcome = .unknown then .outcomeUnknown else .outcomeRecorded, recorded⟩

/-- `canonicalJson(left) !== canonicalJson(right)` refuses. -/
def assertImmutableBinding (original candidate : BoundAttemptV1) : Except DispatchError Unit := do
  ensure (original.core.identity = candidate.core.identity) .bindingImmutable
  let before ← (canonicalJson original.core.binding.toJson).mapError DispatchError.domain
  let after ← (canonicalJson candidate.core.binding.toJson).mapError DispatchError.domain
  ensure (before = after) .bindingImmutable

theorem seal_attempt_ok_iff {core : BoundAttemptCoreV1} {attempt : BoundAttemptV1} :
    sealAttempt core = .ok attempt ↔ attempt.core = core := by
  rw [sealAttempt, map_error_ok_iff, seal_ok_iff]

theorem rehydrate_ok_iff {value : Serialized BoundAttemptCoreV1} {attempt : BoundAttemptV1} :
    rehydrateBoundAttempt value = .ok attempt ↔
      attempt.serialized = value ∧ validateAttemptCore value.core = .ok () := by
  simp only [rehydrateBoundAttempt, bind_ok_iff, seal_attempt_ok_iff, ensure_ok_iff, pure_ok_iff]
  constructor
  · rintro ⟨made, core, _, same, _, valid, rfl⟩
    refine ⟨?_, valid⟩
    rw [Sealed.serialized, core, ← same]
  · rintro ⟨rfl, valid⟩
    exact ⟨attempt, rfl, (), rfl, (), valid, rfl⟩

variable {attempt : BoundAttemptV1} {result : AttemptTransitionResultV1}

theorem live_outcome {outcome : AttemptOutcomeV1} (live : attempt.core.outcome = .live)
    (recorded : recordAttemptOutcome attempt outcome = .ok result) :
    outcome ≠ .live ∧ result.attempt.core.outcome = outcome ∧
      result.attempt.core.identity = attempt.core.identity ∧
      result.attempt.core.binding = attempt.core.binding := by
  rw [recordAttemptOutcome, if_neg (fun given => given.1 live)] at recorded
  simp only [bind_ok_iff, ensure_ok_iff, seal_attempt_ok_iff, pure_ok_iff] at recorded
  rcases recorded with ⟨_, other, made, core, rfl⟩
  rw [core]
  exact ⟨other, rfl, rfl, rfl⟩

end Attempts

section Recorded

variable [Engine]

def sampleAttempt : BoundAttemptCoreV1 :=
  let binding := sampleBinding (js "a") 1 (js "f") (js "m")
  let bindingDigest := finalOf [] (attemptContextBindingDigest binding)
  { workspaceId := js "w"
    runId := js "r"
    taskId := js "t"
    attemptId := js "a"
    generation := 1
    schedulerDecisionDigest := js "s"
    authorizationKey := js "k"
    binding := ⟨binding, bindingDigest⟩
    bindingDigest := bindingDigest
    forkPinDigest := js "f"
    contextManifestCoreDigest := js "m"
    cancellation := .none
    outcome := .live
    priorGeneration := none }

end Recorded

end Horseness.BoundAttempts
