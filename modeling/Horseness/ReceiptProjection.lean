import Horseness.BoundAttempts

/-!
The projection of receipts onto the generations of an attempt. A receipt is projected with the
authority that was issued together with it; what both say about the attempt has to agree.
-/

namespace Horseness.ReceiptProjection

open FallibleRuns Records ScriptText JsonValues ScriptEngine Canonical Cursors PlainObjects Tasks
  AttemptReceipts BoundAttempts

structure ReceiptGenerationOutcomeV1 where
  generation : Nat
  outcome : AttemptTerminalState
  receiptDigest : JsString
  receiptId : JsString
  terminalEventSequence : Nat
  deriving DecidableEq

structure TaskResolvedProjectionV1 where
  taskId : JsString
  resolution : TaskResolution
  winningGeneration : Option Nat
  resolutionEventSequence : Nat
  resolutionDigest : JsString
  deriving DecidableEq

structure AttemptReceiptProjectionV1 where
  attemptId : JsString
  taskId : Option JsString
  generations : Record Nat AttemptGenerationStateV1
  outcomes : Record Nat ReceiptGenerationOutcomeV1
  retryPermittedGenerations : List Nat
  explicitCancellationEventSequence : Option Nat
  resolution : Option TaskResolvedProjectionV1
  winningGeneration : Option Nat
  findings : List JsString

structure AttemptAuthorityBinding where
  attemptId : JsString
  generation : Nat
  digest : JsString
  contextManifestCoreDigest : JsString
  forkPinDigest : JsString
  providerId : JsString
  providerOperationId : JsString
  providerIdempotencyKeyDigest : JsString
  allowedProducerPrincipalId : JsString
  allowedProducerGrantDigest : JsString
  deriving DecidableEq

structure AttemptAuthorityGrant where
  principalId : JsString
  grantDigest : JsString
  revoked : Bool
  deriving DecidableEq

structure AttemptAuthorityDispatch where
  attemptId : JsString
  generation : Nat
  providerId : JsString
  providerOperationId : JsString
  providerIdempotencyKeyDigest : JsString
  providerHandle : Option JsString
  deriving DecidableEq

structure AttemptAuthorityInputV1 where
  binding : AttemptAuthorityBinding
  providerHandle : Option JsString
  grant : AttemptAuthorityGrant
  dispatch : AttemptAuthorityDispatch
  deriving DecidableEq

/-- What is asked of an authority before it is issued with a receipt. -/
def issuable (authority : AttemptAuthorityInputV1) : Prop :=
  authority.grant.revoked = false ∧
    authority.grant.principalId = authority.binding.allowedProducerPrincipalId ∧
    authority.grant.grantDigest = authority.binding.allowedProducerGrantDigest ∧
    authority.dispatch = ⟨authority.binding.attemptId, authority.binding.generation,
      authority.binding.providerId, authority.binding.providerOperationId,
      authority.binding.providerIdempotencyKeyDigest, authority.providerHandle⟩

instance (authority : AttemptAuthorityInputV1) : Decidable (issuable authority) :=
  inferInstanceAs (Decidable (_ ∧ _))

structure VerifiedAttemptAuthorityV1 extends AttemptAuthorityInputV1 where
  issued : issuable toAttemptAuthorityInputV1

def findingText : FindingCode → JsString
  | .lateTerminalReceipt => js "LATE_TERMINAL_RECEIPT"
  | .conflictingLateTerminalReceipt => js "CONFLICTING_LATE_TERMINAL_RECEIPT"
  | .conflictingProviderHandle => js "CONFLICTING_PROVIDER_HANDLE"
  | .lateDispatchFact => js "LATE_DISPATCH_FACT"

def findings (values : List JsString) : List JsString := values.dedup.insertionSort (· ≤ ·)

def emptyReceiptProjection (attemptId : JsString) :
    Except DispatchError AttemptReceiptProjectionV1 := do
  ensure (attemptId ≠ []) (.domain .invalidAttemptState)
  return {
    attemptId := attemptId
    taskId := none
    generations := ∅
    outcomes := ∅
    retryPermittedGenerations := []
    explicitCancellationEventSequence := none
    resolution := none
    winningGeneration := none
    findings := [] }

def registerReceiptGeneration (state : AttemptReceiptProjectionV1)
    (generation : AttemptGenerationStateV1) : Except DispatchError AttemptReceiptProjectionV1 := do
  ensure (generation.attemptId = state.attemptId ∧ 1 ≤ generation.generation ∧
    generation.bindingDigest ≠ [] ∧ generation.idempotencyKeyDigest ≠ [])
    (.domain .invalidAttemptState)
  ensure (∀ prior ∈ state.generations.get generation.generation,
    prior.bindingDigest = generation.bindingDigest ∧
      prior.idempotencyKeyDigest = generation.idempotencyKeyDigest) .generationIdentityConflict
  return { state with generations := state.generations.set generation.generation generation }

section Outcomes

def outcomeBefore (left right : ReceiptGenerationOutcomeV1) : Prop :=
  left.terminalEventSequence < right.terminalEventSequence ∨
    (left.terminalEventSequence = right.terminalEventSequence ∧ left.generation ≤ right.generation)

instance (left right : ReceiptGenerationOutcomeV1) : Decidable (outcomeBefore left right) :=
  inferInstanceAs (Decidable (_ ∨ _))

def firstOutcome (state : AttemptReceiptProjectionV1) (outcome : AttemptTerminalState) : Option Nat :=
  (((state.outcomes.values.filter fun item => item.outcome = outcome).insertionSort
    outcomeBefore).head?).map ReceiptGenerationOutcomeV1.generation

def retryPending (state : AttemptReceiptProjectionV1) : Bool :=
  state.retryPermittedGenerations.any fun generation =>
    (state.outcomes.get generation).any fun item => item.outcome = .failed

variable [Engine]

def resolved (state : AttemptReceiptProjectionV1) (resolution : TaskResolution)
    (winningGeneration : Option Nat) (eventSequence : Nat) :
    Except DispatchError AttemptReceiptProjectionV1 :=
  if truthy state.taskId = false then .ok state
  else do
    let taskId := state.taskId.getD []
    let resolutionDigest ← (domainDigest (js "horseness.task-resolved-projection.v1")
      (object [("taskId", .str taskId), ("resolution", .str resolution.text),
        ("winningGeneration", nullable natural winningGeneration),
        ("resolutionEventSequence", natural eventSequence)])).mapError DispatchError.domain
    return { state with
      resolution := some ⟨taskId, resolution, winningGeneration, eventSequence, resolutionDigest⟩
      winningGeneration := winningGeneration }

def resolve (state : AttemptReceiptProjectionV1) (eventSequence : Nat) :
    Except DispatchError AttemptReceiptProjectionV1 :=
  if state.resolution.isSome then .ok state
  else
    match firstOutcome state .succeeded, state.explicitCancellationEventSequence with
    | some winner, _ => resolved state .succeeded (some winner) eventSequence
    | none, some cancelled => resolved state .cancelled none cancelled
    | none, none =>
        if state.generations.entries = [] ∨
            state.generations.values.any (fun item => !isTerminal item.state) ∨
            retryPending state then .ok state
        else
          match firstOutcome state .cancelled with
          | some winner => resolved state .cancelled (some winner) eventSequence
          | none => resolved state .failed none eventSequence

end Outcomes

section Receipts

variable [Engine]

structure VerifiedReceiptEventV1 where
  eventSequence : Nat
  eventDigest : JsString
  authenticatedPrincipalId : JsString
  receipt : AttemptReceiptEnvelopeV1
  recorded : 1 ≤ eventSequence
  verified : verifyAttemptReceipt receipt = .ok ()

/-- Receipt and authority were issued for one generation. The identity that either was issued
with is that of the generation it names. -/
def sameIdentity (event : VerifiedReceiptEventV1) (authority : VerifiedAttemptAuthorityV1) : Prop :=
  event.receipt.attemptId = authority.binding.attemptId ∧
    event.receipt.generation = authority.binding.generation

instance (event : VerifiedReceiptEventV1) (authority : VerifiedAttemptAuthorityV1) :
    Decidable (sameIdentity event authority) := inferInstanceAs (Decidable (_ ∧ _))

def validateAuthority (event : VerifiedReceiptEventV1) (authority : VerifiedAttemptAuthorityV1)
    (state : AttemptReceiptProjectionV1) : Except DispatchError AttemptGenerationStateV1 := do
  let receipt := event.receipt
  let binding := authority.binding
  ensure (sameIdentity event authority) .unauthenticatedReceiptEvent
  (verifyAttemptReceipt receipt).mapError DispatchError.domain
  ensure (1 ≤ event.eventSequence ∧ event.eventDigest ≠ []) .unauthenticatedReceiptEvent
  ensure (receipt.attemptId = state.attemptId ∧ receipt.attemptId = binding.attemptId ∧
    receipt.generation = binding.generation) (.domain .receiptMismatch)
  let generation ← required (state.generations.get receipt.generation) .unknownAttemptGeneration
  ensure (generation.bindingDigest = binding.digest ∧
    receipt.attemptContextBindingDigest = binding.digest ∧
    receipt.contextManifestCoreDigest = binding.contextManifestCoreDigest ∧
    receipt.forkPinDigest = binding.forkPinDigest) .receiptBindingMismatch
  ensure (receipt.producerPrincipalId = event.authenticatedPrincipalId ∧
    receipt.producerPrincipalId = binding.allowedProducerPrincipalId ∧
    receipt.producerGrantDigest = authority.grant.grantDigest ∧
    receipt.producerGrantDigest = binding.allowedProducerGrantDigest) .receiptGrantMismatch
  ensure (receipt.providerId = binding.providerId ∧
    receipt.providerOperationId = binding.providerOperationId ∧
    receipt.providerIdempotencyKeyDigest = binding.providerIdempotencyKeyDigest ∧
    generation.idempotencyKeyDigest = binding.providerIdempotencyKeyDigest) .receiptOperationMismatch
  return generation

def projectAuthenticatedReceipt (state : AttemptReceiptProjectionV1) (event : VerifiedReceiptEventV1)
    (authority : VerifiedAttemptAuthorityV1) : Except DispatchError AttemptReceiptProjectionV1 := do
  let receipt := event.receipt
  let generation ← validateAuthority event authority state
  match state.outcomes.get receipt.generation with
  | some prior =>
      let code := if prior.receiptDigest = receipt.receiptDigest then js "DUPLICATE_RECEIPT"
        else js "RECEIPT_TERMINAL_CONFLICT"
      return { state with findings := findings (state.findings ++ [code]) }
  | none =>
      if state.resolution.isSome then
        return { state with
          findings := findings (state.findings ++ [js "LATE_GENERATION_RECEIPT"]) }
      else do
        let reduced ← (reduceDispatch generation (.terminalReceipt receipt.outcome
          event.eventSequence authority.providerHandle)).mapError DispatchError.domain
        let generations := state.generations.set reduced.generation reduced
        if isTerminal reduced.state = false ∨
            reduced.terminalEventSequence ≠ some event.eventSequence then
          return { state with
            generations := generations
            findings := findings (state.findings ++ reduced.findingCodes.map findingText) }
        else do
          let taskId := state.taskId.getD receipt.taskId
          ensure (taskId = receipt.taskId) (.domain .receiptMismatch)
          resolve { state with
            taskId := some taskId
            generations := generations
            outcomes := state.outcomes.set reduced.generation
              { generation := reduced.generation
                outcome := receipt.outcome
                receiptDigest := receipt.receiptDigest
                receiptId := receipt.receiptId
                terminalEventSequence := event.eventSequence } } event.eventSequence

variable {event : VerifiedReceiptEventV1} {authority : VerifiedAttemptAuthorityV1}
  {state projected : AttemptReceiptProjectionV1} {generation : AttemptGenerationStateV1}

theorem verified_operation {receipt : AttemptReceiptEnvelopeV1}
    (verified : verifyAttemptReceipt receipt = .ok ()) : receipt.providerOperationId ≠ [] := by
  simp only [verifyAttemptReceipt, bind_ok_iff] at verified
  rcases verified with ⟨_, _, _, _, _, valid, _⟩
  simp only [validateAttemptReceiptCore, check_ok_iff, List.forM_eq_forM, forM_ok_iff] at valid
  have named := valid.1 receipt.providerOperationId
    (by simp [AttemptReceiptCoreV1.requiredTexts])
  simpa [receiptText, nonEmpty] using named

-- What an authority that is projected with a receipt says about its operation.
theorem projected_operation (accepted : projectAuthenticatedReceipt state event authority = .ok projected) :
    event.receipt.providerOperationId = authority.binding.providerOperationId ∧
      authority.binding.providerOperationId ≠ [] := by
  rw [projectAuthenticatedReceipt, bind_ok_iff] at accepted
  rcases accepted with ⟨generation, valid, _⟩
  simp only [validateAuthority, bind_ok_iff, ensure_ok_iff] at valid
  rcases valid with ⟨_, _, _, _, _, _, _, _, _, _, _, _, _, _, _, ⟨_, operation, _⟩, _⟩
  exact ⟨operation, operation ▸ verified_operation event.verified⟩

end Receipts

end Horseness.ReceiptProjection
