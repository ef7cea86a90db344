import Horseness.Proposals
import Horseness.DispatchAuthority

/-!
The phases of a worker: evidence is published, then receipts are accepted, then one proposal is
submitted that seals both. Each call checks the phase before it waits for the coordinator and
writes it when the answer has come, so calls whose answers come late write over a later phase.
-/

namespace Horseness.WorkerPhases

open FallibleRuns Records ScriptText JsonValues ScriptEngine Canonical Cursors ForkContext
  AttemptReceipts Proposals DispatchAuthority

structure WorkerBindingV1 where
  workspaceId : JsString
  runId : JsString
  taskId : JsString
  attemptId : JsString
  generation : Nat
  forkPin : SealedForkPinV1
  manifest : ContextManifestCoreV1
  contextBinding : AttemptContextBindingV1
  providerId : JsString
  providerIdempotencyKeyDigest : JsString
  observationCursor : CompositeCursorV1

inductive SdkErrorCode where
  | invalidBinding
  | invalidResponse
  | scopeSubstitution
  deriving DecidableEq

/-- A thrown `SdkError` with its message, or an error of the domain. -/
inductive WorkerFailure where
  | sdk (code : SdkErrorCode) (message : String)
  | domain (code : DomainError)
  deriving DecidableEq

inductive ProposalPhase where
  | publishingEvidence
  | acceptingReceipts
  | submitted
  deriving DecidableEq

structure WorkerClientV1 where
  binding : WorkerBindingV1
  acceptedReceipts : Record JsString AttemptReceiptEnvelopeV1
  publishedEvidence : Record JsString EvidenceClaim
  proposalPhase : ProposalPhase

/-- The members of a publication that its answer is compared with. -/
structure ArtifactPublicationV1 where
  artifactId : JsString
  contentDigest : JsString

/-- The calls that read or write the phase. -/
inductive WorkerCall where
  | publishEvidence (evidence : ArtifactPublicationV1) (claim : JsString)
  | submitReceipt (receipt : AttemptReceiptEnvelopeV1)
  | submitProposal (proposal : ProposalEnvelopeV1)

section Client

variable [Engine]

def assertBinding (binding : WorkerBindingV1) : Except WorkerFailure Unit := do
  let unverified := WorkerFailure.sdk .invalidBinding "worker binding failed domain verification"
  (verifyForkPin binding.forkPin).mapError fun _ => unverified
  let manifestDigest ← (contextManifestCoreDigest binding.manifest).mapError fun _ => unverified
  let _ ← (attemptContextBindingDigest binding.contextBinding).mapError fun _ => unverified
  ensure (1 ≤ binding.generation ∧ binding.providerId ≠ [] ∧
    binding.providerIdempotencyKeyDigest ≠ [] ∧
    binding.forkPin.core.workspaceId = binding.workspaceId ∧
    binding.forkPin.core.runId = binding.runId ∧
    binding.manifest.workspaceId = binding.workspaceId ∧
    binding.manifest.runId = binding.runId ∧ binding.manifest.attemptId = binding.attemptId ∧
    binding.manifest.generation = binding.generation ∧
    binding.manifest.forkPinDigest = binding.forkPin.forkPinDigest ∧
    binding.contextBinding.attemptId = binding.attemptId ∧
    binding.contextBinding.generation = binding.generation ∧
    binding.contextBinding.forkPinDigest = binding.forkPin.forkPinDigest ∧
    binding.contextBinding.contextManifestCoreDigest = manifestDigest ∧
    binding.contextBinding.providerIdempotencyKey ≠ [] ∧
    binding.observationCursor.workspaceId = binding.workspaceId ∧
    binding.observationCursor.runId = binding.runId ∧
    binding.contextBinding.sourceObservationCursor = binding.manifest.sourceObservationCursor)
    (.sdk .invalidBinding "worker identities are not an immutable coherent binding")

def WorkerClientV1.create (binding : WorkerBindingV1) : Except WorkerFailure WorkerClientV1 := do
  assertBinding binding
  return ⟨binding, .empty, .empty, .publishingEvidence⟩

def assertReceipt (client : WorkerClientV1) (receipt : AttemptReceiptEnvelopeV1) :
    Except WorkerFailure Unit := do
  let binding := client.binding
  let manifestDigest ← (contextManifestCoreDigest binding.manifest).mapError .domain
  let bindingDigest ← (attemptContextBindingDigest binding.contextBinding).mapError .domain
  ensure (receipt.workspaceId = binding.workspaceId ∧ receipt.runId = binding.runId ∧
    receipt.taskId = binding.taskId ∧ receipt.attemptId = binding.attemptId ∧
    receipt.generation = binding.generation ∧
    receipt.forkPinDigest = binding.forkPin.forkPinDigest ∧
    receipt.contextManifestCoreDigest = manifestDigest ∧
    receipt.attemptContextBindingDigest = bindingDigest ∧
    receipt.providerId = binding.providerId ∧
    receipt.providerIdempotencyKeyDigest = binding.providerIdempotencyKeyDigest ∧
    receipt.producerPrincipalId = binding.contextBinding.allowedProducerPrincipalId ∧
    receipt.producerGrantDigest = binding.contextBinding.allowedProducerGrantDigest)
    (.sdk .scopeSubstitution "receipt differs from immutable worker binding")

def WorkerClientV1.receiptDigests (client : WorkerClientV1) : List JsString :=
  client.acceptedReceipts.keys.insertionSort (· ≤ ·)

def WorkerClientV1.evidenceClaims (client : WorkerClientV1) : List EvidenceClaim :=
  client.publishedEvidence.values.insertionSort claimBefore

/-- The proposal names the accepted receipts and the published evidence, and nothing else. -/
def SealsAccepted (client : WorkerClientV1) (proposal : ProposalEnvelopeV1) : Prop :=
  proposal.core.receiptDigests = client.receiptDigests ∧
    proposal.core.evidenceClaims = client.evidenceClaims

instance (client : WorkerClientV1) (proposal : ProposalEnvelopeV1) :
    Decidable (SealsAccepted client proposal) := instDecidableAnd

def assertProposal (client : WorkerClientV1) (proposal : ProposalEnvelopeV1) :
    Except WorkerFailure Unit := do
  let binding := client.binding
  let core := proposal.core
  let pin := binding.forkPin
  ensure (core.workspaceId = binding.workspaceId ∧ core.runId = binding.runId ∧
    core.attemptId = binding.attemptId ∧ core.forkPinDigest = pin.forkPinDigest ∧
    core.deltaAuthorityScopeDigest = pin.core.deltaAuthorityScopeDigest ∧
    core.pinnedPolicyDigest = pin.core.pinnedPolicyDigest ∧
    core.currentPolicyDigest = binding.manifest.authorizationOverlayV1.policyDigest ∧
    core.authorPrincipalId = binding.contextBinding.allowedProducerPrincipalId ∧
    core.authorGrantDigest = binding.contextBinding.allowedProducerGrantDigest ∧
    core.baseRevision = pin.core.canonicalRevision ∧
    core.baseStateHash = pin.core.canonicalStateHash ∧
    core.proposalSealingObservationCursor = binding.observationCursor ∧
    core.proposalSealingContextVersion = binding.contextBinding.authorizationContextVersion ∧
    SealsAccepted client proposal)
    (.sdk .scopeSubstitution
      "proposal differs from exact publication, receipt, sealing, policy, or authority binding")

end Client

section Calls

variable [Engine] (client : WorkerClientV1)

def publishEvidence (claim : JsString) : Except WorkerFailure Unit := do
  ensure (client.proposalPhase = .publishingEvidence)
    (.sdk .invalidBinding "evidence must be published before receipts are accepted")
  ensure (claim ≠ []) (.sdk .invalidBinding "evidence claim must be non-empty")

def submitReceipt (receipt : AttemptReceiptEnvelopeV1) : Except WorkerFailure Unit := do
  ensure (client.proposalPhase ≠ .submitted)
    (.sdk .invalidBinding "proposal submission is already sealed")
  (verifyAttemptReceipt receipt).mapError .domain
  assertReceipt client receipt

def submitProposal (proposal : ProposalEnvelopeV1) : Except WorkerFailure Unit := do
  ensure (client.proposalPhase = .acceptingReceipts) (.sdk .invalidBinding
    "proposal requires at least one accepted receipt after evidence publication")
  (verifyProposal proposal).mapError .domain
  assertProposal client proposal

def begin : WorkerCall → Except WorkerFailure Unit
  | .publishEvidence _ claim => publishEvidence client claim
  | .submitReceipt receipt => submitReceipt client receipt
  | .submitProposal proposal => submitProposal client proposal

omit [Engine] in
/-- What a call does with the value of its answer; the phase is not looked at again. -/
def finish (value : JsValue) : WorkerCall → Except WorkerFailure WorkerClientV1
  | .publishEvidence evidence claim => do
      ensure (textOf (property "status" value) = some (js "accepted") ∧
        textOf (property "artifactId" value) = some evidence.artifactId ∧
        textOf (property "publishedDigest" value) = some evidence.contentDigest)
        (.sdk .invalidResponse "evidence publication was not accepted with its bound digest")
      return { client with
        publishedEvidence := client.publishedEvidence.set evidence.contentDigest
          ⟨evidence.contentDigest, claim⟩ }
  | .submitReceipt receipt => return { client with
      acceptedReceipts := client.acceptedReceipts.set receipt.receiptDigest receipt
      proposalPhase := .acceptingReceipts }
  | .submitProposal _ => return { client with proposalPhase := .submitted }

end Calls

/-- A client, its calls that wait for an answer, and those that have succeeded, in order. -/
structure WorkerState where
  client : WorkerClientV1
  waiting : List WorkerCall
  succeeded : List WorkerCall

/-- A call is made, or the coordinator answers one that waits, or fails it. -/
inductive WorkerEvent where
  | made (call : WorkerCall)
  | answered (index : Nat) (value : JsValue)
  | failed (index : Nat)

/-- A call that throws at once is no event; an answer that is refused ends its call. -/
def advance [Engine] (state : WorkerState) : WorkerEvent → Except WorkerFailure WorkerState
  | .made call => do
      begin state.client call
      return { state with waiting := state.waiting ++ [call] }
  | .answered index value =>
      match state.waiting[index]? with
      | none => .ok state
      | some call =>
          let rest := state.waiting.eraseIdx index
          match finish state.client value call with
          | .ok client => .ok ⟨client, rest, state.succeeded ++ [call]⟩
          | .error _ => .ok { state with waiting := rest }
  | .failed index => .ok { state with waiting := state.waiting.eraseIdx index }

def WorkerState.start (client : WorkerClientV1) : WorkerState := ⟨client, [], []⟩

section Stages

def ProposalPhase.stage : ProposalPhase → Nat
  | .publishingEvidence => 0
  | .acceptingReceipts => 1
  | .submitted => 2

def WorkerCall.stage : WorkerCall → Nat
  | .publishEvidence _ _ => 0
  | .submitReceipt _ => 1
  | .submitProposal _ => 2

def WorkerCall.isProposal : WorkerCall → Bool
  | .submitProposal _ => true
  | _ => false

/-- No call of an earlier phase comes after the other, and nothing after a proposal. -/
def MayFollow (first later : WorkerCall) : Prop :=
  first.stage ≤ later.stage ∧ first.isProposal = false

variable [Engine]

/-- Evidence came before receipts and receipts before the one proposal, with which the phase ends;
the proposal seals what was accepted. -/
structure SealedOnce (state : WorkerState) : Prop where
  ordered : state.succeeded.Pairwise MayFollow
  submitted : (∃ call ∈ state.succeeded, call.isProposal = true) →
    state.client.proposalPhase = .submitted
  exact : ∀ proposal, .submitProposal proposal ∈ state.succeeded →
    SealsAccepted state.client proposal

/-- The client is still in a state in which the call can be taken up. -/
def Fits (client : WorkerClientV1) : WorkerCall → Prop
  | .publishEvidence _ _ => client.proposalPhase = .publishingEvidence
  | .submitReceipt _ => client.proposalPhase ≠ .submitted
  | .submitProposal proposal =>
      client.proposalPhase = .acceptingReceipts ∧ SealsAccepted client proposal

/-- The call that is answered fits the client as it is when the answer comes. -/
def Timely (state : WorkerState) : WorkerEvent → Prop
  | .answered index _ => ∀ call, state.waiting[index]? = some call → Fits state.client call
  | _ => True

/-- The invariant: no call that has succeeded is ahead of the phase. -/
structure Phased (state : WorkerState) : Prop where
  sealed : SealedOnce state
  within : ∀ call ∈ state.succeeded, call.stage ≤ state.client.proposalPhase.stage

end Stages

section Runs

variable [Engine] {client after : WorkerClientV1} {state next : WorkerState} {call : WorkerCall}
  {value : JsValue}

-- A call that fits is not behind the phase, which is the call's own afterwards.
theorem fits_stage (fits : Fits client call) (done : finish client value call = .ok after) :
    client.proposalPhase.stage ≤ call.stage ∧ client.proposalPhase ≠ .submitted ∧
      call.stage = after.proposalPhase.stage := by
  cases call with
  | publishEvidence evidence claim =>
      rw [finish, check_ok_iff, pure_ok_iff] at done
      rcases done with ⟨_, rfl⟩
      rw [Fits] at fits
      simp [fits, WorkerCall.stage, ProposalPhase.stage]
  | submitReceipt receipt =>
      rw [finish, pure_ok_iff] at done
      subst done
      rw [Fits] at fits
      refine ⟨?_, fits, rfl⟩
      cases phase : client.proposalPhase with
      | submitted => exact absurd phase fits
      | _ => simp [WorkerCall.stage, ProposalPhase.stage]
  | submitProposal proposal =>
      rw [finish, pure_ok_iff] at done
      subst done
      simp [fits.1, WorkerCall.stage, ProposalPhase.stage]

omit [Engine] in
theorem proposal_stage (call : WorkerCall) : call.isProposal = true ↔ call.stage = 2 := by
  cases call <;> simp [WorkerCall.isProposal, WorkerCall.stage]

omit [Engine] in
theorem submitted_stage (phase : ProposalPhase) : phase = .submitted ↔ phase.stage = 2 := by
  cases phase <;> simp [ProposalPhase.stage]

theorem answered_phased (phased : Phased state) (fits : Fits state.client call)
    (done : finish state.client value call = .ok after) (waiting : List WorkerCall) :
    Phased ⟨after, waiting, state.succeeded ++ [call]⟩ := by
  have stages := fits_stage fits done
  -- Before the call no proposal has succeeded, since the phase would be the last one.
  have unsealed : ∀ earlier ∈ state.succeeded, earlier.isProposal = false := by
    intro earlier member
    by_contra sealed
    exact stages.2.1 (phased.sealed.submitted ⟨earlier, member, by simpa using sealed⟩)
  have within : ∀ other ∈ state.succeeded ++ [call], other.stage ≤ after.proposalPhase.stage := by
    intro other member
    rcases List.mem_append.mp member with earlier | same
    · have bound := phased.within other earlier
      omega
    · rw [List.mem_singleton.mp same]
      omega
  constructor
  · constructor
    · rw [List.pairwise_append]
      refine ⟨phased.sealed.ordered, List.pairwise_singleton _ _, ?_⟩
      intro earlier member later same
      rw [List.mem_singleton.mp same]
      have bound := phased.within earlier member
      exact ⟨by omega, unsealed earlier member⟩
    · rintro ⟨other, member, sealed⟩
      have bound := within other member
      rw [proposal_stage] at sealed
      rw [submitted_stage]
      cases phase : after.proposalPhase <;> simp_all [ProposalPhase.stage]
    · intro proposal member
      rcases List.mem_append.mp member with earlier | same
      · exact nomatch unsealed _ earlier
      · cases List.mem_singleton.mp same
        rw [finish, pure_ok_iff] at done
        subst done
        exact fits.2
  · exact within

theorem advance_phased {event : WorkerEvent} (phased : Phased state) (timely : Timely state event)
    (advanced : advance state event = .ok next) : Phased next := by
  have same : ∀ waiting, Phased { state with waiting := waiting } := fun _ =>
    ⟨⟨phased.sealed.ordered, phased.sealed.submitted, phased.sealed.exact⟩, phased.within⟩
  cases event with
  | made call =>
      simp only [advance, bind_ok_iff, pure_ok_iff] at advanced
      rcases advanced with ⟨_, _, rfl⟩
      exact same _
  | answered index value =>
      simp only [advance] at advanced
      cases found : state.waiting[index]? with
      | none =>
          rw [found] at advanced
          cases advanced
          exact phased
      | some call =>
          cases done : finish state.client value call with
          | error failure =>
              simp only [found, done] at advanced
              cases advanced
              exact same _
          | ok client =>
              simp only [found, done] at advanced
              cases advanced
              exact answered_phased phased (timely call found) done _
  | failed index =>
      cases advanced
      exact same _

end Runs

section Recorded

open RecordedRuns

@[reducible] def lengthEngine : Engine :=
  { shortEngine with sha256Hex := fun text => decimal text.length }

attribute [local instance] lengthEngine

instance (client : WorkerClientV1) (call : WorkerCall) : Decidable (Fits client call) := by
  cases call <;> unfold Fits <;> infer_instance

def timelyCheck (state : WorkerState) : WorkerEvent → Bool
  | .answered index _ => state.waiting[index]?.all fun call => Fits state.client call
  | _ => true

theorem timely_checked {state : WorkerState} {event : WorkerEvent}
    (checked : timelyCheck state event = true) : Timely state event := by
  cases event with
  | answered index value =>
      intro call found
      rw [timelyCheck, found] at checked
      exact of_decide_eq_true checked
  | _ => trivial

def workerBinding : WorkerBindingV1 :=
  { workspaceId := js "w"
    runId := js "r"
    taskId := js "t"
    attemptId := js "a"
    generation := 1
    forkPin := ⟨samplePin (js "j"), js "994", js "fpk_te"⟩
    manifest := sampleManifest (js "a") 1 (js "994") (js "p") (js "o")
    contextBinding := sampleBinding (js "a") 1 (js "994") (js "1706")
    providerId := js "p"
    providerIdempotencyKeyDigest := js "k"
    observationCursor := sampleCursor }

def workerReceipt : AttemptReceiptEnvelopeV1 :=
  { workspaceId := js "w"
    runId := js "r"
    taskId := js "t"
    attemptId := js "a"
    generation := 1
    attemptContextBindingDigest := js "1422"
    contextManifestCoreDigest := js "1706"
    forkPinDigest := js "994"
    providerId := js "p"
    providerOperationId := js "o"
    providerIdempotencyKeyDigest := js "k"
    producerPrincipalId := js "u"
    producerGrantDigest := js "g"
    adapterId := js "codex"
    adapterVersion := js "1"
    hostId := js "h"
    hostVersion := js "1"
    outcome := .failed
    startedAt := startOfYear
    finishedAt := secondLater
    outputDigest := none
    evidence := []
    provenance := object []
    nonce := js "n"
    receiptId := js "rcp_la"
    receiptDigest := js "580" }

def workerClient : WorkerClientV1 := ⟨workerBinding, .empty, .empty, .publishingEvidence⟩

def evidenceAccepted : JsValue :=
  object [("status", .str (js "accepted")), ("artifactId", .str (js "a")),
    ("publishedDigest", .str (js "e"))]

def publication : WorkerEvent := .made (.publishEvidence ⟨js "a", js "e"⟩ (js "c"))

def timelyRun : List WorkerEvent := [publication, .answered 0 evidenceAccepted]

def lateRun : List WorkerEvent :=
  [publication, .made (.submitReceipt workerReceipt), .answered 1 .null,
    .answered 0 evidenceAccepted]

def shows (allowed : WorkerState → WorkerEvent → Bool) (fact : WorkerState → Bool)
    (events : List WorkerEvent) : Bool :=
  endsIn fact (events.foldlM (guardedStep advance allowed (.domain .invalidEnvelope))
    (.start workerClient))

theorem timely_shown : shows timelyCheck (fun state =>
    state.succeeded.map WorkerCall.stage = [0]) timelyRun = true := by
  decide +kernel

instance late_shown : Fact (shows (fun _ _ => true) (fun state =>
    state.succeeded.map WorkerCall.stage = [1, 0]) lateRun = true) := ⟨by decide +kernel⟩

theorem worker_created : WorkerClientV1.create workerBinding = .ok workerClient := by
  have checked : endsIn (fun _ => true) (assertBinding workerBinding) = true := by decide +kernel
  rcases ends_in_exists checked with ⟨⟨⟩, passed, _⟩
  rw [WorkerClientV1.create, passed]
  rfl

end Recorded

end Horseness.WorkerPhases
