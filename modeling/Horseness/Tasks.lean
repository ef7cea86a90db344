import Horseness.ForkContext
import Horseness.PlainObjects

/-!
Task lifecycles, resolutions, dependency edges and the dispatch states of one
attempt generation. The three outcomes of a task and of an attempt are one type.
-/

namespace Horseness.Tasks

open FallibleRuns ScriptText JsonValues PlainObjects Canonical Cursors ForkContext

inductive TaskResolution where
  | succeeded
  | failed
  | cancelled
  deriving DecidableEq

abbrev AttemptTerminalState := TaskResolution

def TaskResolution.text : TaskResolution → JsString
  | .succeeded => js "succeeded"
  | .failed => js "failed"
  | .cancelled => js "cancelled"

inductive TaskLifecycle where
  | draft
  | active
  | resolved (resolution : TaskResolution)
  deriving DecidableEq

inductive TaskLifecycleInputV1 where
  | activate
  | resolve (resolution : TaskResolution)

def reduceTaskLifecycle : TaskLifecycle → TaskLifecycleInputV1 → Except DomainError TaskLifecycle
  | .draft, .activate => .ok .active
  | .draft, .resolve .cancelled => .ok (.resolved .cancelled)
  | .active, .resolve resolution => .ok (.resolved resolution)
  | _, _ => .error .illegalTaskTransition

section Dispatch

inductive DispatchState where
  | planned
  | launchIntentCommitted
  | providerHandleRecorded
  | acknowledged
  | cancelRequested
  | cancelHandedOff
  | reconciliationRequired
  | unknownOutcome
  | terminal (outcome : AttemptTerminalState)
  deriving DecidableEq

def isTerminal : DispatchState → Bool
  | .terminal _ => true
  | _ => false

inductive FindingCode where
  | lateTerminalReceipt
  | conflictingLateTerminalReceipt
  | conflictingProviderHandle
  | lateDispatchFact
  deriving DecidableEq

structure AttemptGenerationStateV1 where
  attemptId : JsString
  generation : Nat
  state : DispatchState
  bindingDigest : JsString
  idempotencyKeyDigest : JsString
  providerHandle : Option JsString
  terminalEventSequence : Option Nat
  findingCodes : List FindingCode
  deriving DecidableEq

inductive DispatchInputV1 where
  | commitLaunchIntent
  | recordHandle (handle : JsString)
  | acknowledge
  | requestCancel
  | cancelHandedOff
  | requireReconciliation
  | reconcileFound (handle : JsString)
  | reconcileNotFoundIdempotent
  | reconcileAmbiguous
  | terminalReceipt (outcome : AttemptTerminalState) (eventSequence : Nat)
      (handle : Option JsString)
  | manualResolution (outcome : AttemptTerminalState) (eventSequence : Nat)
  deriving DecidableEq

def finding (state : AttemptGenerationStateV1) (code : FindingCode) : AttemptGenerationStateV1 :=
  if code ∈ state.findingCodes then state
  else { state with findingCodes := state.findingCodes ++ [code] }

def conflictingHandle (handle recorded : Option JsString) : Bool :=
  truthy handle && truthy recorded && handle != recorded

def noteHandle (state : AttemptGenerationStateV1) (handle : JsString) (next : DispatchState) :
    Except DomainError AttemptGenerationStateV1 :=
  if handle = [] then .error .invalidProviderHandle
  else if conflictingHandle (some handle) state.providerHandle then
    .ok (finding state .conflictingProviderHandle)
  else .ok { state with state := next, providerHandle := some handle }

def reduceDispatch (state : AttemptGenerationStateV1) (input : DispatchInputV1) :
    Except DomainError AttemptGenerationStateV1 :=
  if state.generation < 1 ∨ (state.terminalEventSequence ≠ none ∧ isTerminal state.state = false)
  then .error .invalidAttemptState
  else
    match input, state.state with
    | .terminalReceipt outcome eventSequence handle, current =>
        if eventSequence < 1 then .error .invalidEventSequence
        else
          match current with
          | .terminal settled =>
              .ok (finding state (if outcome = settled then .lateTerminalReceipt
                else .conflictingLateTerminalReceipt))
          | .planned => .error .receiptPreHandoff
          | _ =>
              if conflictingHandle handle state.providerHandle then
                .ok (finding state .conflictingProviderHandle)
              else
                .ok { state with
                  state := .terminal outcome
                  providerHandle := state.providerHandle.or handle
                  terminalEventSequence := some eventSequence }
    | _, .terminal _ => .ok (finding state .lateDispatchFact)
    | .commitLaunchIntent, .planned => .ok { state with state := .launchIntentCommitted }
    | .recordHandle handle, .launchIntentCommitted =>
        noteHandle state handle .providerHandleRecorded
    | .recordHandle handle, .reconciliationRequired =>
        noteHandle state handle .providerHandleRecorded
    | .recordHandle handle, .providerHandleRecorded => noteHandle state handle state.state
    | .recordHandle handle, .acknowledged => noteHandle state handle state.state
    | .recordHandle handle, .cancelRequested => noteHandle state handle state.state
    | .recordHandle handle, .cancelHandedOff => noteHandle state handle state.state
    | .recordHandle handle, .unknownOutcome => noteHandle state handle state.state
    | .acknowledge, .providerHandleRecorded => .ok { state with state := .acknowledged }
    | .acknowledge, .acknowledged => .ok { state with state := .acknowledged }
    | .requestCancel, .launchIntentCommitted => .ok { state with state := .cancelRequested }
    | .requestCancel, .providerHandleRecorded => .ok { state with state := .cancelRequested }
    | .requestCancel, .acknowledged => .ok { state with state := .cancelRequested }
    | .requestCancel, .reconciliationRequired => .ok { state with state := .cancelRequested }
    | .requestCancel, .unknownOutcome => .ok { state with state := .cancelRequested }
    | .cancelHandedOff, .cancelRequested => .ok { state with state := .cancelHandedOff }
    | .requireReconciliation, .launchIntentCommitted =>
        .ok { state with state := .reconciliationRequired }
    | .requireReconciliation, .providerHandleRecorded =>
        .ok { state with state := .reconciliationRequired }
    | .requireReconciliation, .acknowledged => .ok { state with state := .reconciliationRequired }
    | .requireReconciliation, .cancelRequested => .ok { state with state := .reconciliationRequired }
    | .requireReconciliation, .cancelHandedOff => .ok { state with state := .reconciliationRequired }
    | .reconcileFound handle, .reconciliationRequired =>
        noteHandle state handle .providerHandleRecorded
    | .reconcileNotFoundIdempotent, .reconciliationRequired =>
        .ok { state with state := .planned, providerHandle := none }
    | .reconcileAmbiguous, .reconciliationRequired => .ok { state with state := .unknownOutcome }
    | .manualResolution outcome eventSequence, .unknownOutcome =>
        if 0 < eventSequence then
          .ok { state with state := .terminal outcome, terminalEventSequence := some eventSequence }
        else .error .illegalDispatchTransition
    | _, _ => .error .illegalDispatchTransition

end Dispatch

section Resolution

structure GenerationOutcomeV1 where
  generation : Nat
  outcome : AttemptTerminalState
  terminalEventSequence : Nat
  deriving DecidableEq

inductive ArbitrationReason where
  | earliestTerminalSuccess
  | explicitCancellation
  | allGenerationsTerminalNoSuccess
  deriving DecidableEq

def ArbitrationReason.text : ArbitrationReason → JsString
  | .earliestTerminalSuccess => js "earliest-terminal-success"
  | .explicitCancellation => js "explicit-cancellation"
  | .allGenerationsTerminalNoSuccess => js "all-generations-terminal-no-success"

structure TaskResolutionV1 where
  taskId : JsString
  consideredGenerationOutcomes : List GenerationOutcomeV1
  winningGeneration : Option Nat
  retryPolicyDigest : JsString
  arbitrationReason : JsString
  observationCursor : CompositeCursorV1
  resolution : TaskResolution
  deriving DecidableEq

def GenerationOutcomeV1.toJson (outcome : GenerationOutcomeV1) : JsValue :=
  object [("generation", natural outcome.generation), ("outcome", .str outcome.outcome.text),
    ("terminalEventSequence", natural outcome.terminalEventSequence)]

def TaskResolutionV1.toJson (resolution : TaskResolutionV1) : JsValue :=
  object [("schemaVersion", .str (js "1")), ("taskId", .str resolution.taskId),
    ("consideredGenerationOutcomes",
      .arr (resolution.consideredGenerationOutcomes.map GenerationOutcomeV1.toJson)),
    ("winningGeneration", nullable natural resolution.winningGeneration),
    ("retryPolicyDigest", .str resolution.retryPolicyDigest),
    ("arbitrationReason", .str resolution.arbitrationReason),
    ("observationCursor", resolution.observationCursor.toJson),
    ("resolution", .str resolution.resolution.text)]

def terminalOutcome (attempt : AttemptGenerationStateV1) : Option GenerationOutcomeV1 :=
  match attempt.state, attempt.terminalEventSequence with
  | .terminal outcome, some sequence => some ⟨attempt.generation, outcome, sequence⟩
  | _, _ => none

def earlier (left right : GenerationOutcomeV1) : Prop :=
  left.terminalEventSequence < right.terminalEventSequence ∨
    (left.terminalEventSequence = right.terminalEventSequence ∧ left.generation ≤ right.generation)

instance (left right : GenerationOutcomeV1) : Decidable (earlier left right) :=
  inferInstanceAs (Decidable (_ ∨ _))

structure ResolveInput where
  taskId : JsString
  generations : List AttemptGenerationStateV1
  retryPolicyDigest : JsString
  retryPermitted : Bool
  cancellationRequested : Bool
  observationCursor : CompositeCursorV1

def resolveTask (input : ResolveInput) : Except DomainError (Option TaskResolutionV1) := do
  let generations := input.generations.insertionSort
    (fun left right => left.generation ≤ right.generation)
  ensure ((generations.map AttemptGenerationStateV1.generation).Nodup ∧
    ∀ attempt ∈ generations, 1 ≤ attempt.generation) .invalidAttemptGeneration
  let terminal := generations.filterMap terminalOutcome
  let successes := (terminal.filter (fun item => item.outcome = .succeeded)).insertionSort earlier
  let unresolved := generations.any (fun attempt => !isTerminal attempt.state)
  let considered := terminal.insertionSort (fun left right => left.generation ≤ right.generation)
  let resolved (resolution : TaskResolution) (winner : Option Nat) (reason : ArbitrationReason) :
      TaskResolutionV1 :=
    { taskId := input.taskId
      consideredGenerationOutcomes := considered
      winningGeneration := winner
      retryPolicyDigest := input.retryPolicyDigest
      arbitrationReason := reason.text
      observationCursor := input.observationCursor
      resolution := resolution }
  match successes with
  | first :: _ => return some (resolved .succeeded (some first.generation) .earliestTerminalSuccess)
  | [] =>
      if unresolved || input.retryPermitted then return none
      else if input.cancellationRequested then
        return some (resolved .cancelled none .explicitCancellation)
      else return some (resolved .failed none .allGenerationsTerminalNoSuccess)

end Resolution

section Dependencies

structure DependencyEdgeV1 where
  edgeId : JsString
  sourceTaskId : JsString
  dependentTaskId : JsString
  edgeType : DependencyType
  allowedOutcomes : Option (List TaskResolution)
  releasePredicate : JsString
  propagateCancellation : Bool
  deriving DecidableEq

def DependencyEdgeV1.toJson (edge : DependencyEdgeV1) : JsValue :=
  object ([("edgeId", .str edge.edgeId), ("sourceTaskId", .str edge.sourceTaskId),
    ("dependentTaskId", .str edge.dependentTaskId), ("edgeType", .str edge.edgeType.text)] ++
    (match edge.allowedOutcomes with
      | none => []
      | some outcomes => [("allowedOutcomes", texts (outcomes.map TaskResolution.text))]) ++
    [("releasePredicate", .str edge.releasePredicate),
      ("propagateCancellation", .bool edge.propagateCancellation)])

def validateDependencyEdge (edge : DependencyEdgeV1) : Except DomainError Unit := do
  ensure (edge.edgeId ≠ [] ∧ edge.sourceTaskId ≠ [] ∧ edge.dependentTaskId ≠ [] ∧
    edge.sourceTaskId ≠ edge.dependentTaskId) .invalidDependency
  if edge.edgeType = .requiresOutcome then
    ensure (edge.allowedOutcomes.getD [] ≠ [] ∧ (edge.allowedOutcomes.getD []).Nodup)
      .invalidDependency
  else ensure (edge.allowedOutcomes = none) .invalidDependency

def outgoing (edges : List DependencyEdgeV1) (task : JsString) : List JsString :=
  (edges.filter (fun edge => edge.sourceTaskId = task)).map DependencyEdgeV1.dependentTaskId

/-- The depth-first search for a cycle. `visiting` is the path to the task and
`visited` what is finished; the path is as long as there are tasks at most. -/
def visitTask (edges : List DependencyEdgeV1) :
    Nat → List JsString → JsString → List JsString → Except DomainError (List JsString)
  | 0, _, _, _ => .error .stackExhausted
  | fuel + 1, visiting, task, visited =>
      if task ∈ visiting then .error .dependencyCycle
      else if task ∈ visited then .ok visited
      else do
        let finished ← (outgoing edges task).foldlM
          (fun marked next => visitTask edges fuel (task :: visiting) next marked) visited
        return finished ++ [task]

/-- One edge of the first pass: it is valid, new, and joins listed tasks. -/
def registerEdge (tasks : List JsString) (edgeIds : List JsString) (edge : DependencyEdgeV1) :
    Except DomainError (List JsString) := do
  validateDependencyEdge edge
  ensure (edge.edgeId ∉ edgeIds ∧ edge.sourceTaskId ∈ tasks ∧ edge.dependentTaskId ∈ tasks)
    .invalidDependency
  return edgeIds ++ [edge.edgeId]

def assertAcyclic (tasks : List JsString) (edges : List DependencyEdgeV1) :
    Except DomainError Unit := do
  ensure tasks.Nodup .invalidDependency
  let _ ← edges.foldlM (registerEdge tasks) []
  let _ ← tasks.foldlM (fun visited task => visitTask edges (tasks.length + 1) [] task visited) []
  return ()

def dependencySatisfied (edge : DependencyEdgeV1) (resolution : TaskResolution) :
    Except DomainError Bool := do
  validateDependencyEdge edge
  match edge.edgeType with
  | .requiresSuccess => return resolution = .succeeded
  | .requiresTerminal => return true
  | .requiresOutcome => return (edge.allowedOutcomes.getD []).contains resolution

end Dependencies

end Horseness.Tasks
