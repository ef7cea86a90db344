import Horseness.ServiceSteps

/-!
The steps of the program over its store: the operations of the service, and what else writes it.
-/

namespace Horseness.ServiceRuns

open Records ScriptText JsonValues ScriptEngine Cursors Tasks AttemptReceipts TaskPlans
  ExecutionEvents EventPayloads EventChains Replay Turns ExecutionStore ServiceViews ServiceCommands
  ServiceWorkflows ServiceRequests

section Payloads

variable [Engine]

def RecordedWorkspace (workspace : WorkspaceHead) : Prop :=
  ∃ front last, deterministicWorkspaceReplay (front ++ [last]) = .ok workspace.state ∧
    workspace.sequence = last.envelope.sequence ∧ workspace.envelopeHash = last.envelopeHash

end Payloads

section Operations

variable [Engine] {w : Surroundings} {view : ExecutionView}

/-- The events of an attempt that went on: it is told something, ends, or never began. -/
def AttemptPayload : TaskExecutionPayloadV1 → Prop
  | .taskExecutionTransitionV1 .. | .taskExecutionReceiptV1 .. | .taskExecutionAbortedV1 .. => True
  | _ => False

/-- Whatever the program does in one piece. -/
inductive Operation : (Result : Type) → Section Result → Prop
  | runCreate (cursor : AbsentRunGenesisCursorV1) (initialDocument : JsValue)
      (principalId commandId : JsString) :
      Operation Unit (runCreate cursor initialDocument principalId commandId)
  | taskCreate (w : Surroundings) (input : TaskCreation) : Operation Unit (taskCreate w input)
  | startWorkflow (w : Surroundings) (stopping : Bool) (input : StartTaskWorkflowV1)
      (source : TaskContractV2) (profile : TaskExecutionProfileV1)
      (plannerProfile : Option TaskExecutionProfileV1) :
      Operation Unit (completeStart w stopping input source profile plannerProfile)
  | adopt (w : Surroundings) (input : Mutation) (planDigest : JsString) :
      Operation AdoptionOutcome (adopt w input planDigest)
  | revisePlan (w : Surroundings) (input : Mutation) (basePlanDigest : JsString)
      (tasks : List TaskPlanItemV1) : Operation RevisionOutcome (revisePlan w input basePlanDigest tasks)
  | cancel (w : Surroundings) (input : Mutation) :
      Operation (CompositeCursorV1 × Option (List JsString)) (cancelTask w input)
  | round (w : Surroundings) (process : Process) (runId : JsString) (view : ExecutionView)
      (a : TaskWorkflowAuthorizationV1) : Operation Round (workflowRound w process runId view a)
  | plannedRound (w : Surroundings) (runId workflowId plannerId : JsString) :
      Operation Unit (plannedRound w runId workflowId plannerId)
  | failedRound (w : Surroundings) (stopping sessionsOpen : Bool) (runId workflowId : JsString)
      (failure : Failure) : Operation Unit (failedRound w stopping sessionsOpen runId workflowId failure)
  | pump (w : Surroundings) (runId : JsString) : Operation (List JsString) (pumpRun w runId)
  | submitReceipt (w : Surroundings) (runId : JsString) (receipt : AttemptReceiptEnvelopeV1)
      (actor : ExecutionActorV1) (publications : List ExecutionPublicationV1) :
      Operation CompositeCursorV1 (submitReceipt w runId receipt actor publications)
  | transition (w : Surroundings) (runId : JsString) (prepared : TaskExecutionPreparedDataV1)
      (input : DispatchInputV1) (suffix : JsString)
      (expectation : Option AuthorityStateExpectationV1) :
      Operation Unit (transition w runId prepared input suffix expectation)
  /-- What `runAttempt` appends by itself. -/
  | attempt (w : Surroundings) (view : ExecutionView) (payload : TaskExecutionPayloadV1)
      (about : AttemptPayload payload) (command : AppendCommand) :
      Operation CompositeCursorV1 (append w view [execution view payload] command)

end Operations

section Runs

variable [Engine]

def AdmissionPayload : RunEventPayloadV1 → Prop
  | .proposalSubmittedV1 .. | .deltaAcceptedV1 .. | .admissionDecisionRecordedV1 .. => True
  | _ => False

/-- A step of the program or of what else writes the store. -/
inductive ServiceStep : Store → Store → Prop
  | operated {Result : Type} (turn : Section Result) (operation : Operation Result turn)
      (ledger : Ledger) : ServiceStep ledger.store (outcome turn ledger).2.store
  | admitted {store after : Store} (current : AuthorityStateExpectationV1 → Bool) (runId : JsString)
      (request : AppendRequest) (events : List HashedEventEnvelopeV1) (filled : events ≠ [])
      (kinds : ∀ item ∈ events, ∀ payload, item.envelope.payload = .run payload →
        AdmissionPayload payload)
      (written : appendAtomic store current runId request events = .ok (some after)) :
      ServiceStep store after
  | recorded {store after : Store} (current : AuthorityStateExpectationV1 → Bool)
      (runId commandId requestDigest : JsString)
      (observed : Option (CompositeCursorV1 × AuthorityStateExpectationV1)) (result : CommandResult)
      (written : recordCommandResult store current runId commandId requestDigest observed result =
        .ok (some after)) : ServiceStep store after
  | beside (store : Store) (workspace : WorkspaceHead) (verified : RecordedWorkspace workspace)
      (consumed : List AuthorityConsumption) (issuances : Record JsString JsString) :
      ServiceStep store { store with
        workspace := workspace, consumed := consumed, issuances := issuances }

def Unused (store : Store) : Prop :=
  store.runs = .empty ∧ store.commands = [] ∧ RecordedWorkspace store.workspace

def Reached (store : Store) : Prop := ∃ start, Unused start ∧ Relation.ReflTransGen ServiceStep start store

end Runs

end Horseness.ServiceRuns
