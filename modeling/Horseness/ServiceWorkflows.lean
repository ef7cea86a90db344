import Horseness.ServiceCommands

/-!
The sections of `driveWorkflow`: what starts, plans and stops workflows, and what a round of
the loop commits before it waits. The round's wait itself, and whatever else the process
does meanwhile, is not part of them.
-/

namespace Horseness.ServiceWorkflows

open FallibleRuns ScriptText JsonValues PlainObjects ScriptEngine Canonical Tasks TaskPlans
  ExecutionEvents Execution EventPayloads Turns ExecutionStore ServiceViews ServiceCommands

variable [Engine] (w : Surroundings)

section Planning

def plannerInstructions : JsString :=
  js "Return only one JSON object with exactly a tasks array, containing 1 to 32 work tasks. Each task has exactly key, title, instructions, acceptanceCriteria (nonempty string array), and dependsOn (local task-key array). Use unique keys and an acyclic graph. Do not include execution identities, adapters, models, commands to the coordinator, grants, policies, permissions, canonical scopes, or completion predicates. Do not execute the work or modify files. The original objective will run after the sink tasks to integrate and verify their results."

def plannerTask (workflowId : JsString) (source : TaskContractV2) (criterion : JsString) :
    TaskContractV2 :=
  { taskId := js "planner:" ++ workflowId
    title := js "Plan: " ++ source.title
    instructions := plannerInstructions ++ js "\nObjective: " ++ source.instructions
    acceptanceCriteria := [criterion]
    kind := .planner
    sourceTaskId := some source.taskId }

def sealTaskPlanV1 (sourceTaskId sourceContractDigest : JsString) (tasks : List TaskPlanItemV1) :
    Except DomainError TaskPlanV1 := do
  parseTaskPlanOutputV1 tasks
  let planDigest ← taskPlanDigest ⟨sourceTaskId, sourceContractDigest, tasks, []⟩
  return ⟨sourceTaskId, sourceContractDigest, tasks, planDigest⟩

def assertTaskWorkflowAdoptionV1 (s : TaskExecutionProjectionV1) (workflowId : JsString)
    (plan : TaskPlanV1) (authorityTime issuerPrincipalId issuerGrantDigest : JsString) :
    Except DomainError Unit := do
  parseTaskPlanV1 plan
  let workflow ← required (s.workflows.get workflowId) .workflowStopped
  ensure (workflow.state = .running) .workflowStopped
  let a := workflow.authorization
  let source ← required a.planningSource .authorizationDenied
  ensure (a.operationKind = .execute ∧ a.autoPlan = true ∧ a.graphDigest = none ∧
    a.plannerProfile.isSome = true ∧ a.issuerPrincipalId = issuerPrincipalId ∧
    a.issuerGrantDigest = issuerGrantDigest) .authorizationDenied
  ensure ((Engine.dateParse authorityTime).isSome = true ∧
    notBefore authorityTime a.expiresAt = false) .workflowAuthorizationExpired
  ensure (s.lifecycles.get a.targetTaskId ≠ some (.resolved .cancelled)) .taskCancelled
  ensure (s.lifecycles.get a.targetTaskId = some .draft ∧
    taskPrepared s a.targetTaskId = false) .taskNotDraft
  ensure (a.targetTaskId = plan.sourceTaskId ∧ a.targetContractDigest = plan.sourceContractDigest ∧
    source.taskId = plan.sourceTaskId ∧ source.contractDigest = plan.sourceContractDigest)
    .planSourceChanged
  contractUnchanged (s.contracts.get a.targetTaskId) plan.sourceContractDigest .planSourceChanged

/-- The planner of a workflow that plans its own tasks, started once. -/
def startAutomaticPlanner (view : ExecutionView) (parent : TaskWorkflowAuthorizationV1) :
    Section JsString := do
  let workflowId := parent.workflowId ++ js ":planner"
  if (view.state.workflows.get workflowId).isSome then return workflowId
  else do
    let observed ← ask (workflowAuthority w view.cursor.workspaceId view parent)
    let profile ← ask (required parent.plannerProfile .executionInvalid)
    ask (ensure (parent.planningSource.isSome = true) .executionInvalid)
    let source ← ask (required (view.state.contracts.get parent.targetTaskId) .executionInvalid)
    let task := plannerTask parent.workflowId source
      (js "Return a complete validated JSON task graph; do not execute or edit project files.")
    let requestDigest ← ask (domainDigest (js "horseness.automatic-planner-request.v1")
      (object [("workflowId", .str workflowId), ("parentRequestDigest", .str parent.requestDigest)]))
    let targetContractDigest ← ask (taskContractDigestV2 task)
    let graphDigest ← ask (taskWorkflowGraphDigestV1 [task] [])
    let authorization : TaskWorkflowAuthorizationV1 := { parent with
      workflowId := workflowId
      operationKind := .breakdown
      requestDigest := requestDigest
      parentWorkflowId := some parent.workflowId
      targetTaskId := task.taskId
      targetContractDigest := targetContractDigest
      executionProfile := profile
      plannerProfile := none
      autoPlan := false
      graphDigest := some graphDigest
      planDigest := none }
    let _ ← append w view [execution view (.taskCreatedV2 task),
        execution view (.taskActivatedV1 task.taskId),
        execution view (.taskWorkflowStartedV1 authorization)]
      (internal workflowId parent.issuerPrincipalId (some observed.expectation))
    return workflowId

def adoptAutomaticPlan (runId workflowId : JsString) : Section Unit := do
  let view ← viewed runId
  let workflow ← ask (required (view.state.workflows.get workflowId) .workflowStopped)
  let a := workflow.authorization
  let observed ← ask (workflowAuthority w view.cursor.workspaceId view a)
  let planner := view.state.workflows.get (workflowId ++ js ":planner")
  let digest := planner.bind fun record =>
    view.state.plansByPlanner.get record.authorization.targetTaskId
  let plan ← ask (required (digest.bind view.state.plans.get) .planNotReady)
  ask (assertTaskWorkflowAdoptionV1 view.state workflowId plan w.clock a.issuerPrincipalId
    a.issuerGrantDigest)
  let adoption := TaskExecutionPayloadV1.taskPlanAdoptedV1 a.targetTaskId plan.planDigest
  let projected ← ask (reduceTaskExecutionV1 view.state
    ⟨view.cursor.workspaceId, runId, adoption⟩ (view.cursor.runSequence + 1))
  let closure ← ask (taskDependencyClosureV1 projected a.targetTaskId)
  let _ ← ask (w.checkPolicy view a.targetTaskId plan.planDigest)
  let graphDigest ← ask (taskWorkflowGraphDigestV1 closure.contracts closure.edges)
  let _ ← append w view [execution view adoption,
      execution view (.taskWorkflowPlanBoundV1 workflowId plan.planDigest graphDigest)]
    (internal (workflowId ++ js ":adopt") a.issuerPrincipalId (some observed.expectation))
  return ()

def isConflict : Failure → Bool
  | .conflict _ => true
  | _ => false

/-- The plan that a planner put out is proposed. What is wrong with it is recorded, unless
another writer was faster. -/
def finishPlan (runId : JsString) (authorization : TaskWorkflowAuthorizationV1) :
    Section Unit := do
  let view ← viewed runId
  let plannerTaskId := authorization.targetTaskId
  match authorization.planningSource with
  | none => return ()
  | some source =>
      if truthy (view.state.plansByPlanner.get plannerTaskId) then return ()
      else do
        ask (ensure (truthy (view.state.planRejectionsByPlanner.get plannerTaskId) = false)
          .planInvalid)
        let observed ← ask (workflowAuthority w view.cursor.workspaceId view authorization)
        ask (ensure (view.state.lifecycles.get plannerTaskId = some (.resolved .succeeded))
          .planNotReady)
        let receipt := view.state.receipts.values.find? fun item =>
          item.taskId = plannerTaskId ∧ item.outcome = .succeeded
        let outputDigest ← ask (required (receipt.bind fun item => item.outputDigest) .planInvalid)
        let command (suffix : JsString) := internal (authorization.workflowId ++ suffix)
          authorization.issuerPrincipalId (some observed.expectation)
        tryCatch (do
            let tasks ← check (w.planOutput outputDigest)
            let plan ← ask (sealTaskPlanV1 source.taskId source.contractDigest tasks)
            let _ ← append w view [execution view (.taskPlanProposedV1 plannerTaskId plan)]
              (command (js ":plan"))
            return ())
          fun failure => do
            if isConflict failure = true then throw failure
            let _ ← append w view
              [execution view (.taskPlanRejectedV1 source.taskId plannerTaskId (js "PLAN_INVALID"))]
              (command (js ":plan-rejected"))
            throw (.domain .planInvalid)

end Planning

section Rounds

def stopWorkflow (runId workflowId : JsString) (state : WorkflowEnd) (reasonCode : JsString) :
    Section Unit := do
  let view ← viewed runId
  match view.state.workflows.get workflowId with
  | none => return ()
  | some workflow =>
      if workflow.state = .running then do
        let _ ← append w view [execution view (.taskWorkflowStoppedV1 workflowId state reasonCode)]
          (internal (workflowId ++ js ":stop") workflow.authorization.issuerPrincipalId none)
        return ()
      else return ()

/-- What a round of the loop goes on to wait for. -/
inductive Round where
  | finished
  | planning (plannerId : JsString)
  | attempting (prepared : TaskExecutionPreparedDataV1) (authorization : TaskWorkflowAuthorizationV1)

def firstReady (view : ExecutionView) : List TaskContractV2 → Except DomainError (Option TaskContractV2)
  | [] => .ok none
  | candidate :: rest =>
      if view.state.lifecycles.get candidate.taskId = some (.resolved .succeeded) then
        firstReady view rest
      else do
        let found ← dependencies view candidate.taskId
        if found.satisfied then return some candidate
        else firstReady view rest

def workflowTasks (view : ExecutionView) (a : TaskWorkflowAuthorizationV1) :
    Except DomainError (List TaskContractV2) :=
  if a.operationKind = .execute then do
    let closure ← taskDependencyClosureV1 view.state a.targetTaskId
    return closure.contracts
  else do
    let contract ← required (view.state.contracts.get a.targetTaskId) .taskNotFound
    return [contract]

def endOf : TaskResolution → WorkflowEnd
  | .succeeded => .succeeded
  | .failed => .stopped
  | .cancelled => .cancelled

def workflowRound (process : Process) (runId : JsString) (view : ExecutionView)
    (a : TaskWorkflowAuthorizationV1) : Section Round := do
  let _ ← ask (workflowAuthority w view.cursor.workspaceId view a)
  if a.autoPlan = true ∧ a.graphDigest = none then do
    let plannerId ← startAutomaticPlanner w view a
    return .planning plannerId
  else do
    let lifecycle ← ask (required (view.state.lifecycles.get a.targetTaskId) .illegalTaskTransition)
    match lifecycle with
    | .resolved resolution => do
        if resolution = .succeeded ∧ a.operationKind = .breakdown then finishPlan w runId a
        stopWorkflow w runId a.workflowId (endOf resolution)
          (if resolution = .succeeded then js "COMPLETED" else js "TASK_FAILED")
        return .finished
    | .draft | .active => do
        let closure ← ask (workflowTasks view a)
        ask (ensure (∀ task ∈ closure,
          view.state.lifecycles.get task.taskId ≠ some (.resolved .failed) ∧
          view.state.lifecycles.get task.taskId ≠ some (.resolved .cancelled)) .taskNotReady)
        let ready ← ask (firstReady view closure)
        let task ← ask (required ready .taskNotReady)
        let prepared ← prepare w process runId a task.taskId
        return .attempting prepared a

def plannedRound (runId workflowId plannerId : JsString) : Section Unit := do
  let view ← viewed runId
  let planner := view.state.workflows.get plannerId
  check (ensure (planner.map WorkflowRecord.state = some (.ended .succeeded))
    (.thrown ((planner.bind WorkflowRecord.reasonCode).getD (js "PLAN_NOT_READY"))))
  adoptAutomaticPlan w runId workflowId

/-- `^[A-Z_]+$`. -/
def upperCode (text : JsString) : Bool :=
  !text.isEmpty && text.all fun unit => 65 ≤ unit && unit ≤ 90 || unit = 95

def reasonOf : Failure → JsString
  | .unknownOutcome reason => if upperCode reason then reason else js "UNKNOWN_OUTCOME"
  | failure => failureCode failure

def endFor (code : JsString) : WorkflowEnd :=
  if code = js "AUTHORIZATION_DENIED" ∨ code = js "WORKFLOW_AUTHORIZATION_EXPIRED" then .revoked
  else if code = js "TASK_CANCELLED" then .cancelled
  else .stopped

/-- The loop is left: for a failure that will pass as it is, and otherwise with the
workflow stopped. -/
def failedRound (stopping sessionsOpen : Bool) (runId workflowId : JsString) (failure : Failure) :
    Section Unit :=
  let code := failureCode failure
  if stopping = true ∨ code = js "EXECUTION_WORKSPACE_BUSY" ∨
      (code = js "TASK_NOT_READY" ∧ sessionsOpen = true) then return ()
  else stopWorkflow w runId workflowId (endFor code) (reasonOf failure)

end Rounds

section Pump

/-- One run of the pump: what has ended is resolved, and the workflows to drive are listed. -/
def pumpRun (runId : JsString) : Section (List JsString) := do
  let snapshot ← viewed runId
  let waiting := snapshot.state.lifecycles.entries.filter fun entry =>
    entry.2 = .active && (snapshot.state.resolutions.get entry.1).isNone
  waiting.forM fun entry => do
    let attempts ← ask (ServiceViews.taskAttempts snapshot entry.1)
    if attempts.length ≠ 0 ∧ ∀ item ∈ attempts, isTerminal item.state.state = true then
      resolveTaskResult w runId entry.1 false
  let view ← viewed runId
  return (view.state.workflows.values.filter fun item => item.state = .running &&
    item.authorization.parentWorkflowId.isNone).map fun item => item.authorization.workflowId

end Pump

end Horseness.ServiceWorkflows
