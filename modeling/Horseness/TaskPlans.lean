import Horseness.AttemptReceipts

/-!
Execution profiles, task contracts and plans. A plan is sealed by the digest of
its source and items; adopting it derives one child contract for each item, the
edges between the children, and an edge to the source from each child that no
other item depends on.
-/

namespace Horseness.TaskPlans

open FallibleRuns Records ScriptText JsonValues ScriptEngine Canonical Cursors Tasks

/-- `text(value)`: a string that is not blank. -/
def textCheck (value : JsString) (code : DomainError) : Except DomainError Unit :=
  ensure (blank value = false) code

def positive (value : Nat) : Except DomainError Unit := positiveCheck value .executionInvalid

section Profiles

inductive NativeTaskAdapterIdV1 where
  | pi
  | omp
  | claude
  | codex
  deriving DecidableEq

def NativeTaskAdapterIdV1.text : NativeTaskAdapterIdV1 → JsString
  | .pi => js "pi"
  | .omp => js "omp"
  | .claude => js "claude"
  | .codex => js "codex"

inductive TaskEffortV1 where
  | off
  | none
  | low
  | medium
  | high
  | xhigh
  | max
  deriving DecidableEq

def TaskEffortV1.text : TaskEffortV1 → JsString
  | .off => js "off"
  | .none => js "none"
  | .low => js "low"
  | .medium => js "medium"
  | .high => js "high"
  | .xhigh => js "xhigh"
  | .max => js "max"

/-- The purpose of a profile and the kind of a contract. -/
inductive TaskKind where
  | work
  | planner
  deriving DecidableEq

def TaskKind.text : TaskKind → JsString
  | .work => js "work"
  | .planner => js "planner"

inductive ReceiptLookup where
  | localTerminalRecord
  | native
  deriving DecidableEq

def ReceiptLookup.text : ReceiptLookup → JsString
  | .localTerminalRecord => js "local-terminal-record"
  | .native => js "native"

structure TaskExecutionProfileV1 where
  adapterId : NativeTaskAdapterIdV1
  hostId : JsString
  hostVersion : JsString
  nativeExecutablePath : JsString
  nativeExecutableDigest : JsString
  providerId : JsString
  modelId : JsString
  effort : Option TaskEffortV1
  purpose : TaskKind
  timeoutMs : Nat
  maxOutputBytes : Nat
  lookup : ReceiptLookup
  idempotentLaunch : Bool
  deriving DecidableEq

/-- An omitted effort stays omitted, so historical digests do not change. -/
def TaskExecutionProfileV1.toJson (profile : TaskExecutionProfileV1) : JsValue :=
  object ([("schemaVersion", .str (js "1")), ("adapterId", .str profile.adapterId.text),
    ("hostId", .str profile.hostId), ("hostVersion", .str profile.hostVersion),
    ("nativeExecutablePath", .str profile.nativeExecutablePath),
    ("nativeExecutableDigest", .str profile.nativeExecutableDigest),
    ("providerId", .str profile.providerId), ("modelId", .str profile.modelId)] ++
    (match profile.effort with
      | none => []
      | some effort => [("effort", .str effort.text)]) ++
    [("purpose", .str profile.purpose.text), ("timeoutMs", natural profile.timeoutMs),
      ("maxOutputBytes", natural profile.maxOutputBytes), ("lookup", .str profile.lookup.text),
      ("idempotentLaunch", .bool profile.idempotentLaunch)])

def parseTaskExecutionProfileV1 (profile : TaskExecutionProfileV1) : Except DomainError Unit := do
  [profile.hostId, profile.hostVersion, profile.nativeExecutablePath,
    profile.nativeExecutableDigest, profile.providerId, profile.modelId].forM
      (textCheck · .executionInvalid)
  positive profile.timeoutMs
  positive profile.maxOutputBytes

def taskExecutionProfileDigest [Engine] (profile : TaskExecutionProfileV1) :
    Except DomainError JsString := do
  parseTaskExecutionProfileV1 profile
  domainDigest (js "horseness.task-execution-profile.v1") profile.toJson

end Profiles

section Contracts

/-- The completion policy is always the receipt-only predicate. -/
structure TaskContractV2 where
  taskId : JsString
  title : JsString
  instructions : JsString
  acceptanceCriteria : List JsString
  kind : TaskKind
  sourceTaskId : Option JsString
  deriving DecidableEq

def completionPolicy : JsValue :=
  object [("schemaVersion", .str (js "1")), ("kind", .str (js "predicate")),
    ("predicate", object [("kind", .str (js "receipt-only"))])]

def TaskContractV2.toJson (contract : TaskContractV2) : JsValue :=
  object [("schemaVersion", .str (js "2")), ("taskId", .str contract.taskId),
    ("title", .str contract.title), ("instructions", .str contract.instructions),
    ("acceptanceCriteria", texts contract.acceptanceCriteria), ("kind", .str contract.kind.text),
    ("sourceTaskId", nullable .str contract.sourceTaskId), ("completionPolicy", completionPolicy)]

def parseTaskContractV2 (contract : TaskContractV2) : Except DomainError Unit := do
  [contract.taskId, contract.title, contract.instructions].forM (textCheck · .executionInvalid)
  contract.acceptanceCriteria.forM (textCheck · .executionInvalid)
  contract.sourceTaskId.toList.forM (textCheck · .executionInvalid)
  ensure (contract.kind = .planner → contract.sourceTaskId ≠ none) .executionInvalid

def taskContractDigestV2 [Engine] (contract : TaskContractV2) : Except DomainError JsString := do
  parseTaskContractV2 contract
  domainDigest (js "horseness.task-contract.v2") contract.toJson

end Contracts

section Plans

structure TaskPlanItemV1 where
  key : JsString
  title : JsString
  instructions : JsString
  acceptanceCriteria : List JsString
  dependsOn : List JsString
  deriving DecidableEq

def TaskPlanItemV1.toJson (item : TaskPlanItemV1) : JsValue :=
  object [("key", .str item.key), ("title", .str item.title),
    ("instructions", .str item.instructions),
    ("acceptanceCriteria", texts item.acceptanceCriteria), ("dependsOn", texts item.dependsOn)]

structure TaskPlanV1 where
  sourceTaskId : JsString
  sourceContractDigest : JsString
  tasks : List TaskPlanItemV1
  planDigest : JsString
  deriving DecidableEq

def TaskPlanV1.coreJson (plan : TaskPlanV1) : JsValue :=
  object [("schemaVersion", .str (js "1")), ("sourceTaskId", .str plan.sourceTaskId),
    ("sourceContractDigest", .str plan.sourceContractDigest),
    ("tasks", .arr (plan.tasks.map TaskPlanItemV1.toJson))]

def TaskPlanV1.toJson (plan : TaskPlanV1) : JsValue :=
  object [("schemaVersion", .str (js "1")), ("sourceTaskId", .str plan.sourceTaskId),
    ("sourceContractDigest", .str plan.sourceContractDigest),
    ("tasks", .arr (plan.tasks.map TaskPlanItemV1.toJson)), ("planDigest", .str plan.planDigest)]

/-- The edge of one plan item on another, as the plan's own check names it. -/
def planItemEdge (source dependent : JsString) : DependencyEdgeV1 :=
  { edgeId := source ++ js ":" ++ dependent
    sourceTaskId := source
    dependentTaskId := dependent
    edgeType := .requiresSuccess
    allowedOutcomes := none
    releasePredicate := js "task-resolution"
    propagateCancellation := true }

/-- One item of the first pass; `keys` are those of the items before it. -/
def checkPlanItem (keys : List JsString) (item : TaskPlanItemV1) :
    Except DomainError (List JsString) := do
  [item.key, item.title, item.instructions].forM (textCheck · .planInvalid)
  ensure (item.acceptanceCriteria ≠ []) .planInvalid
  item.acceptanceCriteria.forM (textCheck · .planInvalid)
  item.dependsOn.forM (textCheck · .planInvalid)
  ensure (item.key ∉ keys ∧ item.dependsOn.Nodup) .planInvalid
  return keys ++ [item.key]

def parseTaskPlanOutputV1 (tasks : List TaskPlanItemV1) : Except DomainError Unit := do
  ensure (1 ≤ tasks.length ∧ tasks.length ≤ 32) .planInvalid
  let keys ← tasks.foldlM checkPlanItem []
  ensure (∀ item ∈ tasks, ∀ source ∈ item.dependsOn, source ∈ keys ∧ source ≠ item.key) .planInvalid
  let edges := tasks.flatMap (fun item => item.dependsOn.map (planItemEdge · item.key))
  (assertAcyclic keys edges).mapError (fun _ => .planInvalid)

variable [Engine]

def taskPlanDigest (plan : TaskPlanV1) : Except DomainError JsString := do
  textCheck plan.sourceTaskId .planInvalid
  textCheck plan.sourceContractDigest .planInvalid
  parseTaskPlanOutputV1 plan.tasks
  domainDigest (js "horseness.task-plan.v1") plan.coreJson

def parseTaskPlanV1 (plan : TaskPlanV1) : Except DomainError Unit := do
  let digest ← taskPlanDigest plan
  ensure (digest = plan.planDigest) .planInvalid

def planChildId (planDigest key : JsString) : Except DomainError JsString := do
  let digest ← domainDigest (js "horseness.task-plan-child.v1")
    (object [("planDigest", .str planDigest), ("key", .str key)])
  return digestId (js "task_") digest

def planChildEdge (planDigest sourceTaskId dependentTaskId : JsString) :
    Except DomainError DependencyEdgeV1 := do
  let digest ← domainDigest (js "horseness.task-plan-edge.v1")
    (object [("planDigest", .str planDigest), ("sourceTaskId", .str sourceTaskId),
      ("dependentTaskId", .str dependentTaskId)])
  return { planItemEdge sourceTaskId dependentTaskId with edgeId := digestId (js "edge_") digest }

structure PlanAdoptionV1 where
  contracts : List TaskContractV2
  edges : List DependencyEdgeV1

def planChildContract (plan : TaskPlanV1) (item : TaskPlanItemV1) (taskId : JsString) :
    TaskContractV2 :=
  { taskId := taskId
    title := item.title
    instructions := item.instructions
    acceptanceCriteria := item.acceptanceCriteria
    kind := .work
    sourceTaskId := some plan.sourceTaskId }

def derivePlanAdoptionV1 (plan : TaskPlanV1) : Except DomainError PlanAdoptionV1 := do
  parseTaskPlanV1 plan
  let ids ← plan.tasks.mapM (fun item => do
    let id ← planChildId plan.planDigest item.key
    return (item.key, id))
  let idOf (key : JsString) := required (findEntry key ids) DomainError.planInvalid
  let contracts ← plan.tasks.mapM (fun item => do
    let id ← idOf item.key
    return planChildContract plan item id)
  let inner ← plan.tasks.mapM (fun item => item.dependsOn.mapM (fun source => do
    let sourceId ← idOf source
    let dependentId ← idOf item.key
    planChildEdge plan.planDigest sourceId dependentId))
  let used := plan.tasks.flatMap TaskPlanItemV1.dependsOn
  let roots ← (plan.tasks.filter (fun item => item.key ∉ used)).mapM (fun item => do
    let id ← idOf item.key
    planChildEdge plan.planDigest id plan.sourceTaskId)
  return ⟨contracts, inner.flatten ++ roots⟩

end Plans

end Horseness.TaskPlans
