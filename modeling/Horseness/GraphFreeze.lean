import Horseness.ExecutionSteps
import Horseness.RecordedRuns

/-!
The graph of an authorized running workflow does not change. Tasks and edges are
only added, and every edge that is added leads into a task outside the closure of
each running workflow whose graph is fixed: a dependency or an adoption needs its
dependent to be mutable, and the children of an adoption are new tasks.
-/

namespace Horseness.GraphFreeze

open FallibleRuns Records DepthFirst ScriptText ScriptEngine Canonical Tasks TaskPlans
  ExecutionEvents Execution ExecutionSteps RecordedRuns

section Closures

variable {s after : TaskExecutionProjectionV1}

def Named (s : TaskExecutionProjectionV1) : Prop :=
  ∀ id contract, s.contracts.get id = some contract → contract.taskId = id

theorem closure_ok_iff (target : JsString) (closure : DependencyClosureV1) :
    taskDependencyClosureV1 s target = .ok closure ↔ ∃ seen,
      closureTasks s target = .ok seen ∧
      List.Forall₂ (fun id contract => s.contracts.get id = some contract)
        (seen.insertionSort (· ≤ ·)) closure.contracts ∧
      closure.edges = s.edges.filter
        (fun edge => edge.dependentTaskId ∈ seen ∧ edge.sourceTaskId ∈ seen) := by
  simp only [taskDependencyClosureV1, bind_ok_iff, mapM_ok_iff, required_ok_iff, pure_ok_iff]
  constructor
  · rintro ⟨seen, visited, contracts, mapped, rfl⟩
    exact ⟨seen, visited, mapped, rfl⟩
  · rintro ⟨seen, visited, mapped, same⟩
    exact ⟨seen, visited, closure.contracts, mapped, by rw [← same]⟩

theorem closure_lists_seen (named : Named s) {seen : List JsString} {contracts : List TaskContractV2}
    (mapped : List.Forall₂ (fun id contract => s.contracts.get id = some contract)
      (seen.insertionSort (· ≤ ·)) contracts) :
    ∀ id ∈ seen, ∃ contract ∈ contracts, contract.taskId = id := by
  intro id member
  have sorted : id ∈ seen.insertionSort (· ≤ ·) := (List.mem_insertionSort _).mpr member
  obtain ⟨index, bound, rfl⟩ := List.mem_iff_getElem.mp sorted
  have inside : index < contracts.length := mapped.length_eq ▸ bound
  exact ⟨contracts[index], List.getElem_mem inside, named _ _ (mapped.get bound inside)⟩

theorem seen_contract {target : JsString} {seen : List JsString}
    (visited : closureTasks s target = .ok seen) :
    ∀ id ∈ seen, ∃ contract, s.contracts.get id = some contract := by
  intro id member
  have entered := visit_entered _ _ _ _ visited id member (by simp)
  exact Option.isSome_iff_exists.mp ((ensure_ok_iff _ _ _).mp entered)

theorem kept_length (kept : ContractsKept s after) :
    s.contracts.keys.length ≤ after.contracts.keys.length := by
  refine (List.subperm_of_subset s.contracts.keys_nodup ?_).length_le
  intro id member
  obtain ⟨contract, stored⟩ := (s.contracts.mem_keys_iff id).mp member
  exact (after.contracts.mem_keys_iff id).mpr ⟨contract, kept id contract stored⟩

/-- The frame rule of closures: added contracts do not matter, and added edges do
not when none leads into a task of the closure. -/
theorem closure_frame (named : Named s) (kept : ContractsKept s after)
    {added : List DependencyEdgeV1} (grown : after.edges = s.edges ++ added) {target : JsString}
    {closure : DependencyClosureV1}
    (outside : ∀ edge ∈ added, ∀ contract ∈ closure.contracts,
      contract.taskId ≠ edge.dependentTaskId)
    (computed : taskDependencyClosureV1 s target = .ok closure) :
    taskDependencyClosureV1 after target = .ok closure := by
  obtain ⟨seen, visited, mapped, edges⟩ := (closure_ok_iff target closure).mp computed
  have unseen : ∀ edge ∈ added, edge.dependentTaskId ∉ seen := by
    intro edge member inside
    obtain ⟨contract, listed, same⟩ := closure_lists_seen named mapped _ inside
    exact outside edge member contract listed same
  refine (closure_ok_iff target closure).mpr ⟨seen, ?_, ?_, ?_⟩
  · refine visit_frame _ _ target [] seen (by have := kept_length kept; omega) visited ?_ ?_
    · intro id member _
      obtain ⟨contract, stored⟩ := seen_contract visited id member
      simp [enterTask, kept id contract stored]
    · intro id member
      have silent : added.filter (fun edge => edge.dependentTaskId = id) = [] := by
        rw [List.filter_eq_nil_iff]
        intro edge new into
        exact unseen edge new ((of_decide_eq_true into) ▸ member)
      rw [sourcesOf, sourcesOf, grown, List.filter_append, silent, List.append_nil]
  · exact mapped.imp (fun id contract stored => kept id contract stored)
  · have silent : added.filter
        (fun edge => edge.dependentTaskId ∈ seen ∧ edge.sourceTaskId ∈ seen) = [] := by
      rw [List.filter_eq_nil_iff]
      intro edge new into
      exact unseen edge new (of_decide_eq_true into).1
    rw [edges, grown, List.filter_append, silent, List.append_nil]

theorem closure_congr (contracts : after.contracts = s.contracts) (edges : after.edges = s.edges)
    (target : JsString) : taskDependencyClosureV1 after target = taskDependencyClosureV1 s target := by
  simp only [taskDependencyClosureV1, closureTasks, contracts, edges, show enterTask after = enterTask s
    from funext fun id => by simp only [enterTask, contracts]]

end Closures

section Adoption

variable {s grown : TaskExecutionProjectionV1}

theorem add_contract_named (named : Named s) {contract : TaskContractV2}
    (added : addContract s contract = .ok grown) : Named grown := by
  obtain ⟨-, rfl⟩ := (add_contract_ok_iff contract).mp added
  intro id stored found
  rw [Record.get_set] at found
  split at found
  · exact Option.some.inj found ▸ ‹contract.taskId = id›
  · exact named id stored found

theorem add_contracts_named (contracts : List TaskContractV2) (named : Named s)
    (added : contracts.foldlM addContract s = .ok grown) : Named grown :=
  foldlM_invariant addContract Named contracts
    (fun _ _ _ _ named added => add_contract_named named added) s grown named added

variable [Engine]

theorem child_edge_dependent {planDigest sourceTaskId dependentTaskId : JsString}
    {edge : DependencyEdgeV1}
    (derived : planChildEdge planDigest sourceTaskId dependentTaskId = .ok edge) :
    edge.dependentTaskId = dependentTaskId := by
  simp only [planChildEdge, bind_ok_iff, pure_ok_iff] at derived
  obtain ⟨_, -, rfl⟩ := derived
  rfl

-- A derived edge leads into a child of the plan or into its source.
theorem adoption_dependents {plan : TaskPlanV1} {adoption : PlanAdoptionV1}
    (derived : derivePlanAdoptionV1 plan = .ok adoption) :
    ∀ edge ∈ adoption.edges, edge.dependentTaskId = plan.sourceTaskId ∨
      ∃ contract ∈ adoption.contracts, contract.taskId = edge.dependentTaskId := by
  simp only [derivePlanAdoptionV1, bind_ok_iff, mapM_ok_iff, required_ok_iff, pure_ok_iff] at derived
  obtain ⟨_, -, ids, -, contracts, children, inner, innerEdges, roots, rootEdges, rfl⟩ := derived
  intro edge member
  rcases List.mem_append.mp member with within | root
  · obtain ⟨group, grouped, listed⟩ := List.mem_flatten.mp within
    obtain ⟨index, bound, rfl⟩ := List.mem_iff_getElem.mp grouped
    have inside : index < plan.tasks.length := innerEdges.length_eq ▸ bound
    have childBound : index < contracts.length := children.length_eq ▸ inside
    obtain ⟨position, edgeBound, rfl⟩ := List.mem_iff_getElem.mp listed
    have derivedEdges := innerEdges.get inside bound
    have sourceBound := derivedEdges.length_eq ▸ edgeBound
    obtain ⟨_, -, dependentId, found, made⟩ := derivedEdges.get sourceBound edgeBound
    obtain ⟨childId, childFound, child⟩ := children.get inside childBound
    have same : childId = dependentId := Option.some.inj (childFound.symm.trans found)
    have target : contracts[index].taskId = dependentId := by
      rw [show contracts[index] = _ from child.symm, planChildContract, same]
    exact Or.inr ⟨contracts[index], List.getElem_mem childBound,
      target.trans (child_edge_dependent made).symm⟩
  · obtain ⟨index, bound, rfl⟩ := List.mem_iff_getElem.mp root
    obtain ⟨_, -, made⟩ := rootEdges.get (rootEdges.length_eq ▸ bound) bound
    exact Or.inl (child_edge_dependent made)

end Adoption

section Runs

variable [Engine] {s after : TaskExecutionProjectionV1}

/-- The graphs of running workflows are those their authorizations name. -/
def FrozenGraphs (s : TaskExecutionProjectionV1) : Prop :=
  ∀ workflowId w graphDigest, s.workflows.get workflowId = some w → w.state = .running →
    w.authorization.graphDigest = some graphDigest →
      closureGraphDigest s w.authorization.targetTaskId = .ok graphDigest

theorem named_step (named : Named s) (effect : GraphEffect s after) : Named after := by
  cases effect with
  | unchanged contracts edges workflows => exact fun id contract found => named id contract (contracts ▸ found)
  | contract contract added => exact add_contract_named named added
  | edge edge free acyclic contracts edges workflows =>
      exact fun id contract found => named id contract (contracts ▸ found)
  | adoption plan adoption grown free derived added acyclic contracts edges workflows =>
      have grownNamed := add_contracts_named adoption.contracts named added
      exact fun id contract found => grownNamed id contract (contracts ▸ found)
  | workflow workflowId record contracts edges workflows sound fresh =>
      exact fun id contract found => named id contract (contracts ▸ found)

omit [Engine] in
-- A task that is mutable now lies outside every running frozen closure.
theorem mutable_outside {id : JsString} {allowAutoPlan : Bool}
    (free : mutable s id allowAutoPlan = .ok ()) {workflowId : JsString} {w : WorkflowRecord}
    (stored : s.workflows.get workflowId = some w) (running : w.state = .running)
    (frozen : w.authorization.graphDigest ≠ none) {closure : DependencyClosureV1}
    (computed : taskDependencyClosureV1 s w.authorization.targetTaskId = .ok closure) :
    ∀ contract ∈ closure.contracts, contract.taskId ≠ id := by
  obtain ⟨-, -, unfrozen⟩ := mutable_ok free
  have checked := unfrozen w ((s.workflows.mem_values_iff w).mpr ⟨workflowId, stored⟩)
  obtain ⟨again, recomputed, outside⟩ := freezes_frozen checked running frozen
  obtain rfl : again = closure := Except.ok.inj (recomputed.symm.trans computed)
  exact outside

-- The step lemma: no event changes the closure of a running frozen workflow.
theorem closure_step (named : Named s) (effect : GraphEffect s after) {workflowId : JsString}
    {w : WorkflowRecord} (stored : s.workflows.get workflowId = some w)
    (running : w.state = .running) (frozen : w.authorization.graphDigest ≠ none)
    {closure : DependencyClosureV1}
    (computed : taskDependencyClosureV1 s w.authorization.targetTaskId = .ok closure) :
    taskDependencyClosureV1 after w.authorization.targetTaskId = .ok closure := by
  cases effect with
  | unchanged contracts edges workflows => exact (closure_congr contracts edges _).trans computed
  | contract contract added =>
      have edges : after.edges = s.edges ++ [] := by
        obtain ⟨-, rfl⟩ := (add_contract_ok_iff contract).mp added
        exact (List.append_nil s.edges).symm
      exact closure_frame named (add_contract_frame added).contracts edges (by simp) computed
  | edge edge free acyclic contracts edges workflows =>
      refine closure_frame named (fun id contract found => contracts ▸ found) edges ?_ computed
      intro added member
      obtain rfl := List.mem_singleton.mp member
      exact mutable_outside free stored running frozen computed
  | adoption plan adoption grown free derived added acyclic contracts edges workflows =>
      have kept := (add_contracts_frame adoption.contracts added).contracts
      obtain ⟨same, -, fresh⟩ := add_contracts_fresh adoption.contracts added
      refine closure_frame named (fun id contract found => contracts ▸ kept id contract found)
        (same ▸ edges) ?_ computed
      intro edge member contract listed
      rcases adoption_dependents derived edge member with source | ⟨child, derivedChild, into⟩
      · exact source ▸ mutable_outside free stored running frozen computed contract listed
      · -- A child is new, and what the closure lists is stored.
        intro sameId
        obtain ⟨seen, -, mapped, -⟩ := (closure_ok_iff _ _).mp computed
        obtain ⟨index, bound, rfl⟩ := List.mem_iff_getElem.mp listed
        have found := mapped.get (mapped.length_eq ▸ bound) bound
        have own := named _ _ found
        rw [List.get_eq_getElem] at own
        have missing := fresh child derivedChild
        rw [into, ← sameId, own] at missing
        exact Option.some_ne_none _ (found.symm.trans missing)
  | workflow other record contracts edges workflows sound fresh =>
      exact (closure_congr contracts edges _).trans computed

theorem frozen_digest_step (named : Named s) (effect : GraphEffect s after) {workflowId : JsString}
    {w : WorkflowRecord} {graphDigest : JsString} (stored : s.workflows.get workflowId = some w)
    (running : w.state = .running) (frozen : w.authorization.graphDigest = some graphDigest)
    (computed : closureGraphDigest s w.authorization.targetTaskId = .ok graphDigest) :
    closureGraphDigest after w.authorization.targetTaskId = .ok graphDigest := by
  obtain ⟨closure, collected, hashed⟩ := bind_ok_iff.mp computed
  exact bind_ok_iff.mpr ⟨closure,
    closure_step named effect stored running (by simp [frozen]) collected, hashed⟩

theorem frozen_graphs_step (named : Named s) (graphs : FrozenGraphs s)
    (effect : GraphEffect s after) : FrozenGraphs after := by
  intro workflowId w graphDigest stored running frozen
  -- Every event but one on this workflow leaves its record, and so its closure.
  have keep : s.workflows.get workflowId = some w →
      closureGraphDigest after w.authorization.targetTaskId = .ok graphDigest := fun old =>
    frozen_digest_step named effect old running frozen
      (graphs workflowId w graphDigest old running frozen)
  cases effect with
  | unchanged contracts edges workflows => exact keep (workflows ▸ stored)
  | contract contract added =>
      obtain ⟨-, rfl⟩ := (add_contract_ok_iff contract).mp added
      exact keep stored
  | edge edge free acyclic contracts edges workflows => exact keep (workflows ▸ stored)
  | adoption plan adoption grown free derived added acyclic contracts edges workflows =>
      obtain ⟨-, same, -⟩ := add_contracts_fresh adoption.contracts added
      exact keep (same ▸ workflows ▸ stored)
  | workflow other record contracts edges workflows sound fresh =>
      rw [workflows, Record.get_set] at stored
      split at stored
      · obtain rfl := Option.some.inj stored
        have computed := sound running graphDigest frozen
        rw [closureGraphDigest, closure_congr contracts edges]
        exact computed
      · exact keep stored

theorem graphs_reachable (reached : Reachable s) : Named s ∧ FrozenGraphs s := by
  refine reaches_invariant (fun s => Named s ∧ FrozenGraphs s) ⟨?_, ?_⟩ ?_ reached
  · intro id contract found
    simp [emptyTaskExecutionProjectionV1] at found
  · intro workflowId w graphDigest stored
    simp [emptyTaskExecutionProjectionV1] at stored
  · rintro before input after - ⟨named, graphs⟩ - accepted
    have effect := graph_effect accepted
    exact ⟨named_step named effect, frozen_graphs_step named graphs effect⟩

-- What later events leave of a workflow: it has ended, or it is as it was.
theorem workflow_later (named : Named s) {workflowId : JsString} {w : WorkflowRecord}
    {closure : DependencyClosureV1} (stored : s.workflows.get workflowId = some w)
    (running : w.state = .running) (frozen : w.authorization.graphDigest ≠ none)
    (computed : taskDependencyClosureV1 s w.authorization.targetTaskId = .ok closure)
    {later : TaskExecutionProjectionV1}
    (run : Reaches executionStep (fun _ _ => True) s later) :
    Named later ∧
      ((∃ ended, later.workflows.get workflowId = some ended ∧ ended.state ≠ .running) ∨
        (later.workflows.get workflowId = some w ∧
          taskDependencyClosureV1 later w.authorization.targetTaskId = .ok closure)) := by
  refine reaches_invariant (fun later => Named later ∧
    ((∃ ended, later.workflows.get workflowId = some ended ∧ ended.state ≠ .running) ∨
      (later.workflows.get workflowId = some w ∧
        taskDependencyClosureV1 later w.authorization.targetTaskId = .ok closure)))
    ⟨named, Or.inr ⟨stored, computed⟩⟩ ?_ run
  rintro before input after - ⟨named, still⟩ - accepted
  have effect := graph_effect accepted
  refine ⟨named_step named effect, ?_⟩
  -- Either this event writes the workflow's record, or the record stays.
  have written : after.workflows.get workflowId = before.workflows.get workflowId ∨
      ∃ record, after.workflows.get workflowId = some record ∧
        ∀ old, before.workflows.get workflowId = some old → record.state = .running →
          old.state = .running ∧ old.authorization.graphDigest = none := by
    cases effect with
    | unchanged contracts edges workflows => exact Or.inl (by rw [workflows])
    | contract contract added =>
        obtain ⟨-, rfl⟩ := (add_contract_ok_iff contract).mp added
        exact Or.inl rfl
    | edge edge free acyclic contracts edges workflows => exact Or.inl (by rw [workflows])
    | adoption plan adoption grown free derived added acyclic contracts edges workflows =>
        obtain ⟨-, same, -⟩ := add_contracts_fresh adoption.contracts added
        exact Or.inl (by rw [workflows, same])
    | workflow other record contracts edges workflows sound fresh =>
        by_cases hit : other = workflowId
        · subst hit
          exact Or.inr ⟨record, by rw [workflows, Record.get_set_same], fresh⟩
        · exact Or.inl (by rw [workflows, Record.get_set_other _ _ hit])
  rcases still with ⟨ended, found, past⟩ | ⟨found, collected⟩
  · rcases written with same | ⟨record, placed, fresh⟩
    · exact Or.inl ⟨ended, same.trans found, past⟩
    · exact Or.inl ⟨record, placed, fun again => past (fresh ended found again).1⟩
  · rcases written with same | ⟨record, placed, fresh⟩
    · exact Or.inr ⟨same.trans found, closure_step named effect found running frozen collected⟩
    · exact Or.inl ⟨record, placed, fun again => frozen (fresh w found again).2⟩

/-- In every reachable projection the closure of a running workflow with a fixed
graph hashes to that graph, and while the workflow runs on no later event changes
its authorization or the closure. -/
theorem running_graph_frozen (reached : Reachable s) {workflowId : JsString} {w : WorkflowRecord}
    {graphDigest : JsString} (stored : s.workflows.get workflowId = some w)
    (running : w.state = .running) (frozen : w.authorization.graphDigest = some graphDigest) :
    closureGraphDigest s w.authorization.targetTaskId = .ok graphDigest ∧
      ∀ later record, Reaches executionStep (fun _ _ => True) s later →
        later.workflows.get workflowId = some record → record.state = .running →
          record.authorization = w.authorization ∧
            taskDependencyClosureV1 later w.authorization.targetTaskId =
              taskDependencyClosureV1 s w.authorization.targetTaskId := by
  obtain ⟨named, graphs⟩ := graphs_reachable reached
  have hashed := graphs workflowId w graphDigest stored running frozen
  refine ⟨hashed, ?_⟩
  intro later record run found still
  obtain ⟨closure, collected, -⟩ := bind_ok_iff.mp hashed
  obtain ⟨-, ⟨ended, placed, past⟩ | ⟨placed, kept⟩⟩ :=
    workflow_later named stored running (by simp [frozen]) collected run
  · exact absurd (Option.some.inj (found.symm.trans placed) ▸ still) past
  · exact ⟨congrArg WorkflowRecord.authorization (Option.some.inj (found.symm.trans placed)),
      kept.trans collected.symm⟩

end Runs

section Launch

attribute [local instance] recordedEngine

def launchGraphDigest : JsString :=
  js "d9e24fa184e29aecf91110da0f3e51efff6714cfad85b9ac458bee642302fdb7"

def launchAuthorization : TaskWorkflowAuthorizationV1 :=
  { workflowId := js "wf"
    operationKind := .dispatch
    requestDigest := js "d"
    planningSource := none
    parentWorkflowId := none
    workspaceId := js "w"
    runId := js "r"
    targetTaskId := js "t"
    targetContractDigest := js "66de8e092790fa297b992a53550923d9efab523d6f401a998632e776dd0ef6c6"
    issuerPrincipalId := js "u"
    issuerGrantDigest := js "g"
    expiresAt := startOfYear
    executionProfile := sampleProfile
    plannerProfile := none
    autoPlan := false
    graphDigest := some launchGraphDigest
    planDigest := none }

def launchPayloads : Except DomainError (List TaskExecutionPayloadV1) :=
  .ok [.taskCreatedV2 (sampleTask (js "s")), .taskCreatedV2 (sampleTask (js "t")),
    .dependencyAddedV1 (sampleEdge (js "e") (js "s") (js "t") .requiresSuccess),
    .taskWorkflowStartedV1 launchAuthorization]

def launched : TaskExecutionProjectionV1 := sampleState anything launchPayloads

theorem launched_reachable : Reachable launched ∧
    launched.workflows.get (js "wf") = some ⟨launchAuthorization, .running, none⟩ := by
  have ended := sample_reachable launchPayloads
    (fun s => s.workflows.get (js "wf") = some ⟨launchAuthorization, .running, none⟩)
    (by decide +kernel)
  exact ⟨ended.1, of_decide_eq_true ended.2⟩

theorem running_graph_frozen_launched :
    closureGraphDigest launched launchAuthorization.targetTaskId = .ok launchGraphDigest ∧
      ∀ later record, Reaches executionStep (fun _ _ => True) launched later →
        later.workflows.get (js "wf") = some record → record.state = .running →
          record.authorization = launchAuthorization ∧
            taskDependencyClosureV1 later launchAuthorization.targetTaskId =
              taskDependencyClosureV1 launched launchAuthorization.targetTaskId := by
  have fixed : launchAuthorization.graphDigest = some launchGraphDigest := rfl
  have frozen := running_graph_frozen launched_reachable.1 launched_reachable.2 rfl fixed
  exact frozen

end Launch

end Horseness.GraphFreeze
