import Horseness.TaskGraphs
import Horseness.PlanEffects

/-!
What adopted plans leave in the graph. Each item of the plan is a task with the item's text, every
edge of the plan is an edge of the graph, and the tasks that nothing else in the plan waits for lead
into the source, so the closure of the source reaches all of them.
-/

namespace Horseness.PlanAdoptions

open FallibleRuns RecordedRuns Records SearchOrders ScriptText ScriptEngine ForkContext Canonical
  Tasks TaskPlans ExecutionEvents Execution ExecutionSteps GraphFreeze Scheduling TaskGraphs
  PlanEffects

section Derivation

variable [Engine] {s after : TaskExecutionProjectionV1} {plan : TaskPlanV1}

/-- The tasks and the edges of an adopted plan. -/
structure Planted (s : TaskExecutionProjectionV1) (plan : TaskPlanV1) : Prop where
  children : ∀ item ∈ plan.tasks, ∃ id, planChildId plan.planDigest item.key = .ok id ∧
    s.contracts.get id = some (planChildContract plan item id)
  inner : ∀ item ∈ plan.tasks, ∀ source ∈ item.dependsOn, ∃ first second edge,
    planChildId plan.planDigest source = .ok first ∧
      planChildId plan.planDigest item.key = .ok second ∧
      planChildEdge plan.planDigest first second = .ok edge ∧ edge ∈ s.edges
  roots : ∀ item ∈ plan.tasks, (∀ other ∈ plan.tasks, item.key ∉ other.dependsOn) → ∃ id edge,
    planChildId plan.planDigest item.key = .ok id ∧
      planChildEdge plan.planDigest id plan.sourceTaskId = .ok edge ∧ edge ∈ s.edges

theorem planted_kept (planted : Planted s plan) (contracts : ContractsKept s after)
    (edges : s.edges ⊆ after.edges) : Planted after plan where
  children item member := by
    obtain ⟨id, named, stored⟩ := planted.children item member
    exact ⟨id, named, contracts _ _ stored⟩
  inner item member source needed := by
    obtain ⟨first, second, edge, one, two, made, listed⟩ := planted.inner item member source needed
    exact ⟨first, second, edge, one, two, made, edges listed⟩
  roots item member free := by
    obtain ⟨id, edge, named, made, listed⟩ := planted.roots item member free
    exact ⟨id, edge, named, made, edges listed⟩

theorem lookup_named {digest key id : JsString} {tasks : List TaskPlanItemV1}
    {ids : List (JsString × JsString)}
    (identified : tasks.mapM (fun item => do
      let id ← planChildId digest item.key
      return (item.key, id)) = Except.ok ids)
    (found : required (findEntry key ids) DomainError.planInvalid = .ok id) :
    planChildId digest key = .ok id := by
  have listed := find_member _ _ _ ((required_ok_iff _ _ _).mp found)
  obtain ⟨item, -, paired⟩ := mapped_from identified _ listed
  simp only [bind_ok_iff, pure_ok_iff, Prod.mk.injEq] at paired
  obtain ⟨_, hashed, rfl, rfl⟩ := paired
  exact hashed

-- An adoption's tasks and edges, as `derivePlanAdoptionV1` makes them.
theorem derived_planted {adoption : PlanAdoptionV1} (derived : derivePlanAdoptionV1 plan = .ok adoption)
    (contracts : ∀ contract ∈ adoption.contracts, s.contracts.get contract.taskId = some contract)
    (edges : adoption.edges ⊆ s.edges) : Planted s plan := by
  simp only [derivePlanAdoptionV1, bind_ok_iff, pure_ok_iff] at derived
  obtain ⟨_, -, ids, identified, children, made, inner, joined, roots, rooted, rfl⟩ := derived
  have named {key id : JsString} (found : required (findEntry key ids) DomainError.planInvalid = .ok id) :
      planChildId plan.planDigest key = .ok id := lookup_named identified found
  refine ⟨?_, ?_, ?_⟩
  · intro item member
    obtain ⟨contract, listed, found⟩ := mapped_to made item member
    simp only [bind_ok_iff, pure_ok_iff] at found
    obtain ⟨id, lookup, rfl⟩ := found
    exact ⟨id, named lookup, contracts _ listed⟩
  · intro item member source needed
    obtain ⟨group, grouped, derivedEdges⟩ := mapped_to joined item member
    obtain ⟨edge, listed, found⟩ := mapped_to derivedEdges source needed
    simp only [bind_ok_iff] at found
    obtain ⟨first, one, second, two, sealed⟩ := found
    have within : edge ∈ inner.flatten := List.mem_flatten.mpr ⟨group, grouped, listed⟩
    exact ⟨first, second, edge, named one, named two, sealed,
      edges (List.mem_append_left _ within)⟩
  · intro item member free
    have root : item ∈ plan.tasks.filter
        (fun item => item.key ∉ plan.tasks.flatMap TaskPlanItemV1.dependsOn) := by
      simpa [member] using free
    obtain ⟨edge, listed, found⟩ := mapped_to rooted item root
    obtain ⟨id, lookup, sealed⟩ := bind_ok_iff.mp found
    exact ⟨id, edge, named lookup, sealed, edges (List.mem_append_right _ listed)⟩

-- The edges of an adopted plan lead from and into the tasks that they are derived for.
theorem child_edge_ends {digest first second : JsString} {edge : DependencyEdgeV1}
    (made : planChildEdge digest first second = .ok edge) :
    edge.sourceTaskId = first ∧ edge.dependentTaskId = second := by
  simp only [planChildEdge, bind_ok_iff, pure_ok_iff] at made
  obtain ⟨_, -, rfl⟩ := made
  exact ⟨rfl, rfl⟩

omit [Engine] in
theorem checked_keys {tasks : List TaskPlanItemV1} {keys final : List JsString}
    (checked : tasks.foldlM checkPlanItem keys = .ok final) :
    final = keys ++ tasks.map TaskPlanItemV1.key := by
  induction tasks generalizing keys with
  | nil =>
      obtain rfl := (pure_ok_iff _ _).mp checked
      simp
  | cons item rest ih =>
      obtain ⟨middle, first, later⟩ := (foldlM_cons_ok_iff _ _ _ _ _).mp checked
      simp only [checkPlanItem, check_ok_iff, pure_ok_iff] at first
      obtain ⟨-, -, -, -, -, rfl⟩ := first
      rw [ih later, List.map_cons, List.append_assoc, List.singleton_append]

def planEdges (plan : TaskPlanV1) : List DependencyEdgeV1 :=
  plan.tasks.flatMap fun item => item.dependsOn.map (planItemEdge · item.key)

theorem plan_acyclic (parsed : parseTaskPlanV1 plan = .ok ()) :
    assertAcyclic (plan.tasks.map TaskPlanItemV1.key) (planEdges plan) = .ok () := by
  simp only [parseTaskPlanV1, taskPlanDigest, parseTaskPlanOutputV1, bind_ok_iff,
    map_error_ok_iff] at parsed
  obtain ⟨_, ⟨_, -, _, -, _, ⟨_, -, keys, checked, _, -, acyclic⟩, -⟩, -⟩ := parsed
  obtain rfl := checked_keys checked
  exact acyclic

-- The search that checked a plan finished each item behind those that depend on it.
theorem plan_order (parsed : parseTaskPlanV1 plan = .ok ()) : ∃ order,
    Finished (outgoing (planEdges plan)) order ∧ ∀ item ∈ plan.tasks, item.key ∈ order := by
  obtain ⟨-, -, -, order, finished, listed⟩ := acyclic_order (plan_acyclic parsed)
  exact ⟨order, finished, fun item member => listed (List.mem_map_of_mem member)⟩

end Derivation

section Closures

variable [Engine] {s : TaskExecutionProjectionV1} {plan : TaskPlanV1}

/-- By induction on the plan's own order: an item leads to the source through one that depends
on it, or by its own edge into the source. -/
theorem planted_closure (named : Named s) (planted : Planted s plan)
    (parsed : parseTaskPlanV1 plan = .ok ()) {closure : DependencyClosureV1}
    (collected : taskDependencyClosureV1 s plan.sourceTaskId = .ok closure) :
    ∀ item ∈ plan.tasks, ∃ id, planChildId plan.planDigest item.key = .ok id ∧
      planChildContract plan item id ∈ closure.contracts := by
  obtain ⟨target, sources⟩ := closure_holds named collected
  obtain ⟨order, finished, listed⟩ := plan_order parsed
  have reached : ∀ key ∈ order, ∀ item ∈ plan.tasks, item.key = key → ∃ id,
      planChildId plan.planDigest key = .ok id ∧
        ∃ contract ∈ closure.contracts, contract.taskId = id := by
    refine finished_induction (motive := fun key => ∀ item ∈ plan.tasks, item.key = key → ∃ id,
      planChildId plan.planDigest key = .ok id ∧
        ∃ contract ∈ closure.contracts, contract.taskId = id) finished ?_
    rintro _ - dependents item member rfl
    by_cases used : ∃ other ∈ plan.tasks, item.key ∈ other.dependsOn
    · obtain ⟨other, within, needs⟩ := used
      have leads : other.key ∈ outgoing (planEdges plan) item.key := by
        refine outgoing_iff.mpr ⟨planItemEdge item.key other.key, ?_, rfl, rfl⟩
        exact List.mem_flatMap.mpr ⟨other, within, List.mem_map_of_mem needs⟩
      obtain ⟨id, identified, inside⟩ := dependents other.key leads other within rfl
      obtain ⟨first, second, edge, one, two, made, stored⟩ := planted.inner other within _ needs
      obtain ⟨source, dependent⟩ := child_edge_ends made
      obtain rfl : id = second := Except.ok.inj (identified.symm.trans two)
      exact ⟨first, one, source ▸ sources edge stored (dependent.symm ▸ inside)⟩
    · push Not at used
      obtain ⟨id, edge, identified, made, stored⟩ := planted.roots item member used
      obtain ⟨source, dependent⟩ := child_edge_ends made
      exact ⟨id, identified, source ▸ sources edge stored (dependent.symm ▸ target)⟩
  intro item member
  obtain ⟨id, identified, contract, inside, same⟩ := reached _ (listed item member) item member rfl
  obtain ⟨child, again, stored⟩ := planted.children item member
  obtain rfl : id = child := Except.ok.inj (identified.symm.trans again)
  have found := closure_stored named collected contract inside
  rw [same, stored] at found
  exact ⟨id, identified, Option.some.inj found ▸ inside⟩

end Closures

section Invariant

variable [Engine] {s after : TaskExecutionProjectionV1}

/-- Stored plans are sound and filed by digest, adopted ones are in the graph below a known source,
and no two adopted plans have one source. -/
structure SoundPlans (s : TaskExecutionProjectionV1) : Prop where
  filed : ∀ digest plan, s.plans.get digest = some plan →
    plan.planDigest = digest ∧ parseTaskPlanV1 plan = .ok ()
  adopted : ∀ digest, (s.adopted.get digest).isSome = true → ∃ plan,
    s.plans.get digest = some plan ∧ plan.sourceTaskId ∈ s.contracts.keys ∧ Planted s plan
  single : ∀ first second one two, (s.adopted.get first).isSome = true →
    (s.adopted.get second).isSome = true → s.plans.get first = some one →
    s.plans.get second = some two → one.sourceTaskId = two.sourceTaskId → first = second

omit [Engine] in
theorem unadopted_plan {plan : TaskPlanV1} (unadopted : planAdopted s plan.sourceTaskId = false)
    {other : TaskPlanV1} {key : JsString} (found : s.plans.get key = some other)
    (same : other.sourceTaskId = plan.sourceTaskId) : (s.adopted.get other.planDigest).isSome = false := by
  simp only [planAdopted, List.any_eq_false] at unadopted
  have free := unadopted other ((s.plans.mem_values_iff other).mpr ⟨key, found⟩)
  simpa [same] using free

theorem sound_plans_step (scheduled : Scheduled s) (sound : SoundPlans s) {event : TaskExecutionEventV1}
    {sequence : Nat} (accepted : reduceTaskExecutionV1 s event sequence = .ok after) :
    SoundPlans after := by
  obtain ⟨kept, grown⟩ := graph_grows (graph_effect accepted)
  have known := kept_keys kept
  cases plan_effect accepted with
  | unchanged plans adopted =>
      refine ⟨plans ▸ sound.filed, ?_, plans ▸ adopted ▸ sound.single⟩
      intro digest there
      obtain ⟨plan, stored, source, planted⟩ := sound.adopted digest (adopted ▸ there)
      exact ⟨plan, plans ▸ stored, known _ source, planted_kept planted kept grown⟩
  | stored plan parsed fresh plans adopted =>
      -- nothing was adopted under the new plan's digest
      have old : ∀ digest, (s.adopted.get digest).isSome = true →
          after.plans.get digest = s.plans.get digest := by
        intro digest there
        obtain ⟨other, stored, _, _⟩ := sound.adopted digest there
        have apart : plan.planDigest ≠ digest := by
          rintro rfl
          exact Option.some_ne_none _ (stored.symm.trans fresh)
        rw [plans, Record.get_set_other _ _ apart]
      refine ⟨?_, ?_, ?_⟩
      · intro digest other found
        rw [plans, Record.get_set] at found
        split at found
        · obtain rfl := Option.some.inj found
          exact ⟨‹_›, parsed⟩
        · exact sound.filed digest other found
      · intro digest there
        rw [adopted] at there
        obtain ⟨other, stored, source, planted⟩ := sound.adopted digest there
        exact ⟨other, (old digest there).trans stored, known _ source, planted_kept planted kept grown⟩
      · intro first second one two here there found other
        rw [adopted] at here there
        exact sound.single first second one two here there ((old first here).symm.trans found)
          ((old second there).symm.trans other)
  | adoption planDigest plan adoption found unadopted free derived contracts edges plans adopted =>
      obtain ⟨rfl, parsed⟩ := sound.filed planDigest plan found
      have before : ∀ digest, (after.adopted.get digest).isSome = true →
          digest = plan.planDigest ∨ (s.adopted.get digest).isSome = true := by
        intro digest there
        rw [adopted, Record.get_set] at there
        split at there
        · exact Or.inl (Eq.symm ‹_›)
        · exact Or.inr there
      -- a plan of the same source would have been adopted already
      have alone : ∀ digest other, (s.adopted.get digest).isSome = true →
          s.plans.get digest = some other → other.sourceTaskId ≠ plan.sourceTaskId := by
        intro digest other there stored same
        have free := unadopted_plan unadopted stored same
        rw [(sound.filed digest other stored).1, there] at free
        cases free
      have source : plan.sourceTaskId ∈ s.contracts.keys := by
        obtain ⟨draft, -, -⟩ := mutable_ok free
        exact (Record.mem_keys_iff _ _).mpr (scheduled.placed _ _ draft)
      refine ⟨plans ▸ sound.filed, ?_, ?_⟩
      · intro digest there
        rcases before digest there with rfl | earlier
        · exact ⟨plan, plans ▸ found, known _ source, derived_planted derived contracts edges⟩
        · obtain ⟨other, stored, target, planted⟩ := sound.adopted digest earlier
          exact ⟨other, plans ▸ stored, known _ target, planted_kept planted kept grown⟩
      · intro first second one two here there stored other same
        rw [plans] at stored other
        rcases before first here with rfl | earlier <;> rcases before second there with rfl | prior
        · rfl
        · obtain rfl := Option.some.inj (stored.symm.trans found)
          exact absurd same.symm (alone second two prior other)
        · obtain rfl := Option.some.inj (other.symm.trans found)
          exact absurd same (alone first one earlier stored)
        · exact sound.single first second one two earlier prior stored other same

theorem sound_plans_reachable (reached : Reachable s) : SoundPlans s := by
  refine reaches_invariant SoundPlans ⟨?_, ?_, ?_⟩ ?_ reached
  · intro digest plan found
    simp [emptyTaskExecutionProjectionV1] at found
  · intro digest there
    simp [emptyTaskExecutionProjectionV1] at there
  · intro first second one two here
    simp [emptyTaskExecutionProjectionV1] at here
  · intro before input after run sound _ accepted
    exact sound_plans_step (scheduled_reachable run) sound accepted

/-- In every reachable projection the graph is sound, each adopted plan is in it with all its tasks
in the closure of the source, and no source has two adopted plans. -/
theorem plan_adoptions_hold (reached : Reachable s) :
    (s.edges.map DependencyEdgeV1.edgeId).Nodup ∧
      (∀ edge ∈ s.edges, edge.sourceTaskId ∈ s.contracts.keys ∧
        edge.dependentTaskId ∈ s.contracts.keys) ∧
      Acyclic (outgoing s.edges) ∧
      (∀ digest, (s.adopted.get digest).isSome = true → ∃ plan,
        s.plans.get digest = some plan ∧ plan.planDigest = digest ∧ Planted s plan ∧
          ∃ closure, taskDependencyClosureV1 s plan.sourceTaskId = .ok closure ∧
            ∀ item ∈ plan.tasks, ∃ id, planChildId digest item.key = .ok id ∧
              planChildContract plan item id ∈ closure.contracts) ∧
      ∀ first second one two, (s.adopted.get first).isSome = true →
        (s.adopted.get second).isSome = true → s.plans.get first = some one →
        s.plans.get second = some two → one.sourceTaskId = two.sourceTaskId → first = second := by
  have graph := sound_graph_reachable reached
  have sound := sound_plans_reachable reached
  refine ⟨(scheduled_reachable reached).edgeIds, ?_, graph.acyclic, ?_, sound.single⟩
  · intro edge member
    exact ⟨(graph.known edge member).source, (graph.known edge member).dependent⟩
  · intro digest there
    obtain ⟨plan, stored, source, planted⟩ := sound.adopted digest there
    obtain ⟨rfl, parsed⟩ := sound.filed digest plan stored
    obtain ⟨closure, collected⟩ := closure_exists graph.known source
    have named := (graphs_reachable reached).1
    exact ⟨plan, stored, rfl, planted, closure, collected,
      planted_closure named planted parsed collected⟩

end Invariant

section Adopted

attribute [local instance] shortEngine

def adoptedPlanner : TaskContractV2 :=
  { sampleTask (js "p") with
    kind := .planner
    sourceTaskId := some (js "t") }

def adoptedItem (key : JsString) (dependsOn : List JsString) : TaskPlanItemV1 :=
  { key := key
    title := js "t"
    instructions := js "i"
    acceptanceCriteria := [js "c"]
    dependsOn := dependsOn }

def adoptedPlan : Except DomainError TaskPlanV1 := do
  let source ← taskContractDigestV2 (sampleTask (js "t"))
  let plan : TaskPlanV1 :=
    { sourceTaskId := js "t"
      sourceContractDigest := source
      tasks := [adoptedItem (js "a") [], adoptedItem (js "b") [js "a"]]
      planDigest := [] }
  let digest ← taskPlanDigest plan
  return { plan with planDigest := digest }

def plannerPrepared : Except DomainError TaskExecutionPreparedDataV1 := do
  let profile := { sampleProfile with purpose := .planner }
  let contractDigest ← taskContractDigestV2 adoptedPlanner
  let profileDigest ← taskExecutionProfileDigest profile
  let join := sampleJoin (js "p") contractDigest []
  let joinDigest ← sealDependencyJoinSnapshot join
  let forkPin ← sealForkPin (samplePin joinDigest)
  let rendered ← domainDigest (js "horseness.context-source-bytes.v1") (.str (base64 (utf8 (js "c"))))
  let manifest := sampleManifest (js "a") 1 forkPin.forkPinDigest profileDigest rendered
  let manifestDigest ← contextManifestCoreDigest manifest
  return {
    workflowId := none
    taskId := js "p"
    attemptId := js "a"
    generation := 1
    profile := profile
    profileDigest := profileDigest
    forkPin := forkPin
    join := join
    manifest := manifest
    binding := sampleBinding (js "a") 1 forkPin.forkPinDigest manifestDigest
    renderedContext := js "c"
    evaluationClock := sampleClock
    lease := sampleLease }

def plannerResolution : TaskResolutionV1 :=
  { taskId := js "p"
    consideredGenerationOutcomes := [⟨1, .succeeded, 1⟩]
    winningGeneration := some 1
    retryPolicyDigest := js "p"
    arbitrationReason := js "earliest-terminal-success"
    observationCursor := sampleCursor
    resolution := .succeeded }

def adoptedPayloads : Except DomainError (List TaskExecutionPayloadV1) := do
  let prepared ← plannerPrepared
  let receipt ← sampleReceipt prepared
  let plan ← adoptedPlan
  return [.taskCreatedV2 (sampleTask (js "t")), .taskCreatedV2 adoptedPlanner,
    .taskActivatedV1 (js "p"), .taskExecutionPreparedV1 prepared,
    .taskExecutionTransitionV1 (sampleReference prepared) .commitLaunchIntent,
    .taskExecutionReceiptV1 (sampleReference prepared) receipt,
    .taskResolvedV2 plannerResolution sampleClock, .taskPlanProposedV1 (js "p") plan,
    .taskPlanAdoptedV1 (js "t") plan.planDigest]

def adoptedState : TaskExecutionProjectionV1 := sampleState anything adoptedPayloads

instance adopted_state_reachable : Fact (Reachable adoptedState ∧
    adoptedState.plans.values.any (fun plan => (adoptedState.adopted.get plan.planDigest).isSome) =
      true) :=
  ⟨sample_reachable adoptedPayloads
    (fun s => s.plans.values.any (fun plan => (s.adopted.get plan.planDigest).isSome))
    (by decide +kernel)⟩

theorem plan_adoptions_hold_adopted : Acyclic (outgoing adoptedState.edges) ∧
    ∃ plan ∈ adoptedState.plans.values, Planted adoptedState plan := by
  obtain ⟨_, _, acyclic, adopted, _⟩ := plan_adoptions_hold adopted_state_reachable.out.1
  obtain ⟨_, _, there⟩ := List.any_eq_true.mp adopted_state_reachable.out.2
  obtain ⟨plan, stored, _, planted, _⟩ := adopted _ there
  exact ⟨acyclic, plan, (adoptedState.plans.mem_values_iff plan).mpr ⟨_, stored⟩, planted⟩

end Adopted

end Horseness.PlanAdoptions
