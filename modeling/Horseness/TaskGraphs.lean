import Horseness.SearchOrders
import Horseness.Scheduling

/-!
What the cycle check accepts: edges that are valid, have ids of their own, join known tasks and
form no cycle. The closure of a task is found whenever the edges join known tasks, and holds
whatever the task waits for.
-/

namespace Horseness.TaskGraphs

open FallibleRuns Records DepthFirst SearchOrders ScriptText ScriptEngine Canonical Tasks Execution
  ExecutionSteps GraphFreeze

section Search

variable {edges : List DependencyEdgeV1} {tasks visiting visited after : List JsString}
  {task : JsString}

-- A completed visit only adds, and its task is among what it adds.
theorem visit_adds (fuel : Nat) (completed : visitTask edges fuel visiting task visited = .ok after) :
    visited ⊆ after ∧ task ∈ after := by
  induction fuel generalizing visiting task visited after with
  | zero => cases completed
  | succ fuel ih =>
      rw [visitTask] at completed
      split at completed
      · cases completed
      split at completed
      · next old =>
          obtain rfl := Except.ok.inj completed
          exact ⟨List.Subset.refl _, old⟩
      · simp only [bind_ok_iff, pure_ok_iff] at completed
        obtain ⟨inner, folded, rfl⟩ := completed
        have collected := fold_collects (fun _ _ _ _ stepped => ih stepped) folded
        exact ⟨fun item member => List.mem_append_left _ (collected.1 member), by simp⟩

-- A completed visit puts its task behind everything that depends on it.
theorem visit_finished (fuel : Nat) (finished : Finished (outgoing edges) visited)
    (completed : visitTask edges fuel visiting task visited = .ok after) :
    Finished (outgoing edges) after := by
  induction fuel generalizing visiting task visited after with
  | zero => cases completed
  | succ fuel ih =>
      rw [visitTask] at completed
      split at completed
      · cases completed
      split at completed
      · obtain rfl := Except.ok.inj completed
        exact finished
      · simp only [bind_ok_iff, pure_ok_iff] at completed
        obtain ⟨inner, folded, rfl⟩ := completed
        have ordered : Finished (outgoing edges) inner := by
          apply foldlM_invariant _ (Finished (outgoing edges)) _ _ _ _ finished folded
          intro state child next _ given stepped
          exact ih given stepped
        have collected := fold_collects (fun _ _ _ _ stepped => visit_adds fuel stepped) folded
        exact finished_concat_iff.mpr ⟨ordered, collected.2⟩

/-- Without cycles a visit completes: its path has no task twice, so it is no deeper than there
are tasks. -/
theorem visit_tasks_complete (acyclic : Acyclic (outgoing edges))
    (known : ∀ task ∈ tasks, outgoing edges task ⊆ tasks) (fuel : Nat) (member : task ∈ tasks)
    (unique : visiting.Nodup) (inside : visiting ⊆ tasks)
    (path : ∀ above ∈ visiting, Relation.TransGen (Leads (outgoing edges)) above task)
    (deep : tasks.length < fuel + visiting.length) :
    ∃ after, visitTask edges fuel visiting task visited = .ok after := by
  induction fuel generalizing visiting task visited with
  | zero =>
      have fits := (List.subperm_of_subset unique inside).length_le
      omega
  | succ fuel ih =>
      have fresh : task ∉ visiting := fun again => acyclic task (path task again)
      rw [visitTask, if_neg fresh]
      by_cases old : task ∈ visited
      · exact ⟨visited, if_pos old⟩
      · have steps : ∀ state, True → ∀ child ∈ outgoing edges task, ∃ next,
            visitTask edges fuel (task :: visiting) child state = .ok next ∧ True := by
          intro state _ child leads
          have below : ∀ above ∈ task :: visiting,
              Relation.TransGen (Leads (outgoing edges)) above child := by
            intro above listed
            rcases List.mem_cons.mp listed with rfl | earlier
            · exact .single leads
            · exact (path above earlier).tail leads
          obtain ⟨next, stepped⟩ := ih (known task member leads) (List.nodup_cons.mpr ⟨fresh, unique⟩)
            (List.cons_subset.mpr ⟨member, inside⟩) below (by simp only [List.length_cons]; omega)
          exact ⟨next, stepped, trivial⟩
        obtain ⟨final, folded, _⟩ := fold_completes (fun _ => True) _ trivial steps
        rw [if_neg old, folded]
        exact ⟨final ++ [task], rfl⟩

end Search

section Acceptance

variable {edges : List DependencyEdgeV1} {tasks : List JsString}

/-- An edge that is valid and joins known tasks. -/
structure Joins (tasks : List JsString) (edge : DependencyEdgeV1) : Prop where
  valid : validateDependencyEdge edge = .ok ()
  source : edge.sourceTaskId ∈ tasks
  dependent : edge.dependentTaskId ∈ tasks

theorem joins_iff {edge : DependencyEdgeV1} : Joins tasks edge ↔
    validateDependencyEdge edge = .ok () ∧ edge.sourceTaskId ∈ tasks ∧ edge.dependentTaskId ∈ tasks :=
  ⟨fun joins => ⟨joins.valid, joins.source, joins.dependent⟩,
    fun parts => ⟨parts.1, parts.2.1, parts.2.2⟩⟩

theorem register_edge_ok_iff {ids after : List JsString} {edge : DependencyEdgeV1} :
    registerEdge tasks ids edge = .ok after ↔
      Joins tasks edge ∧ edge.edgeId ∉ ids ∧ after = ids ++ [edge.edgeId] := by
  simp only [registerEdge, bind_ok_iff, ensure_ok_iff, pure_ok_iff]
  constructor
  · rintro ⟨_, valid, _, ⟨fresh, source, dependent⟩, same⟩
    exact ⟨⟨valid, source, dependent⟩, fresh, same.symm⟩
  · rintro ⟨⟨valid, source, dependent⟩, fresh, same⟩
    exact ⟨(), valid, (), ⟨fresh, source, dependent⟩, same.symm⟩

theorem registered_iff {ids : List JsString} (unique : ids.Nodup) :
    (∃ after, edges.foldlM (registerEdge tasks) ids = .ok after) ↔
      (∀ edge ∈ edges, Joins tasks edge) ∧ (ids ++ edges.map DependencyEdgeV1.edgeId).Nodup := by
  induction edges generalizing ids with
  | nil => simpa [pure, Except.pure] using unique
  | cons edge rest ih =>
      have shift : ids ++ (edge :: rest).map DependencyEdgeV1.edgeId =
          (ids ++ [edge.edgeId]) ++ rest.map DependencyEdgeV1.edgeId := by simp
      rw [shift, List.forall_mem_cons]
      constructor
      · rintro ⟨after, folded⟩
        obtain ⟨middle, first, later⟩ := (foldlM_cons_ok_iff _ _ _ _ _).mp folded
        obtain ⟨joins, fresh, rfl⟩ := register_edge_ok_iff.mp first
        have grown : (ids ++ [edge.edgeId]).Nodup := by
          rw [← List.concat_eq_append]
          exact unique.concat fresh
        obtain ⟨others, distinct⟩ := (ih grown).mp ⟨after, later⟩
        exact ⟨⟨joins, others⟩, distinct⟩
      · rintro ⟨⟨joins, others⟩, distinct⟩
        have grown : (ids ++ [edge.edgeId]).Nodup := distinct.sublist (List.sublist_append_left _ _)
        have fresh : edge.edgeId ∉ ids := by
          intro listed
          exact List.disjoint_of_nodup_append grown listed (List.mem_singleton_self _)
        obtain ⟨after, later⟩ := (ih grown).mpr ⟨others, distinct⟩
        exact ⟨after, (foldlM_cons_ok_iff _ _ _ _ _).mpr
          ⟨_, register_edge_ok_iff.mpr ⟨joins, fresh, rfl⟩, later⟩⟩

theorem outgoing_iff {task child : JsString} : child ∈ outgoing edges task ↔
    ∃ edge ∈ edges, edge.sourceTaskId = task ∧ edge.dependentTaskId = child := by
  simp [outgoing, and_assoc]

theorem acyclic_order (accepted : assertAcyclic tasks edges = .ok ()) :
    tasks.Nodup ∧ (∀ edge ∈ edges, Joins tasks edge) ∧ (edges.map DependencyEdgeV1.edgeId).Nodup ∧
      ∃ order, Finished (outgoing edges) order ∧ tasks ⊆ order := by
  simp only [assertAcyclic, bind_ok_iff, ensure_ok_iff, pure_ok_iff] at accepted
  obtain ⟨_, distinct, ids, registered, visited, folded, _⟩ := accepted
  obtain ⟨joins, unique⟩ := (registered_iff List.nodup_nil).mp ⟨ids, registered⟩
  have finished : Finished (outgoing edges) visited := by
    apply foldlM_invariant _ (Finished (outgoing edges)) _ _ _ _ finished_nil folded
    intro state task next _ given stepped
    exact visit_finished _ given stepped
  have collected := fold_collects (fun _ _ _ _ stepped => visit_adds _ stepped) folded
  exact ⟨distinct, joins, unique, visited, finished, collected.2⟩

theorem acyclic_iff : assertAcyclic tasks edges = .ok () ↔ tasks.Nodup ∧
    (∀ edge ∈ edges, Joins tasks edge) ∧ (edges.map DependencyEdgeV1.edgeId).Nodup ∧
      Acyclic (outgoing edges) := by
  constructor
  · intro accepted
    obtain ⟨distinct, joins, unique, order, finished, listed⟩ := acyclic_order accepted
    refine ⟨distinct, joins, unique, finished_acyclic finished ?_⟩
    intro task child leads
    obtain ⟨edge, member, rfl, _⟩ := outgoing_iff.mp leads
    exact listed (joins edge member).source
  · rintro ⟨distinct, joins, unique, acyclic⟩
    obtain ⟨ids, registered⟩ := (registered_iff List.nodup_nil).mpr ⟨joins, unique⟩
    have known : ∀ task ∈ tasks, outgoing edges task ⊆ tasks := by
      intro task _ child leads
      obtain ⟨edge, listed, _, rfl⟩ := outgoing_iff.mp leads
      exact (joins edge listed).dependent
    have steps : ∀ state, True → ∀ task ∈ tasks, ∃ next,
        visitTask edges (tasks.length + 1) [] task state = .ok next ∧ True := by
      intro state _ task member
      have completes : ∃ next, visitTask edges (tasks.length + 1) [] task state = .ok next :=
        visit_tasks_complete acyclic known _ member List.nodup_nil (List.nil_subset _) (by simp)
          (by simp)
      obtain ⟨next, stepped⟩ := completes
      exact ⟨next, stepped, trivial⟩
    obtain ⟨final, folded, _⟩ := fold_completes (fun _ => True) tasks trivial steps
    simp only [assertAcyclic, bind_ok_iff, ensure_ok_iff, pure_ok_iff]
    exact ⟨(), distinct, ids, registered, final, folded, trivial⟩

end Acceptance

section Closures

variable {s : TaskExecutionProjectionV1} {target : JsString}

/-- Every edge of the projection joins tasks that have contracts. -/
def EdgesKnown (s : TaskExecutionProjectionV1) : Prop := ∀ edge ∈ s.edges, Joins s.contracts.keys edge

theorem source_iff {task source : JsString} : source ∈ sourcesOf s.edges task ↔
    ∃ edge ∈ s.edges, edge.dependentTaskId = task ∧ edge.sourceTaskId = source := by
  simp [sourcesOf, and_assoc]

/-- Every edge of the projection starts and ends at tasks that have contracts. -/
def EndpointsKnown (s : TaskExecutionProjectionV1) : Prop :=
  ∀ edge ∈ s.edges, edge.sourceTaskId ∈ s.contracts.keys ∧ edge.dependentTaskId ∈ s.contracts.keys

-- The search behind the closure of a known task ends, and marks each task once.
theorem closure_searched (known : EndpointsKnown s) (there : target ∈ s.contracts.keys) :
    ∃ seen, closureTasks s target = .ok seen ∧ seen ⊆ s.contracts.keys ∧ seen.Nodup := by
  have entered : ∀ task ∈ s.contracts.keys, enterTask s task = .ok () := by
    intro task member
    obtain ⟨contract, found⟩ := (Record.mem_keys_iff _ _).mp member
    exact ensure_true _ (by rw [found]; rfl)
  have closed : ∀ task ∈ s.contracts.keys, sourcesOf s.edges task ⊆ s.contracts.keys := by
    intro task _ source listed
    obtain ⟨edge, member, _, rfl⟩ := source_iff.mp listed
    exact (known edge member).1
  have deep : s.contracts.keys.length < s.contracts.keys.length + 1 + ([] : List JsString).length := by
    simp
  obtain ⟨seen, visited, inside, once, _⟩ := visit_completes entered closed _ there (List.nil_subset _)
    List.nodup_nil deep
  exact ⟨seen, visited, inside, once⟩

theorem closure_contracts {seen : List JsString} (inside : seen ⊆ s.contracts.keys) :
    ∃ contracts, (seen.insertionSort (· ≤ ·)).mapM
      (fun id => required (s.contracts.get id) DomainError.executionInvalid) = .ok contracts := by
  apply map_completes
  intro id member
  obtain ⟨contract, stored⟩ :=
    (Record.mem_keys_iff _ _).mp (inside ((List.mem_insertionSort _).mp member))
  exact ⟨contract, (required_ok_iff _ _ _).mpr stored⟩

theorem closure_exists (known : EdgesKnown s) (there : target ∈ s.contracts.keys) :
    ∃ closure, taskDependencyClosureV1 s target = .ok closure := by
  have ends : EndpointsKnown s := fun edge member =>
    ⟨(known edge member).source, (known edge member).dependent⟩
  obtain ⟨seen, visited, inside, _⟩ := closure_searched ends there
  obtain ⟨contracts, mapped⟩ := closure_contracts inside
  exact ⟨⟨contracts, _⟩, bind_ok_iff.mpr ⟨seen, visited, bind_ok_iff.mpr ⟨contracts, mapped, rfl⟩⟩⟩

def Feeds (edges : List DependencyEdgeV1) (source dependent : JsString) : Prop :=
  ∃ edge ∈ edges, edge.sourceTaskId = source ∧ edge.dependentTaskId = dependent

theorem feeds_sources {source task : JsString} :
    Leads (sourcesOf s.edges) task source ↔ Feeds s.edges source task := by
  rw [Leads, source_iff, Feeds]
  simp only [and_comm]

theorem feeds_closure {task : JsString} : Relation.ReflTransGen (Leads (sourcesOf s.edges)) target task ↔
    Relation.ReflTransGen (Feeds s.edges) task target := by
  rw [← Relation.reflTransGen_swap]
  have same : Function.swap (Leads (sourcesOf s.edges)) = Feeds s.edges := by
    funext source task
    exact propext feeds_sources
  rw [same]

-- The closure of a known task: the tasks that lead to it, each once, and the edges among them.
theorem closure_exact (known : EndpointsKnown s) (there : target ∈ s.contracts.keys) :
    ∃ closure ids, taskDependencyClosureV1 s target = .ok closure ∧ ids.Nodup ∧
      (∀ id, id ∈ ids ↔ Relation.ReflTransGen (Feeds s.edges) id target) ∧
      List.Forall₂ (fun id contract => s.contracts.get id = some contract) ids closure.contracts ∧
      closure.edges = s.edges.filter
        (fun edge => edge.dependentTaskId ∈ ids ∧ edge.sourceTaskId ∈ ids) := by
  obtain ⟨seen, visited, inside, once⟩ := closure_searched known there
  obtain ⟨contracts, mapped⟩ := closure_contracts inside
  have sorted := List.perm_insertionSort (· ≤ ·) seen
  refine ⟨⟨contracts, _⟩, seen.insertionSort (· ≤ ·), bind_ok_iff.mpr ⟨seen, visited,
    bind_ok_iff.mpr ⟨contracts, mapped, rfl⟩⟩, sorted.nodup_iff.mpr once, fun id => ?_, ?_, ?_⟩
  · exact sorted.mem_iff.trans ((visit_exact visited id).trans feeds_closure)
  · exact ((mapM_ok_iff _ _ _).mp mapped).imp fun id contract stored =>
      (required_ok_iff _ _ _).mp stored
  · simp only [sorted.mem_iff]

theorem closure_unknown (missing : target ∉ s.contracts.keys) :
    taskDependencyClosureV1 s target = .error .taskNotFound := by
  have absent : (s.contracts.get target).isSome = false := by
    by_contra there
    obtain ⟨contract, stored⟩ := Option.isSome_iff_exists.mp (eq_true_of_ne_false there)
    exact missing ((Record.mem_keys_iff _ _).mpr ⟨contract, stored⟩)
  rw [taskDependencyClosureV1, closureTasks, visit, if_neg List.not_mem_nil, enterTask, absent]
  rfl

theorem feeds_outgoing {edges : List DependencyEdgeV1} : Leads (outgoing edges) = Feeds edges := by
  funext source dependent
  exact propext outgoing_iff

theorem closure_stored (named : Named s) {closure : DependencyClosureV1}
    (collected : taskDependencyClosureV1 s target = .ok closure) :
    ∀ contract ∈ closure.contracts, s.contracts.get contract.taskId = some contract := by
  obtain ⟨seen, _, mapped, _⟩ := (closure_ok_iff _ _).mp collected
  intro contract member
  obtain ⟨index, bound, rfl⟩ := List.mem_iff_getElem.mp member
  have found := mapped.get (mapped.length_eq ▸ bound) bound
  exact (congrArg s.contracts.get (named _ _ found)).trans found

-- The closure has the target and, with a task, all that the task waits for.
theorem closure_holds (named : Named s) {closure : DependencyClosureV1}
    (collected : taskDependencyClosureV1 s target = .ok closure) :
    (∃ contract ∈ closure.contracts, contract.taskId = target) ∧
      ∀ edge ∈ s.edges, (∃ contract ∈ closure.contracts, contract.taskId = edge.dependentTaskId) →
        ∃ contract ∈ closure.contracts, contract.taskId = edge.sourceTaskId := by
  obtain ⟨seen, visited, mapped, _⟩ := (closure_ok_iff _ _).mp collected
  have listed := closure_lists_seen named mapped
  refine ⟨listed target (visit_grows _ _ _ _ visited).2, ?_⟩
  rintro edge member ⟨contract, inside, same⟩
  have dependent : edge.dependentTaskId ∈ seen := by
    obtain ⟨index, bound, rfl⟩ := List.mem_iff_getElem.mp inside
    have within := mapped.length_eq ▸ bound
    have sorted : (seen.insertionSort (· ≤ ·)).get ⟨index, within⟩ ∈ seen :=
      (List.mem_insertionSort (· ≤ ·)).mp (List.getElem_mem within)
    have own := named _ _ (mapped.get within bound)
    exact same ▸ own ▸ sorted
  exact listed _ (visit_closed _ _ _ _ visited _ dependent List.not_mem_nil _
    (source_iff.mpr ⟨edge, member, rfl, rfl⟩))

end Closures

section Runs

variable [Engine] {s after : TaskExecutionProjectionV1}

theorem graph_grows (effect : GraphEffect s after) : ContractsKept s after ∧ s.edges ⊆ after.edges := by
  cases effect with
  | unchanged contracts edges workflows =>
      exact ⟨fun id contract found => contracts ▸ found, edges ▸ List.Subset.refl _⟩
  | contract contract added =>
      have kept := (add_contract_frame added).contracts
      obtain ⟨-, rfl⟩ := (add_contract_ok_iff contract).mp added
      exact ⟨kept, List.Subset.refl _⟩
  | edge edge free acyclic contracts edges workflows =>
      exact ⟨fun id contract found => contracts ▸ found, edges ▸ List.subset_append_left _ _⟩
  | adoption plan adoption grown free derived added acyclic contracts edges workflows =>
      have kept := (add_contracts_frame adoption.contracts added).contracts
      obtain ⟨same, -, -⟩ := add_contracts_fresh adoption.contracts added
      refine ⟨fun id contract found => contracts ▸ kept id contract found, ?_⟩
      rw [edges, same]
      exact List.subset_append_left _ _
  | workflow workflowId record contracts edges workflows sound fresh =>
      exact ⟨fun id contract found => contracts ▸ found, edges ▸ List.Subset.refl _⟩

omit [Engine] in
theorem kept_keys (kept : ContractsKept s after) : ∀ id ∈ s.contracts.keys, id ∈ after.contracts.keys := by
  intro id member
  obtain ⟨contract, stored⟩ := (Record.mem_keys_iff _ _).mp member
  exact (Record.mem_keys_iff _ _).mpr ⟨contract, kept id contract stored⟩

/-- The edges join tasks that have contracts, without a cycle. -/
structure SoundGraph (s : TaskExecutionProjectionV1) : Prop where
  known : EdgesKnown s
  acyclic : Acyclic (outgoing s.edges)

omit [Engine] in
theorem sound_graph_kept (sound : SoundGraph s) (kept : ContractsKept s after)
    (edges : after.edges = s.edges) : SoundGraph after := by
  refine ⟨?_, edges ▸ sound.acyclic⟩
  intro edge member
  have joins := sound.known edge (edges ▸ member)
  exact ⟨joins.valid, kept_keys kept _ joins.source, kept_keys kept _ joins.dependent⟩

omit [Engine] in
theorem accepted_sound (accepted : assertAcyclic s.contracts.keys s.edges = .ok ()) : SoundGraph s := by
  obtain ⟨-, joins, -, acyclic⟩ := acyclic_iff.mp accepted
  exact ⟨joins, acyclic⟩

theorem sound_graph_step (sound : SoundGraph s) (effect : GraphEffect s after) : SoundGraph after := by
  have kept := (graph_grows effect).1
  cases effect with
  | unchanged contracts edges workflows => exact sound_graph_kept sound kept edges
  | contract contract added =>
      obtain ⟨-, rfl⟩ := (add_contract_ok_iff contract).mp added
      exact sound_graph_kept sound kept rfl
  | edge edge free acyclic contracts edges workflows => exact accepted_sound acyclic
  | adoption plan adoption grown free derived added acyclic contracts edges workflows =>
      exact accepted_sound acyclic
  | workflow workflowId record contracts edges workflows running fresh =>
      exact sound_graph_kept sound kept edges

theorem sound_graph_reachable (reached : Reachable s) : SoundGraph s := by
  refine reaches_invariant SoundGraph (accepted_sound rfl) ?_ reached
  rintro before input after - sound - accepted
  exact sound_graph_step sound (graph_effect accepted)

end Runs

end Horseness.TaskGraphs
