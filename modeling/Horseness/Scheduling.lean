import Horseness.GraphFreeze

/-!
A prepared attempt runs against the dependencies that its join froze. Preparation
compares the join with the edges into the task; afterwards no edge can be added
there, since the task is no draft any more, and no resolution can be replaced, since
a resolved task has no further transition.
-/

namespace Horseness.Scheduling

open FallibleRuns Records ScriptText PlainObjects ScriptEngine Canonical ForkContext Tasks
  ExecutionEvents Execution ExecutionSteps GraphFreeze RecordedRuns

section Edges

def edgeIdentity (edge : DependencyEdgeV1) : JsString × JsString × DependencyType :=
  (edge.edgeId, edge.sourceTaskId, edge.edgeType)

def outcomeIdentity (outcome : DependencyOutcomeV1) : JsString × JsString × DependencyType :=
  (outcome.edgeId, outcome.sourceTaskId, outcome.edgeType)

def edgesInto (s : TaskExecutionProjectionV1) (task : JsString) : List DependencyEdgeV1 :=
  s.edges.filter (fun edge => edge.dependentTaskId = task)

theorem register_edges {tasks seen ids : List JsString} {edges : List DependencyEdgeV1}
    (unique : seen.Nodup) (registered : edges.foldlM (registerEdge tasks) seen = .ok ids) :
    ids = seen ++ edges.map DependencyEdgeV1.edgeId ∧ ids.Nodup := by
  induction edges generalizing seen with
  | nil =>
      obtain rfl : seen = ids := by simpa [pure, Except.pure] using registered
      exact ⟨by simp, unique⟩
  | cons edge rest ih =>
      obtain ⟨middle, first, later⟩ := (foldlM_cons_ok_iff _ edge rest seen ids).mp registered
      simp only [registerEdge, bind_ok_iff, ensure_ok_iff, pure_ok_iff] at first
      obtain ⟨_, -, _, ⟨fresh, -, -⟩, rfl⟩ := first
      have grown : (seen ++ [edge.edgeId]).Nodup := by
        rw [← List.concat_eq_append]
        exact unique.concat fresh
      obtain ⟨rfl, nodup⟩ := ih grown later
      exact ⟨by simp, nodup⟩

theorem acyclic_edge_ids {tasks : List JsString} {edges : List DependencyEdgeV1}
    (acyclic : assertAcyclic tasks edges = .ok ()) : (edges.map DependencyEdgeV1.edgeId).Nodup := by
  simp only [assertAcyclic, bind_ok_iff] at acyclic
  obtain ⟨_, -, ids, registered, -⟩ := acyclic
  obtain ⟨rfl, unique⟩ := register_edges List.nodup_nil registered
  exact unique

theorem edges_into_unique {s : TaskExecutionProjectionV1}
    (unique : (s.edges.map DependencyEdgeV1.edgeId).Nodup) (task : JsString) :
    ((edgesInto s task).map DependencyEdgeV1.edgeId).Nodup :=
  unique.sublist (List.filter_sublist.map _)

-- As many outcomes as edges, and one for every edge: they match one to one.
theorem outcomes_match {edges : List DependencyEdgeV1} {outcomes : List DependencyOutcomeV1}
    (unique : (edges.map DependencyEdgeV1.edgeId).Nodup) (counted : outcomes.length = edges.length)
    (listed : ∀ edge ∈ edges, ∃ outcome ∈ outcomes, outcomeIdentity outcome = edgeIdentity edge) :
    (edges.map edgeIdentity).Perm (outcomes.map outcomeIdentity) := by
  have distinct : (edges.map edgeIdentity).Nodup := by
    apply List.Nodup.of_map Prod.fst
    rw [List.map_map]
    exact unique
  have inside : edges.map edgeIdentity ⊆ outcomes.map outcomeIdentity := by
    intro identity member
    obtain ⟨edge, edgeListed, rfl⟩ := List.mem_map.mp member
    obtain ⟨outcome, outcomeListed, same⟩ := listed edge edgeListed
    exact List.mem_map.mpr ⟨outcome, outcomeListed, same⟩
  apply (List.subperm_of_subset distinct inside).perm_of_length_le
  simp [counted]

end Edges

section Joins

/-- The stored resolutions satisfy the edges into a prepared task, as its join has them. -/
structure Joined (s : TaskExecutionProjectionV1) (p : TaskExecutionPreparedDataV1) : Prop where
  unique : ((edgesInto s p.taskId).map DependencyEdgeV1.edgeId).Nodup
  matched : ((edgesInto s p.taskId).map edgeIdentity).Perm
    (p.join.dependencies.map outcomeIdentity)
  satisfied : ∀ edge ∈ edgesInto s p.taskId, ∃ resolution,
    s.resolutions.get edge.sourceTaskId = some resolution ∧
      dependencySatisfied edge resolution.resolution = .ok true ∧
      ∃ outcome ∈ p.join.dependencies, outcomeIdentity outcome = edgeIdentity edge ∧
        outcome.winningGeneration = resolution.winningGeneration

/-- What carries scheduling safety through a run. -/
structure Scheduled (s : TaskExecutionProjectionV1) : Prop where
  edgeIds : (s.edges.map DependencyEdgeV1.edgeId).Nodup
  placed : ∀ id lifecycle, s.lifecycles.get id = some lifecycle →
    ∃ contract, s.contracts.get id = some contract
  started : ∀ key p, s.prepared.get key = some p → ∃ lifecycle,
    s.lifecycles.get p.taskId = some lifecycle ∧ lifecycle ≠ .draft
  settled : ∀ id r, s.resolutions.get id = some r →
    s.lifecycles.get id = some (.resolved r.resolution)
  joined : ∀ key p, s.prepared.get key = some p → Joined s p

theorem scheduled_empty : Scheduled emptyTaskExecutionProjectionV1 := by
  constructor <;> simp [emptyTaskExecutionProjectionV1]

variable {s after : TaskExecutionProjectionV1}

/-- The prepared tasks keep their edges, and the recorded facts stay. -/
structure JoinsKept (s after : TaskExecutionProjectionV1) : Prop where
  prepared : ∀ key p, s.prepared.get key = some p → after.prepared.get key = some p
  edges : ∀ key p, s.prepared.get key = some p → edgesInto after p.taskId = edgesInto s p.taskId
  resolutions : ∀ id r, s.resolutions.get id = some r → after.resolutions.get id = some r

theorem JoinsKept.refl (s : TaskExecutionProjectionV1) : JoinsKept s s :=
  ⟨fun _ _ found => found, fun _ _ _ => rfl, fun _ _ found => found⟩

theorem JoinsKept.trans {middle : TaskExecutionProjectionV1} (first : JoinsKept s middle)
    (second : JoinsKept middle after) : JoinsKept s after where
  prepared key p stored := second.prepared key p (first.prepared key p stored)
  edges key p stored :=
    (second.edges key p (first.prepared key p stored)).trans (first.edges key p stored)
  resolutions id r stored := second.resolutions id r (first.resolutions id r stored)

theorem joined_kept (kept : JoinsKept s after) {key : JsString} {p : TaskExecutionPreparedDataV1}
    (stored : s.prepared.get key = some p) (joined : Joined s p) : Joined after p := by
  have same := kept.edges key p stored
  refine ⟨same ▸ joined.unique, same ▸ joined.matched, ?_⟩
  intro edge member
  rw [same] at member
  obtain ⟨resolution, recorded, rest⟩ := joined.satisfied edge member
  exact ⟨resolution, kept.resolutions _ _ recorded, rest⟩

variable [Engine]

theorem edge_ids_step (unique : (s.edges.map DependencyEdgeV1.edgeId).Nodup)
    (effect : GraphEffect s after) : (after.edges.map DependencyEdgeV1.edgeId).Nodup := by
  cases effect with
  | unchanged contracts edges workflows => exact edges ▸ unique
  | contract contract added =>
      obtain ⟨-, rfl⟩ := (add_contract_ok_iff contract).mp added
      exact unique
  | edge edge free acyclic contracts edges workflows => exact acyclic_edge_ids acyclic
  | adoption plan adoption grown free derived added acyclic contracts edges workflows =>
      exact acyclic_edge_ids acyclic
  | workflow workflowId record contracts edges workflows sound fresh => exact edges ▸ unique

omit [Engine] in
theorem mutable_not_prepared {id : JsString} {allowAutoPlan : Bool}
    (free : mutable s id allowAutoPlan = .ok ()) {key : JsString} {p : TaskExecutionPreparedDataV1}
    (stored : s.prepared.get key = some p) : p.taskId ≠ id := by
  obtain ⟨-, unprepared, -⟩ := mutable_ok free
  intro same
  have member := (s.prepared.mem_values_iff p).mpr ⟨key, stored⟩
  simp only [taskPrepared, List.any_eq_false] at unprepared
  exact unprepared p member (by simp [same])

theorem edges_into_step (scheduled : Scheduled s) (effect : GraphEffect s after) {key : JsString}
    {p : TaskExecutionPreparedDataV1} (stored : s.prepared.get key = some p) :
    edgesInto after p.taskId = edgesInto s p.taskId := by
  have grown {added : List DependencyEdgeV1} (edges : after.edges = s.edges ++ added)
      (elsewhere : ∀ edge ∈ added, edge.dependentTaskId ≠ p.taskId) :
      edgesInto after p.taskId = edgesInto s p.taskId := by
    have silent : added.filter (fun edge => edge.dependentTaskId = p.taskId) = [] := by
      rw [List.filter_eq_nil_iff]
      intro edge member into
      exact elsewhere edge member (of_decide_eq_true into)
    rw [edgesInto, edgesInto, edges, List.filter_append, silent, List.append_nil]
  cases effect with
  | unchanged contracts edges workflows => rw [edgesInto, edgesInto, edges]
  | contract contract added =>
      obtain ⟨-, rfl⟩ := (add_contract_ok_iff contract).mp added
      rfl
  | edge edge free acyclic contracts edges workflows =>
      refine grown edges ?_
      intro added member
      obtain rfl := List.mem_singleton.mp member
      exact (mutable_not_prepared free stored).symm
  | adoption plan adoption grownState free derived added acyclic contracts edges workflows =>
      obtain ⟨same, -, fresh⟩ := add_contracts_fresh adoption.contracts added
      refine grown (edges.trans (by rw [same])) ?_
      intro edge member into
      rcases adoption_dependents derived edge member with source | ⟨child, derivedChild, dependent⟩
      · exact mutable_not_prepared free stored (into.symm.trans source)
      · -- A child is a new task; a prepared task has a contract.
        obtain ⟨lifecycle, placed, -⟩ := scheduled.started key p stored
        obtain ⟨contract, found⟩ := scheduled.placed _ _ placed
        have absent := fresh child derivedChild
        rw [dependent, into, found] at absent
        cases absent
  | workflow workflowId record contracts edges workflows sound fresh =>
      rw [edgesInto, edgesInto, edges]

theorem prepared_joined (edgeIds : (s.edges.map DependencyEdgeV1.edgeId).Nodup)
    {p : TaskExecutionPreparedDataV1} (accepted : reduceTaskExecutionPreparedV1 s p = .ok after) :
    Joined s p := by
  obtain ⟨-, -, -, counted, frozen, -⟩ := prepared_ok accepted
  have unique := edges_into_unique edgeIds p.taskId
  have listed : ∀ edge ∈ edgesInto s p.taskId, ∃ resolution,
      s.resolutions.get edge.sourceTaskId = some resolution ∧
        dependencySatisfied edge resolution.resolution = .ok true ∧
        ∃ outcome ∈ p.join.dependencies, outcomeIdentity outcome = edgeIdentity edge ∧
          outcome.winningGeneration = resolution.winningGeneration := by
    intro edge member
    obtain ⟨resolution, outcome, stored, satisfied, found, source, kind, winner⟩ :=
      dependency_frozen_ok (frozen edge member)
    have named : outcome.edgeId = edge.edgeId := by simpa using List.find?_some found
    exact ⟨resolution, stored, satisfied, outcome, List.mem_of_find?_eq_some found,
      by rw [outcomeIdentity, edgeIdentity, named, source, kind], winner⟩
  refine ⟨unique, outcomes_match unique counted ?_, listed⟩
  intro edge member
  obtain ⟨-, -, -, outcome, outcomeListed, same, -⟩ := listed edge member
  exact ⟨outcome, outcomeListed, same⟩

end Joins

section Runs

variable [Engine] {s after : TaskExecutionProjectionV1}

theorem resolution_kept (scheduled : Scheduled s) {r : TaskResolutionV1}
    (accepted : reduceTaskResolvedV2 s r = .ok after) {id : JsString} {old : TaskResolutionV1}
    (stored : s.resolutions.get id = some old) : after.resolutions.get id = some old := by
  obtain ⟨_, lifecycle, -, -, found, unresolved, rfl⟩ := resolved_ok accepted
  have different : r.taskId ≠ id := by
    rintro rfl
    exact unresolved _ (Option.some.inj (found.symm.trans (scheduled.settled _ _ stored)))
  exact (get_assign_other s.resolutions r different).trans stored

theorem joins_kept_step (scheduled : Scheduled s) {event : TaskExecutionEventV1} {sequence : Nat}
    (accepted : reduceTaskExecutionV1 s event sequence = .ok after) : JoinsKept s after := by
  have edges := fun key p (stored : s.prepared.get key = some p) =>
    edges_into_step scheduled (graph_effect accepted) stored
  obtain ⟨-, effect⟩ := task_effect accepted
  cases effect with
  | graph frame =>
      exact ⟨fun _ _ found => frame.prepared ▸ found, edges, fun _ _ found => frame.resolutions ▸ found⟩
  | activated taskId accepted =>
      obtain ⟨-, rfl⟩ := activated_ok accepted
      exact ⟨fun _ _ found => found, edges, fun _ _ found => found⟩
  | prepared p payload accepted =>
      obtain ⟨-, unused, -, -, -, -, _, _, -, rfl⟩ := prepared_ok accepted
      refine ⟨?_, edges, fun _ _ found => found⟩
      intro key old found
      have different : attemptKey p.attemptId p.generation ≠ key := by
        rintro rfl
        exact Option.some_ne_none old (found.symm.trans unused)
      exact (s.prepared.get_set_other p different).trans found
  | transition attempt input accepted =>
      obtain ⟨_, _, _, -, -, -, -, -, rfl⟩ := transition_ok accepted
      exact ⟨fun _ _ found => found, edges, fun _ _ found => found⟩
  | received attempt r payload accepted =>
      obtain ⟨_, _, _, -, -, -, -, -, -, -, ⟨rfl, -⟩ | ⟨-, _, -, rfl⟩⟩ := receipt_ok accepted
      · exact ⟨fun _ _ found => found, edges, fun _ _ found => found⟩
      · exact ⟨fun _ _ found => found, edges, fun _ _ found => found⟩
  | aborted attempt reasonCode accepted =>
      obtain ⟨_, _, -, -, -, -, rfl⟩ := aborted_ok accepted
      exact ⟨fun _ _ found => found, edges, fun _ _ found => found⟩
  | resolved r accepted =>
      have resolutions := fun id old (stored : s.resolutions.get id = some old) =>
        resolution_kept scheduled accepted stored
      obtain ⟨_, _, -, -, -, -, rfl⟩ := resolved_ok accepted
      exact ⟨fun _ _ found => found, edges, resolutions⟩

theorem placed_step (placed : ∀ id lifecycle, s.lifecycles.get id = some lifecycle →
      ∃ contract, s.contracts.get id = some contract)
    {event : TaskExecutionEventV1} {sequence : Nat}
    (accepted : reduceTaskExecutionV1 s event sequence = .ok after) :
    ∀ id lifecycle, after.lifecycles.get id = some lifecycle →
      ∃ contract, after.contracts.get id = some contract := by
  -- A lifecycle that is written was there before.
  have advance {task : JsString} {old next : TaskLifecycle} {id : JsString} {found : TaskLifecycle}
      (stored : s.lifecycles.get task = some old)
      (hit : (s.lifecycles.set task next).get id = some found) :
      ∃ contract, s.contracts.get id = some contract := by
    rw [Record.get_set] at hit
    split at hit
    · exact placed _ _ (‹task = id› ▸ stored)
    · exact placed _ _ hit
  intro id lifecycle found
  obtain ⟨-, effect⟩ := task_effect accepted
  cases effect with
  | graph frame =>
      rcases frame.placed id lifecycle found with before | later
      · obtain ⟨contract, stored⟩ := placed id lifecycle before
        exact ⟨contract, frame.contracts id contract stored⟩
      · exact later
  | activated taskId accepted =>
      obtain ⟨draft, rfl⟩ := activated_ok accepted
      exact advance draft found
  | prepared p payload accepted =>
      obtain ⟨-, -, -, -, -, -, _, _, -, rfl⟩ := prepared_ok accepted
      exact placed id lifecycle found
  | transition attempt input accepted =>
      obtain ⟨_, _, _, -, -, -, -, -, rfl⟩ := transition_ok accepted
      exact placed id lifecycle found
  | received attempt r payload accepted =>
      obtain ⟨_, _, _, -, -, -, -, -, -, -, ⟨rfl, -⟩ | ⟨-, _, -, rfl⟩⟩ := receipt_ok accepted
      · exact placed id lifecycle found
      · exact placed id lifecycle found
  | aborted attempt reasonCode accepted =>
      obtain ⟨_, _, -, -, -, -, rfl⟩ := aborted_ok accepted
      exact placed id lifecycle found
  | resolved r accepted =>
      obtain ⟨_, _, -, -, stored, -, rfl⟩ := resolved_ok accepted
      exact advance stored found

/-- A task that has left the draft state stays out of it, and a resolved task stays
as it was resolved. -/
theorem lifecycle_step (scheduled : Scheduled s) {event : TaskExecutionEventV1} {sequence : Nat}
    (accepted : reduceTaskExecutionV1 s event sequence = .ok after) {id : JsString}
    {lifecycle : TaskLifecycle} (stored : s.lifecycles.get id = some lifecycle) :
    ∃ next, after.lifecycles.get id = some next ∧ (lifecycle ≠ .draft → next ≠ .draft) ∧
      ∀ resolution, lifecycle = .resolved resolution → next = .resolved resolution := by
  have same (kept : after.lifecycles.get id = s.lifecycles.get id) :
      ∃ next, after.lifecycles.get id = some next ∧ (lifecycle ≠ .draft → next ≠ .draft) ∧
        ∀ resolution, lifecycle = .resolved resolution → next = .resolved resolution :=
    ⟨lifecycle, kept.trans stored, fun left => left, fun _ past => past⟩
  obtain ⟨-, effect⟩ := task_effect accepted
  cases effect with
  | graph frame =>
      obtain ⟨contract, found⟩ := scheduled.placed id lifecycle stored
      exact same (frame.lifecycles id contract found)
  | activated taskId accepted =>
      obtain ⟨draft, rfl⟩ := activated_ok accepted
      by_cases hit : taskId = id
      · subst hit
        obtain rfl := Option.some.inj (stored.symm.trans draft)
        exact ⟨.active, Record.get_set_same _ _ _, by simp, by simp⟩
      · exact same (Record.get_set_other _ _ hit)
  | prepared p payload accepted =>
      obtain ⟨-, -, -, -, -, -, _, _, -, rfl⟩ := prepared_ok accepted
      exact same rfl
  | transition attempt input accepted =>
      obtain ⟨_, _, _, -, -, -, -, -, rfl⟩ := transition_ok accepted
      exact same rfl
  | received attempt r payload accepted =>
      obtain ⟨_, _, _, -, -, -, -, -, -, -, ⟨rfl, -⟩ | ⟨-, _, -, rfl⟩⟩ := receipt_ok accepted
      · exact same rfl
      · exact same rfl
  | aborted attempt reasonCode accepted =>
      obtain ⟨_, _, -, -, -, -, rfl⟩ := aborted_ok accepted
      exact same rfl
  | resolved r accepted =>
      obtain ⟨_, old, -, -, found, unresolved, rfl⟩ := resolved_ok accepted
      by_cases hit : r.taskId = id
      · subst hit
        obtain rfl := Option.some.inj (stored.symm.trans found)
        refine ⟨.resolved r.resolution, Record.get_set_same _ _ _, by simp, ?_⟩
        intro resolution past
        exact absurd past (unresolved resolution)
      · exact same (Record.get_set_other _ _ hit)

-- A resolution is stored together with the lifecycle that it ends.
theorem settled_step (scheduled : Scheduled s) {event : TaskExecutionEventV1} {sequence : Nat}
    (accepted : reduceTaskExecutionV1 s event sequence = .ok after) {id : JsString}
    {r : TaskResolutionV1} (stored : after.resolutions.get id = some r) :
    after.lifecycles.get id = some (.resolved r.resolution) := by
  have earlier (old : s.resolutions.get id = some r) :
      after.lifecycles.get id = some (.resolved r.resolution) := by
    obtain ⟨next, found, -, kept⟩ := lifecycle_step scheduled accepted (scheduled.settled id r old)
    exact found.trans (congrArg some (kept _ rfl))
  obtain ⟨-, effect⟩ := task_effect accepted
  cases effect with
  | graph frame => exact earlier (frame.resolutions ▸ stored)
  | activated taskId accepted =>
      obtain ⟨-, rfl⟩ := activated_ok accepted
      exact earlier stored
  | prepared p payload accepted =>
      obtain ⟨-, -, -, -, -, -, _, _, -, rfl⟩ := prepared_ok accepted
      exact earlier stored
  | transition attempt input accepted =>
      obtain ⟨_, _, _, -, -, -, -, -, rfl⟩ := transition_ok accepted
      exact earlier stored
  | received attempt r payload accepted =>
      obtain ⟨_, _, _, -, -, -, -, -, -, -, ⟨rfl, -⟩ | ⟨-, _, -, rfl⟩⟩ := receipt_ok accepted
      · exact earlier stored
      · exact earlier stored
  | aborted attempt reasonCode accepted =>
      obtain ⟨_, _, -, -, -, -, rfl⟩ := aborted_ok accepted
      exact earlier stored
  | resolved recorded accepted =>
      obtain ⟨_, lifecycle, -, -, -, -, rfl⟩ := resolved_ok accepted
      rcases get_assign_some stored with ⟨rfl, rfl⟩ | old
      · exact Record.get_set_same _ _ _
      · exact earlier old

theorem scheduled_step (scheduled : Scheduled s) {event : TaskExecutionEventV1} {sequence : Nat}
    (accepted : reduceTaskExecutionV1 s event sequence = .ok after) : Scheduled after := by
  have kept := joins_kept_step scheduled accepted
  -- Preparations that were there keep what holds of them.
  have old {key : JsString} {p : TaskExecutionPreparedDataV1}
      (stored : s.prepared.get key = some p) :
      (∃ lifecycle, after.lifecycles.get p.taskId = some lifecycle ∧ lifecycle ≠ .draft) ∧
        Joined after p := by
    obtain ⟨lifecycle, placed, left⟩ := scheduled.started key p stored
    obtain ⟨next, found, stays, -⟩ := lifecycle_step scheduled accepted placed
    exact ⟨⟨next, found, stays left⟩, joined_kept kept stored (scheduled.joined key p stored)⟩
  have all {key : JsString} {p : TaskExecutionPreparedDataV1}
      (stored : after.prepared.get key = some p) :
      (∃ lifecycle, after.lifecycles.get p.taskId = some lifecycle ∧ lifecycle ≠ .draft) ∧
        Joined after p := by
    obtain ⟨-, effect⟩ := task_effect accepted
    cases effect with
    | graph frame => exact old (frame.prepared ▸ stored)
    | activated taskId accepted =>
        obtain ⟨-, rfl⟩ := activated_ok accepted
        exact old stored
    | prepared fresh payload accepted =>
        have joined := prepared_joined scheduled.edgeIds accepted
        obtain ⟨active, -, -, -, -, -, _, _, -, rfl⟩ := prepared_ok accepted
        rw [Record.get_set] at stored
        split at stored
        · obtain rfl := Option.some.inj stored
          exact ⟨⟨.active, active, by simp⟩, joined.unique, joined.matched, joined.satisfied⟩
        · exact old stored
    | transition attempt input accepted =>
        obtain ⟨_, _, _, -, -, -, -, -, rfl⟩ := transition_ok accepted
        exact old stored
    | received attempt r payload accepted =>
        obtain ⟨_, _, _, -, -, -, -, -, -, -, ⟨rfl, -⟩ | ⟨-, _, -, rfl⟩⟩ := receipt_ok accepted
        · exact old stored
        · exact old stored
    | aborted attempt reasonCode accepted =>
        obtain ⟨_, _, -, -, -, -, rfl⟩ := aborted_ok accepted
        exact old stored
    | resolved r accepted =>
        obtain ⟨_, _, -, -, -, -, rfl⟩ := resolved_ok accepted
        exact old stored
  exact ⟨edge_ids_step scheduled.edgeIds (graph_effect accepted), placed_step scheduled.placed accepted,
    fun key p stored => (all stored).1, fun id r stored => settled_step scheduled accepted stored,
    fun key p stored => (all stored).2⟩

theorem scheduled_reachable (reached : Reachable s) : Scheduled s :=
  reaches_invariant Scheduled scheduled_empty
    (fun _ _ _ _ scheduled _ accepted => scheduled_step scheduled accepted) reached

theorem joins_kept_run (scheduled : Scheduled s) {later : TaskExecutionProjectionV1}
    (run : Reaches executionStep (fun _ _ => True) s later) : JoinsKept s later := by
  have both : Scheduled later ∧ JoinsKept s later := by
    refine reaches_invariant (fun later => Scheduled later ∧ JoinsKept s later)
      ⟨scheduled, .refl s⟩ ?_ run
    rintro before input after - ⟨scheduled, kept⟩ - accepted
    exact ⟨scheduled_step scheduled accepted, kept.trans (joins_kept_step scheduled accepted)⟩
  exact both.2

/-- The edges into a prepared task match its join one to one and are satisfied by
stored resolutions with the frozen winners; later events add no edge there and
keep every stored resolution. -/
theorem prepared_attempts_scheduled (reached : Reachable s) :
    (∀ key p, s.prepared.get key = some p → Joined s p) ∧
      ∀ later, Reaches executionStep (fun _ _ => True) s later →
        (∀ key p, s.prepared.get key = some p →
          edgesInto later p.taskId = edgesInto s p.taskId) ∧
        ∀ id r, s.resolutions.get id = some r → later.resolutions.get id = some r := by
  have scheduled := scheduled_reachable reached
  refine ⟨scheduled.joined, ?_⟩
  intro later run
  have kept := joins_kept_run scheduled run
  exact ⟨kept.edges, kept.resolutions⟩

end Runs

section Join

attribute [local instance] recordedEngine

def joinResolution : TaskResolutionV1 :=
  { taskId := js "s"
    consideredGenerationOutcomes := []
    winningGeneration := none
    retryPolicyDigest := js "p"
    arbitrationReason := js "explicit-cancellation"
    observationCursor := sampleCursor
    resolution := .cancelled }

def joinPayloads : Except DomainError (List TaskExecutionPayloadV1) := do
  let prepared ← samplePrepared (js "t") (js "a") 1
    [⟨js "e", .requiresTerminal, js "s", 1, js "d", none⟩]
  return [.taskCreatedV2 (sampleTask (js "s")), .taskCreatedV2 (sampleTask (js "t")),
    .dependencyAddedV1 (sampleEdge (js "e") (js "s") (js "t") .requiresTerminal),
    .taskActivatedV1 (js "t"), .taskResolvedV2 joinResolution sampleClock,
    .taskExecutionPreparedV1 prepared]

def joinState : TaskExecutionProjectionV1 := sampleState anything joinPayloads

instance join_state_reachable : Fact (Reachable joinState ∧
    joinState.prepared.values.any (fun p => (edgesInto joinState p.taskId).length = 1) = true) :=
  ⟨sample_reachable joinPayloads
    (fun s => s.prepared.values.any (fun p => (edgesInto s p.taskId).length = 1)) (by decide +kernel)⟩

theorem prepared_attempts_scheduled_join :
    ∃ p ∈ joinState.prepared.values, (edgesInto joinState p.taskId).length = 1 ∧
      Joined joinState p := by
  obtain ⟨p, member, one⟩ := List.any_eq_true.mp join_state_reachable.out.2
  obtain ⟨key, stored⟩ := (joinState.prepared.mem_values_iff p).mp member
  have joined := (prepared_attempts_scheduled join_state_reachable.out.1).1 key p stored
  exact ⟨p, member, of_decide_eq_true one, joined⟩

end Join

end Horseness.Scheduling
