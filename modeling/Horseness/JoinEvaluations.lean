import Mathlib.Data.List.Dedup
import Horseness.TaskProjections

/-!
The projection of tasks against the rules of the domain: what its operations keep, and the
evaluation of a join as the domain's evaluation of the dependencies and its schedulability.
-/

namespace Horseness.JoinEvaluations

open FallibleRuns Records ScriptText JsonValues ScriptEngine Canonical ForkContext PlainObjects
  Tasks TaskGraphs SearchOrders ServiceCommands TaskProjections RecordedRuns

section Domain

structure DependencyRound where
  unknown : Bool
  unsatisfied : Bool
  cancellationPropagated : Bool

structure DependencyEvaluation where
  satisfied : Bool
  unknown : Bool
  cancellationPropagated : Bool
  reasonCodes : List JsString
  deriving DecidableEq

def evaluateDependency (outcomes : Record JsString (DependencyOutcomeV1 × TaskResolution))
    (round : DependencyRound) (edge : DependencyEdgeV1) : Except DomainError DependencyRound := do
  validateDependencyEdge edge
  match outcomes.get edge.edgeId with
  | none => return { round with unknown := true }
  | some (outcome, resolution) =>
      if outcome.sourceTaskId = edge.sourceTaskId ∧ outcome.edgeType = edge.edgeType then do
        let satisfied ← dependencySatisfied edge resolution
        return { round with
          unsatisfied := round.unsatisfied || !satisfied
          cancellationPropagated := round.cancellationPropagated ||
            (resolution = .cancelled && edge.propagateCancellation) }
      else return { round with unknown := true }

/-- The codes of a dependency evaluation, before they are sorted. -/
def dependencyReasons (unknown unsatisfied cancellationPropagated : Bool) : List ReasonCode :=
  noted (unknown = true) .dependencyUnknown ++ noted (unsatisfied = true) .dependencyUnsatisfied ++
    noted (cancellationPropagated = true) .cancellationPropagated

def evaluateDependencies (edges : List DependencyEdgeV1)
    (outcomes : Record JsString (DependencyOutcomeV1 × TaskResolution)) :
    Except DomainError DependencyEvaluation := do
  let round ← edges.foldlM (evaluateDependency outcomes) ⟨false, false, false⟩
  return { satisfied := !round.unknown && !round.unsatisfied && !round.cancellationPropagated
           unknown := round.unknown
           cancellationPropagated := round.cancellationPropagated
           reasonCodes := ((dependencyReasons round.unknown round.unsatisfied
             round.cancellationPropagated).map ReasonCode.text).insertionSort (· ≤ ·) }

structure SchedulabilityInput where
  lifecycle : TaskLifecycle
  contractValid : Bool
  dependenciesSatisfied : Bool
  hasUnknownDependency : Bool
  cancellationPropagated : Bool
  authorizationAllowed : Bool
  quotaAllowed : Bool
  liveAttempt : Bool
  unknownOutcome : Bool

def isTaskTerminal : TaskLifecycle → Bool
  | .resolved _ => true
  | _ => false

def deriveSchedulability (input : SchedulabilityInput) : Schedulability :=
  if isTaskTerminal input.lifecycle then .terminal
  else if input.lifecycle = .draft ∨ input.contractValid = false ∨
      input.cancellationPropagated = true then .ineligible
  else if input.unknownOutcome then .unknownOutcome
  else if input.liveAttempt then .running
  else if input.dependenciesSatisfied = false ∨ input.hasUnknownDependency = true ∨
      input.authorizationAllowed = false ∨ input.quotaAllowed = false then .blocked
  else .ready

end Domain

section Steps

variable [Engine] {state after : TaskProjectionV1}

/-- Only the addition of an edge writes edges, and it writes no task. -/
def edgeOf : Operation → Option DependencyEdgeV1
  | .addDependency edge => some edge
  | _ => none

/-- What an accepted operation does: it writes an edge that fits, or a task under the contract
that it has. -/
inductive Effect (state : TaskProjectionV1) : Operation → TaskProjectionV1 → Prop
  | edge {edge : DependencyEdgeV1} {source dependent : DurableTaskStateV1} {ids : List JsString}
      (from_task : state.tasks.get edge.sourceTaskId = some source)
      (into_task : state.tasks.get edge.dependentTaskId = some dependent)
      (fresh : state.edges.get edge.edgeId = none)
      (contracted : predicateIds source.contract.completionPolicy = .ok ids)
      (released : edge.releasePredicate ∈ ids) (listed : outcomesListed edge)
      (acyclic : validateGraph { state with edges := state.edges.set edge.edgeId edge } = .ok ()) :
      Effect state (.addDependency edge) { state with edges := state.edges.set edge.edgeId edge }
  | task {operation : Operation} {id : JsString} {task : DurableTaskStateV1}
      (edgeless : edgeOf operation = none)
      (named : state.tasks.get id = none → id ≠ [])
      (contracted : state.tasks.get id = none → task.contract.completionPolicy.predicates ≠ [])
      (kept : ∀ current, state.tasks.get id = some current → task.contract = current.contract) :
      Effect state operation { state with tasks := state.tasks.set id task }

theorem apply_effect {operation : Operation} (applied : apply state operation = .ok after) :
    Effect state operation after := by
  cases operation with
  | addTask contract =>
      simp only [apply, TaskProjections.addTask, bind_ok_iff, ensure_ok_iff, pure_ok_iff] at applied
      rcases applied with ⟨_, ⟨named, _, fresh⟩, ids, identified, _, some_id, rfl⟩
      refine .task rfl (fun _ => named) (fun _ empty => some_id ?_) fun current found => ?_
      · rw [predicateIds, empty] at identified
        cases identified
        rfl
      · rw [fresh] at found
        cases found
  | addDependency edge =>
      simp only [apply, TaskProjections.addDependency, requireTask, bind_ok_iff, ensure_ok_iff,
        required_ok_iff, pure_ok_iff] at applied
      rcases applied with ⟨source, from_task, dependent, into_task, _, ⟨fresh, _⟩, ids, contracted,
        _, released, _, listed, _, acyclic, rfl⟩
      exact .edge from_task into_task fresh contracted released listed acyclic
  | activateTask taskId =>
      simp only [apply, TaskProjections.activateTask, requireTask, bind_ok_iff, ensure_ok_iff,
        required_ok_iff, pure_ok_iff] at applied
      rcases applied with ⟨current, found, _, _, rfl⟩
      exact .task rfl (fun missing => by cases found.symm.trans missing)
        (fun missing => by cases found.symm.trans missing)
        fun other stored => by rw [Option.some.inj (found.symm.trans stored)]
  | projectDurablePredicate event =>
      simp only [apply, TaskProjections.projectDurablePredicate, requireTask, bind_ok_iff,
        ensure_ok_iff, required_ok_iff, pure_ok_iff] at applied
      rcases applied with ⟨_, _, current, found, _, _, _, _, _, _, _, _, rfl⟩
      exact .task rfl (fun missing => by cases found.symm.trans missing)
        (fun missing => by cases found.symm.trans missing)
        fun other stored => by rw [Option.some.inj (found.symm.trans stored)]
  | resolveProjectedTask capability =>
      simp only [apply, TaskProjections.resolveProjectedTask, requireTask, bind_ok_iff,
        ensure_ok_iff, required_ok_iff, pure_ok_iff] at applied
      rcases applied with ⟨current, found, _, _, _, _, _, _, rfl⟩
      exact .task rfl (fun missing => by cases found.symm.trans missing)
        (fun missing => by cases found.symm.trans missing)
        fun other stored => by rw [Option.some.inj (found.symm.trans stored)]

/-- An edge that the projection holds: under its id, between two tasks, with a release predicate
of the contract of its source. -/
structure SoundEdge (state : TaskProjectionV1) (key : JsString) (edge : DependencyEdgeV1) :
    Prop where
  keyed : edge.edgeId = key
  released : ∃ source ids, state.tasks.get edge.sourceTaskId = some source ∧
    predicateIds source.contract.completionPolicy = .ok ids ∧ edge.releasePredicate ∈ ids
  dependent : (state.tasks.get edge.dependentTaskId).isSome = true
  apart : edge.sourceTaskId ≠ edge.dependentTaskId
  listed : outcomesListed edge

structure Sound (state : TaskProjectionV1) : Prop where
  named : ∀ id task, state.tasks.get id = some task → id ≠ []
  contracted : ∀ id task, state.tasks.get id = some task →
    task.contract.completionPolicy.predicates ≠ []
  edges : ∀ key edge, state.edges.get key = some edge → SoundEdge state key edge

theorem empty_sound : Sound emptyTaskProjection where
  named _ _ found := nomatch found
  contracted _ _ found := nomatch found
  edges _ _ found := nomatch found

omit [Engine] in
theorem graph_apart (acyclic : validateGraph state = .ok ()) {edge : DependencyEdgeV1}
    (listed : edge ∈ state.edges.values) (there : edge.sourceTaskId ∈ state.tasks.keys) :
    edge.sourceTaskId ≠ edge.dependentTaskId := by
  simp only [validateGraph, bind_ok_iff, map_error_ok_iff, pure_ok_iff] at acyclic
  rcases acyclic with ⟨order, folded, _⟩
  have finished : Finished (outgoing state.edges.values) order := by
    apply foldlM_invariant _ (Finished (outgoing state.edges.values)) _ _ _ _ finished_nil folded
    exact fun visited task marked _ finished visiting => visit_finished _ finished visiting
  have covered := (fold_collects
    (fun visited task marked _ visiting => visit_adds _ visiting) folded).2
  intro same
  refine finished_no_cycle finished edge.sourceTaskId (covered there) (.single ?_)
  exact outgoing_iff.mpr ⟨edge, listed, rfl, same.symm⟩

theorem sound_step (sound : Sound state) {operation : Operation}
    (effect : Effect state operation after) : Sound after := by
  cases effect with
  | @edge edge source dependent ids from_task into_task fresh contracted released listed acyclic =>
      refine ⟨sound.named, sound.contracted, fun key other found => ?_⟩
      rw [Record.get_set] at found
      by_cases same : edge.edgeId = key
      · rw [if_pos same] at found
        obtain rfl := Option.some.inj found
        refine ⟨same, ⟨source, ids, from_task, contracted, released⟩,
          Option.isSome_of_mem into_task, graph_apart acyclic ?_ ?_, listed⟩
        · exact (Record.mem_values_iff _ _).mpr ⟨edge.edgeId, Record.get_set_same _ _ _⟩
        · exact (Record.mem_keys_iff _ _).mpr ⟨source, from_task⟩
      · rw [if_neg same] at found
        have held := sound.edges key other found
        exact ⟨held.keyed, held.released, held.dependent, held.apart, held.listed⟩
  | @task _ id task edgeless named contracted kept =>
      -- the task that is written has the contract of the one that stood there
      have stored : ∀ other current, state.tasks.get other = some current →
          ∃ next, (state.tasks.set id task).get other = some next ∧
            next.contract = current.contract := by
        intro other current found
        by_cases same : id = other
        · subst same
          exact ⟨task, Record.get_set_same _ _ _, kept current found⟩
        · exact ⟨current, by rw [Record.get_set_other _ _ same, found], rfl⟩
      constructor
      · intro other current found
        rw [Record.get_set] at found
        by_cases same : id = other
        · subst same
          cases present : state.tasks.get id with
          | none => exact named present
          | some previous => exact sound.named id previous present
        · rw [if_neg same] at found
          exact sound.named other current found
      · intro other current found
        rw [Record.get_set] at found
        by_cases same : id = other
        · subst same
          rw [if_pos rfl] at found
          obtain rfl := Option.some.inj found
          cases present : state.tasks.get id with
          | none => exact contracted present
          | some previous =>
              rw [kept previous present]
              exact sound.contracted id previous present
        · rw [if_neg same] at found
          exact sound.contracted other current found
      · intro key edge found
        have held := sound.edges key edge found
        rcases held.released with ⟨source, ids, from_task, identified, released⟩
        rcases stored _ _ from_task with ⟨next, there, same⟩
        rcases Option.isSome_iff_exists.mp held.dependent with ⟨dependent, into_task⟩
        rcases stored _ _ into_task with ⟨other, present, _⟩
        exact ⟨held.keyed, ⟨next, ids, there, by rw [same]; exact identified, released⟩,
          Option.isSome_of_mem present, held.apart, held.listed⟩

theorem built_sound {operations : List Operation} (built : build operations = .ok state) :
    Sound state :=
  foldlM_invariant _ Sound _
    (fun _ _ _ _ sound applied => sound_step sound (apply_effect applied)) _ _ empty_sound built

theorem edge_ids_nodup (sound : Sound state) :
    (state.edges.values.map DependencyEdgeV1.edgeId).Nodup := by
  have keys : state.edges.values.map DependencyEdgeV1.edgeId = state.edges.keys := by
    rw [Record.values, Record.keys, List.map_map]
    apply List.map_congr_left
    intro entry member
    exact (sound.edges entry.1 entry.2 ((Record.mem_entries_iff _ _ _).mp member)).keyed
  rw [keys]
  exact state.edges.keys_nodup

theorem sound_member (sound : Sound state) {edge : DependencyEdgeV1}
    (member : edge ∈ state.edges.values) : SoundEdge state edge.edgeId edge := by
  rcases (Record.mem_values_iff _ _).mp member with ⟨key, found⟩
  have held := sound.edges key edge found
  exact held.keyed.symm ▸ held

end Steps

section Orders

variable [Engine] {state after left right : TaskProjectionV1} {operation : Operation}

omit [Engine] in
theorem map_bind {Failure First Second Third : Type} (first : Except Failure First)
    (next : First → Except Failure Second) (rename : Second → Third) :
    (first >>= next).map rename = first >>= fun value => (next value).map rename := by
  cases first <;> rfl

def tasksAfter (tasks : Record JsString DurableTaskStateV1) (operation : Operation) :
    Record JsString DurableTaskStateV1 :=
  match apply ⟨tasks, Record.empty⟩ operation with
  | .ok after => after.tasks
  | .error _ => tasks

theorem apply_frame (edgeless : edgeOf operation = none) :
    apply state operation = (apply ⟨state.tasks, Record.empty⟩ operation).map
      fun after => ⟨after.tasks, state.edges⟩ := by
  cases operation with
  | addTask contract => simp only [apply, TaskProjections.addTask, map_bind]; rfl
  | addDependency edge => cases edgeless
  | activateTask taskId => simp only [apply, TaskProjections.activateTask, map_bind]; rfl
  | projectDurablePredicate event =>
      simp only [apply, TaskProjections.projectDurablePredicate, map_bind]; rfl
  | resolveProjectedTask capability =>
      simp only [apply, TaskProjections.resolveProjectedTask, map_bind]; rfl

theorem edgeless_effect (edgeless : edgeOf operation = none)
    (applied : apply state operation = .ok after) :
    after.tasks = tasksAfter state.tasks operation ∧ after.edges = state.edges := by
  rw [apply_frame edgeless] at applied
  rw [tasksAfter]
  cases alone : apply ⟨state.tasks, Record.empty⟩ operation with
  | error failure =>
      rw [alone] at applied
      cases applied
  | ok found =>
      rw [alone] at applied
      cases applied
      exact ⟨rfl, rfl⟩

theorem edge_effect {edge : DependencyEdgeV1}
    (applied : apply state (.addDependency edge) = .ok after) :
    after.tasks = state.tasks ∧ after.edges.values = state.edges.values ++ [edge] := by
  cases apply_effect applied with
  | edge _ _ fresh =>
      refine ⟨rfl, ?_⟩
      rw [Record.values, Record.set_fresh_entries _ _ _ fresh, List.map_append]
      rfl
  | task edgeless => cases edgeless

/-- The tasks of a projection come from the operations that add no edge, its edges from the
others, in the order of the operations. -/
theorem folded_parts {operations : List Operation} {start : TaskProjectionV1}
    (folded : operations.foldlM apply start = .ok state) :
    state.tasks = (operations.filter fun operation => (edgeOf operation).isNone).foldl tasksAfter
      start.tasks ∧
    state.edges.values = start.edges.values ++ operations.filterMap edgeOf := by
  induction operations generalizing start with
  | nil =>
      obtain rfl := (pure_ok_iff _ _).mp folded
      exact ⟨rfl, (List.append_nil _).symm⟩
  | cons operation rest ih =>
      rcases (foldlM_cons_ok_iff _ _ _ _ _).mp folded with ⟨middle, applied, later⟩
      rcases ih later with ⟨tasks, edges⟩
      cases edge : edgeOf operation with
      | none =>
          have effect := edgeless_effect edge applied
          rw [List.filter_cons_of_pos (by rw [edge]; rfl), List.foldl_cons,
            List.filterMap_cons_none edge, tasks, edges, effect.1, effect.2]
          exact ⟨rfl, rfl⟩
      | some added =>
          cases operation with
          | addDependency given =>
              cases edge
              have effect := edge_effect applied
              have listed : (Operation.addDependency added :: rest).filterMap edgeOf =
                added :: rest.filterMap edgeOf := List.filterMap_cons_some rfl
              rw [List.filter_cons_of_neg (by simp [edgeOf]), listed, tasks, edges, effect.1,
                effect.2, List.append_assoc]
              exact ⟨rfl, rfl⟩
          | _ => cases edge

/-- The same operations, but for the order in which edges are added. -/
structure Reordered (first second : List Operation) : Prop where
  others : (first.filter fun operation => (edgeOf operation).isNone) =
    second.filter fun operation => (edgeOf operation).isNone
  edges : (first.filterMap edgeOf).Perm (second.filterMap edgeOf)

theorem reordered_parts {first second : List Operation} (order : Reordered first second)
    (built : build first = .ok left) (rebuilt : build second = .ok right) :
    left.tasks = right.tasks ∧ left.edges.values.Perm right.edges.values := by
  rcases folded_parts built with ⟨tasks, edges⟩
  rcases folded_parts rebuilt with ⟨otherTasks, otherEdges⟩
  constructor
  · rw [tasks, otherTasks, order.others]
  · rw [edges, otherEdges]
    exact order.edges.append_left _

/-- `localeCompare` orders texts, and it tells the listed ones apart. -/
structure Collated (ids : List JsString) : Prop where
  total : ∀ one other, Engine.localeCompare one other ≤ 0 ∨ Engine.localeCompare other one ≤ 0
  trans : ∀ one middle other, Engine.localeCompare one middle ≤ 0 →
    Engine.localeCompare middle other ≤ 0 → Engine.localeCompare one other ≤ 0
  strict : ∀ one ∈ ids, ∀ other ∈ ids, Engine.localeCompare one other ≤ 0 →
    Engine.localeCompare other one ≤ 0 → one = other

theorem sorted_edges {edges others : List DependencyEdgeV1} (order : edges.Perm others)
    (collated : Collated (edges.map DependencyEdgeV1.edgeId))
    (unique : (edges.map DependencyEdgeV1.edgeId).Nodup) :
    edges.insertionSort edgeBefore = others.insertionSort edgeBefore := by
  have total : Std.Total edgeBefore := ⟨fun one other => collated.total one.edgeId other.edgeId⟩
  have trans : IsTrans DependencyEdgeV1 edgeBefore :=
    ⟨fun one middle other => collated.trans one.edgeId middle.edgeId other.edgeId⟩
  refine List.Perm.eq_of_pairwise ?_ (List.pairwise_insertionSort edgeBefore _)
    (List.pairwise_insertionSort edgeBefore _) ?_
  · intro one other first second below above
    have here := List.mem_insertionSort _ |>.mp first
    have there := order.mem_iff.mpr (List.mem_insertionSort _ |>.mp second)
    exact List.inj_on_of_nodup_map unique here there
      (collated.strict _ (List.mem_map_of_mem here) _ (List.mem_map_of_mem there) below above)
  · exact (List.perm_insertionSort _ _).trans (order.trans (List.perm_insertionSort _ _).symm)

omit [Engine] in
theorem incoming_perm (order : left.edges.values.Perm right.edges.values) (taskId : JsString) :
    (incoming left taskId).Perm (incoming right taskId) := order.filter _

-- An evaluation depends on the tasks and on which edges there are.
theorem evaluation_order (tasks : left.tasks = right.tasks)
    (order : left.edges.values.Perm right.edges.values) (sound : Sound left)
    (collated : Collated (left.edges.values.map DependencyEdgeV1.edgeId)) (input : JoinInput) :
    evaluateTaskJoin left input = evaluateTaskJoin right input := by
  have sorted : (incoming left input.taskId).insertionSort edgeBefore =
      (incoming right input.taskId).insertionSort edgeBefore := by
    have inside : ((incoming left input.taskId).map DependencyEdgeV1.edgeId).Sublist
        (left.edges.values.map DependencyEdgeV1.edgeId) :=
      List.Sublist.map _ List.filter_sublist
    refine sorted_edges (incoming_perm order input.taskId)
      ⟨collated.total, collated.trans, ?_⟩ (inside.nodup (edge_ids_nodup sound))
    intro one here other there
    exact collated.strict one (inside.subset here) other (inside.subset there)
  have joined : joinEdge left = joinEdge right := by
    funext round edge
    simp only [joinEdge, requireTask, tasks]
  simp only [evaluateTaskJoin, requireTask, tasks, sorted, joined]

end Orders

section Joins

variable {state : TaskProjectionV1}

/-- What an edge has of its source: an outcome, once the source is resolved and has met the
release predicate. -/
def released (state : TaskProjectionV1) (edge : DependencyEdgeV1) :
    Option (DependencyOutcomeV1 × TaskResolution) :=
  (state.tasks.get edge.sourceTaskId).bind fun source => releasedOutcome source edge

def unknownEdge (state : TaskProjectionV1) (edge : DependencyEdgeV1) : Bool :=
  (released state edge).isNone

def unsatisfiedEdge (state : TaskProjectionV1) (edge : DependencyEdgeV1) : Bool :=
  (released state edge).any fun found => !edgeSatisfied edge found.2

def cancelledEdge (state : TaskProjectionV1) (edge : DependencyEdgeV1) : Bool :=
  (released state edge).any fun found => found.2 = .cancelled && edge.propagateCancellation

theorem released_names {edge : DependencyEdgeV1} {found : DependencyOutcomeV1 × TaskResolution}
    (there : released state edge = some found) : found.1.edgeId = edge.edgeId ∧
      found.1.edgeType = edge.edgeType ∧ found.1.sourceTaskId = edge.sourceTaskId := by
  rcases Option.bind_eq_some_iff.mp there with ⟨source, _, outcome⟩
  rw [releasedOutcome] at outcome
  split at outcome
  · split at outcome
    · cases outcome
      exact ⟨rfl, rfl, rfl⟩
    · cases outcome
  · cases outcome

theorem join_edge_ok {round after : JoinRound} {edge : DependencyEdgeV1}
    (joined : joinEdge state round edge = .ok after) :
    after.unknown = (round.unknown || unknownEdge state edge) ∧
      after.unsatisfied = (round.unsatisfied || unsatisfiedEdge state edge) ∧
      after.cancellationPropagated =
        (round.cancellationPropagated || cancelledEdge state edge) ∧
      after.outcomes = (released state edge).elim round.outcomes
        fun found => round.outcomes.set edge.edgeId found := by
  simp only [joinEdge, requireTask, bind_ok_iff, required_ok_iff] at joined
  rcases joined with ⟨source, there, joined⟩
  have same : released state edge = releasedOutcome source edge := by
    rw [released, there]
    rfl
  rw [unknownEdge, unsatisfiedEdge, cancelledEdge, same]
  cases outcome : releasedOutcome source edge with
  | none =>
      rw [outcome] at joined
      cases joined
      exact ⟨(Bool.or_true _).symm, (Bool.or_false _).symm, (Bool.or_false _).symm, rfl⟩
  | some found =>
      rw [outcome] at joined
      cases joined
      exact ⟨(Bool.or_false _).symm, rfl, rfl, rfl⟩

theorem join_rounds {edges : List DependencyEdgeV1} {round after : JoinRound}
    (folded : edges.foldlM (joinEdge state) round = .ok after) :
    after.unknown = (round.unknown || edges.any (unknownEdge state)) ∧
      after.unsatisfied = (round.unsatisfied || edges.any (unsatisfiedEdge state)) ∧
      after.cancellationPropagated =
        (round.cancellationPropagated || edges.any (cancelledEdge state)) := by
  induction edges generalizing round with
  | nil =>
      obtain rfl := (pure_ok_iff _ _).mp folded
      exact ⟨(Bool.or_false _).symm, (Bool.or_false _).symm, (Bool.or_false _).symm⟩
  | cons edge rest ih =>
      rcases (foldlM_cons_ok_iff _ _ _ _ _).mp folded with ⟨middle, joined, later⟩
      rcases ih later with ⟨unknown, unsatisfied, cancelled⟩
      rcases join_edge_ok joined with ⟨first, second, third, _⟩
      simp only [List.any_cons, ← Bool.or_assoc]
      exact ⟨unknown.trans (by rw [first]), unsatisfied.trans (by rw [second]),
        cancelled.trans (by rw [third])⟩

theorem edge_valid_iff {edge : DependencyEdgeV1} : validateDependencyEdge edge = .ok () ↔
    (edge.edgeId ≠ [] ∧ edge.sourceTaskId ≠ [] ∧ edge.dependentTaskId ≠ [] ∧
      edge.sourceTaskId ≠ edge.dependentTaskId) ∧ outcomesListed edge := by
  rw [validateDependencyEdge, check_ok_iff, ensure_ok_iff, outcomesListed]
  by_cases outcome : edge.edgeType = .requiresOutcome
  · rw [if_pos outcome, if_pos outcome, ensure_ok_iff]
  · rw [if_neg outcome, if_neg outcome, ensure_ok_iff]

theorem satisfied_agrees {edge : DependencyEdgeV1} {resolution : TaskResolution}
    (valid : validateDependencyEdge edge = .ok ()) :
    dependencySatisfied edge resolution = .ok (edgeSatisfied edge resolution) := by
  rw [dependencySatisfied, valid, ok_bind, edgeSatisfied]
  cases edge.edgeType with
  | requiresSuccess => simp [pure, Except.pure]
  | requiresTerminal => simp [pure, Except.pure]
  | requiresOutcome => simp [pure, Except.pure]

theorem dependency_ok {outcomes : Record JsString (DependencyOutcomeV1 × TaskResolution)}
    {round : DependencyRound} {edge : DependencyEdgeV1}
    (valid : validateDependencyEdge edge = .ok ())
    (agree : outcomes.get edge.edgeId = released state edge) :
    evaluateDependency outcomes round edge = .ok ⟨round.unknown || unknownEdge state edge,
      round.unsatisfied || unsatisfiedEdge state edge,
      round.cancellationPropagated || cancelledEdge state edge⟩ := by
  rw [evaluateDependency, valid, ok_bind, agree, unknownEdge, unsatisfiedEdge, cancelledEdge]
  cases there : released state edge with
  | none => simp [pure, Except.pure]
  | some found =>
      have names := released_names there
      simp [names, satisfied_agrees valid, pure, Except.pure]

theorem dependency_rounds {outcomes : Record JsString (DependencyOutcomeV1 × TaskResolution)}
    {edges : List DependencyEdgeV1} (valid : ∀ edge ∈ edges, validateDependencyEdge edge = .ok ())
    (agree : ∀ edge ∈ edges, outcomes.get edge.edgeId = released state edge)
    (round : DependencyRound) :
    edges.foldlM (evaluateDependency outcomes) round = .ok
      ⟨round.unknown || edges.any (unknownEdge state),
        round.unsatisfied || edges.any (unsatisfiedEdge state),
        round.cancellationPropagated || edges.any (cancelledEdge state)⟩ := by
  induction edges generalizing round with
  | nil => simp [pure, Except.pure]
  | cons edge rest ih =>
      rw [List.foldlM_cons, dependency_ok (valid edge List.mem_cons_self)
        (agree edge List.mem_cons_self), ok_bind,
        ih (fun other member => valid other (List.mem_cons_of_mem edge member))
          (fun other member => agree other (List.mem_cons_of_mem edge member))]
      simp only [List.any_cons, Bool.or_assoc]

def releasedOutcomes (state : TaskProjectionV1) (edges : List DependencyEdgeV1) :
    Record JsString (DependencyOutcomeV1 × TaskResolution) :=
  Record.ofEntries (edges.filterMap fun edge =>
    (released state edge).map fun found => (edge.edgeId, found))

theorem written_get {edges : List DependencyEdgeV1} (id : JsString)
    (start : Record JsString (DependencyOutcomeV1 × TaskResolution))
    (unique : (edges.map DependencyEdgeV1.edgeId).Nodup) :
    ((edges.filterMap fun edge =>
      (released state edge).map fun found => (edge.edgeId, found)).foldl
        (fun record entry => record.set entry.1 entry.2) start).get id =
      ((edges.find? fun edge => edge.edgeId = id).bind (released state)).or (start.get id) := by
  induction edges generalizing start with
  | nil => rfl
  | cons edge rest ih =>
      rcases List.nodup_cons.mp unique with ⟨fresh, unique⟩
      cases there : released state edge with
      | none =>
          rw [List.filterMap_cons_none (by rw [there]; rfl), ih start unique]
          by_cases same : edge.edgeId = id
          · have absent : rest.find? (fun edge => edge.edgeId = id) = none :=
              List.find?_eq_none.mpr fun other member hit =>
                fresh (same ▸ of_decide_eq_true hit ▸ List.mem_map_of_mem member)
            simp [same, absent, there]
          · simp [same]
      | some found =>
          rw [List.filterMap_cons_some (by rw [there]; rfl), List.foldl_cons, ih _ unique]
          by_cases same : edge.edgeId = id
          · have absent : rest.find? (fun edge => edge.edgeId = id) = none :=
              List.find?_eq_none.mpr fun other member hit =>
                fresh (same ▸ of_decide_eq_true hit ▸ List.mem_map_of_mem member)
            simp [same, absent, there]
          · simp [same, Record.get_set_other _ _ same]

theorem released_get {edges : List DependencyEdgeV1}
    (unique : (edges.map DependencyEdgeV1.edgeId).Nodup) {edge : DependencyEdgeV1}
    (member : edge ∈ edges) :
    (releasedOutcomes state edges).get edge.edgeId = released state edge := by
  have first : edges.find? (fun other => other.edgeId = edge.edgeId) = some edge := by
    cases hit : edges.find? fun other => other.edgeId = edge.edgeId with
    | none => exact absurd (List.find?_eq_none.mp hit edge member) (by simp)
    | some other =>
        have same : other.edgeId = edge.edgeId := by simpa using List.find?_some hit
        rw [List.inj_on_of_nodup_map unique (List.mem_of_find?_eq_some hit) member same]
  rw [releasedOutcomes, Record.ofEntries, written_get _ _ unique, first]
  simp [Record.empty, Record.get, findEntry]

end Joins

section Agreement

variable [Engine] {state : TaskProjectionV1}

theorem evaluation_found {input : JoinInput} {evaluation : JoinEvaluationV1}
    (evaluated : evaluateTaskJoin state input = .ok evaluation) :
    ∃ task round values, state.tasks.get input.taskId = some task ∧
      ((incoming state input.taskId).insertionSort edgeBefore).foldlM (joinEdge state) noRound =
        .ok round ∧
      authorityValues input.authority.components = some values ∧
      evaluation.schedulability = joinSchedulability task.lifecycle values round
        (authorityReasons values ++ dependencyReasons round.unknown round.unsatisfied
          round.cancellationPropagated) ∧
      evaluation.reasonCodes = ((authorityReasons values ++ dependencyReasons round.unknown
        round.unsatisfied round.cancellationPropagated).map ReasonCode.text).dedup.insertionSort
          (· ≤ ·) ∧
      evaluation.cancellationPropagated = round.cancellationPropagated ∧
      evaluation.snapshot.core.dependencies =
        (round.outcomes.values.map Prod.fst).insertionSort dependencyBefore := by
  simp only [evaluateTaskJoin, requireTask, authorityAggregate, bind_ok_iff, ensure_ok_iff,
    required_ok_iff, pure_ok_iff] at evaluated
  rcases evaluated with ⟨task, found, round, folded, values, ⟨_, _, _, _, _, _, _, _, known⟩, _, _,
    rfl⟩
  refine ⟨task, round, values, found, folded, known, ?_, ?_, rfl, rfl⟩
  · simp only [dependencyReasons, List.append_assoc]
  · simp only [dependencyReasons, List.append_assoc]

/-- The input of the domain's rule: the components of the authority and the dependencies. -/
def ruleInput (lifecycle : TaskLifecycle) (values : AuthorityValues)
    (found : DependencyEvaluation) : SchedulabilityInput :=
  { lifecycle := lifecycle
    contractValid := values.contractValid
    dependenciesSatisfied := found.satisfied
    hasUnknownDependency := found.unknown
    cancellationPropagated := found.cancellationPropagated
    authorizationAllowed := values.policy = .allowed && values.grantState = .allowed &&
      values.revocationState = .clear
    quotaAllowed := values.quota = .available
    liveAttempt := values.attempt = .live
    unknownOutcome := values.attempt = .unknownOutcome }

omit [Engine] in
theorem noted_any (condition : Prop) [Decidable condition] (code : ReasonCode)
    (holds : ReasonCode → Bool) :
    (noted condition code).any holds = (decide condition && holds code) := by
  by_cases here : condition <;> simp [noted, here]

omit [Engine] in
-- A blocking reason is given when one of four components does not allow the task.
theorem blocking_reasons (values : AuthorityValues) :
    (authorityReasons values).any (blockingReasons.contains ·) =
      !(values.policy = .allowed && values.grantState = .allowed &&
        values.revocationState = .clear && values.quota = .available) := by
  rcases values with ⟨valid, policy, grantState, revocationState, quota, attempt⟩
  simp only [authorityReasons, List.any_append, noted_any, blockingReasons]
  cases policy <;> cases grantState <;> cases revocationState <;> cases quota <;> simp

omit [Engine] in
theorem unblocking_reasons (unknown unsatisfied cancelled : Bool) :
    (dependencyReasons unknown unsatisfied cancelled).any (blockingReasons.contains ·) = false := by
  simp [dependencyReasons, noted_any, blockingReasons]

omit [Engine] in
theorem schedulability_agrees (lifecycle : TaskLifecycle) (values : AuthorityValues)
    (round : JoinRound) (codes : List JsString) :
    joinSchedulability lifecycle values round (authorityReasons values ++
      dependencyReasons round.unknown round.unsatisfied round.cancellationPropagated) =
      deriveSchedulability (ruleInput lifecycle values
        ⟨!round.unknown && !round.unsatisfied && !round.cancellationPropagated, round.unknown,
          round.cancellationPropagated, codes⟩) := by
  cases lifecycle with
  | draft => simp [joinSchedulability, deriveSchedulability, ruleInput, isTaskTerminal]
  | resolved resolution =>
      simp [joinSchedulability, deriveSchedulability, ruleInput, isTaskTerminal]
  | active =>
      simp only [joinSchedulability, deriveSchedulability, ruleInput, isTaskTerminal,
        List.any_append, blocking_reasons, unblocking_reasons, Bool.false_eq_true, if_false]
      by_cases refused : values.contractValid = false ∨ round.cancellationPropagated = true
      · simp [refused]
      · have uncancelled : round.cancellationPropagated = false := by simp_all
        simp only [refused, reduceCtorEq, false_or, if_false]
        cases round.unknown <;> cases round.unsatisfied <;>
          simp [uncancelled, or_assoc, imp_iff_not_or]

def dependencyCodes : List JsString :=
  [ReasonCode.dependencyUnknown, .dependencyUnsatisfied, .cancellationPropagated].map
    ReasonCode.text

omit [Engine] in
theorem code_apart (values : AuthorityValues) :
    ∀ reason ∈ authorityReasons values, reason.text ∉ dependencyCodes := by
  have listed : ∀ reason : ReasonCode, reason.text ∈ dependencyCodes → reason = .dependencyUnknown ∨
      reason = .dependencyUnsatisfied ∨ reason = .cancellationPropagated := by
    intro reason
    cases reason <;> decide
  intro reason given named
  rcases listed reason named with rfl | rfl | rfl <;> simp [authorityReasons, noted] at given

omit [Engine] in
theorem dependency_codes (unknown unsatisfied cancelled : Bool) :
    ((dependencyReasons unknown unsatisfied cancelled).map ReasonCode.text).Sublist
      dependencyCodes := by
  cases unknown <;> cases unsatisfied <;> cases cancelled <;> decide

omit [Engine] in
-- The dependency codes of an evaluation are sorted as the domain sorts them.
theorem codes_agree (values : AuthorityValues) (unknown unsatisfied cancelled : Bool) :
    ((((authorityReasons values ++ dependencyReasons unknown unsatisfied cancelled).map
      ReasonCode.text).dedup.insertionSort (· ≤ ·)).filter (dependencyCodes.contains ·)) =
      ((dependencyReasons unknown unsatisfied cancelled).map ReasonCode.text).insertionSort
        (· ≤ ·) := by
  have ordered : ∀ codes : List JsString, (codes.insertionSort (· ≤ ·)).Pairwise (· ≤ ·) :=
    @List.pairwise_insertionSort _ (fun left right : JsString => left ≤ right) _
      ⟨fun left right => List.le_total left right⟩
      ⟨fun _ _ _ first second => List.le_trans first second⟩
  have listed := dependency_codes unknown unsatisfied cancelled
  refine List.Perm.eq_of_pairwise ?_ ((ordered _).filter _) (ordered _) ?_
  · rintro left right - - lower upper
    exact List.le_antisymm lower upper
  · apply (List.perm_ext_iff_of_nodup _ _).mpr
    · intro code
      simp only [List.mem_filter, List.mem_insertionSort, List.mem_dedup, List.map_append,
        List.mem_append, List.contains_iff_mem]
      constructor
      · rintro ⟨given | given, named⟩
        · rcases List.mem_map.mp given with ⟨reason, member, rfl⟩
          exact absurd named (code_apart values reason member)
        · exact given
      · exact fun given => ⟨.inr given, listed.subset given⟩
    · exact ((List.perm_insertionSort _ _).nodup_iff.mpr (List.nodup_dedup _)).filter _
    · exact (List.perm_insertionSort _ _).nodup_iff.mpr (listed.nodup (by decide))

/-- The rules of the domain on the edges into a task give what the evaluation says. -/
def AgreesWithRules (state : TaskProjectionV1) (input : JoinInput) : Prop :=
  ∃ found, evaluateDependencies (incoming state input.taskId)
      (releasedOutcomes state (incoming state input.taskId)) = .ok found ∧
    ∀ evaluation, evaluateTaskJoin state input = .ok evaluation →
      ∃ task values, state.tasks.get input.taskId = some task ∧
        authorityValues input.authority.components = some values ∧
        evaluation.schedulability = deriveSchedulability (ruleInput task.lifecycle values found) ∧
        evaluation.reasonCodes.filter (dependencyCodes.contains ·) = found.reasonCodes

theorem agrees_iff (sound : Sound state) (input : JoinInput) :
    AgreesWithRules state input ↔ ∀ edge ∈ incoming state input.taskId, edge.edgeId ≠ [] := by
  constructor
  · rintro ⟨found, evaluated, _⟩ edge member
    simp only [evaluateDependencies, bind_ok_iff] at evaluated
    rcases evaluated with ⟨round, folded, _⟩
    rcases foldlM_member folded edge member with ⟨before, after, evaluated⟩
    exact (edge_valid_iff.mp (check_ok_iff.mp evaluated).1).1.1
  · intro named
    have inside : ((incoming state input.taskId).map DependencyEdgeV1.edgeId).Sublist
        (state.edges.values.map DependencyEdgeV1.edgeId) := List.Sublist.map _ List.filter_sublist
    have valid : ∀ edge ∈ incoming state input.taskId, validateDependencyEdge edge = .ok () := by
      intro edge member
      have held := sound_member sound (List.mem_of_mem_filter member)
      rcases held.released with ⟨source, _, from_task, _⟩
      rcases Option.isSome_iff_exists.mp held.dependent with ⟨dependent, into_task⟩
      exact edge_valid_iff.mpr ⟨⟨named edge member, sound.named _ _ from_task,
        sound.named _ _ into_task, held.apart⟩, held.listed⟩
    refine ⟨_, by
      rw [evaluateDependencies, dependency_rounds valid
        fun edge member => released_get (inside.nodup (edge_ids_nodup sound)) member]
      rfl, ?_⟩
    intro evaluation evaluated
    rcases evaluation_found evaluated with ⟨task, round, values, found, folded, known,
      schedulability, codes, _⟩
    rcases join_rounds folded with ⟨unknown, unsatisfied, cancelled⟩
    -- the order of the edges does not matter to what some edge shows
    have same : ∀ shows : DependencyEdgeV1 → Bool,
        ((incoming state input.taskId).insertionSort edgeBefore).any shows =
          (incoming state input.taskId).any shows :=
      fun shows => (List.perm_insertionSort _ _).any_eq
    simp only [noRound, same, Bool.false_or] at unknown unsatisfied cancelled
    refine ⟨task, values, found, known, schedulability.trans ?_, ?_⟩
    · rw [schedulability_agrees _ _ _ (((dependencyReasons round.unknown round.unsatisfied
        round.cancellationPropagated).map ReasonCode.text).insertionSort (· ≤ ·)), unknown,
        unsatisfied, cancelled]
      rfl
    · rw [codes, codes_agree, unknown, unsatisfied, cancelled]
      rfl

/-- The evaluation of a join is the domain's as long as no edge into the task has an empty id,
which the domain refuses and the projection does not; the order in which edges were added never
shows. -/
theorem join_agrees_iff {first second : List Operation} {left right : TaskProjectionV1}
    (built : build first = .ok left) (rebuilt : build second = .ok right)
    (order : Reordered first second)
    (collated : Collated (left.edges.values.map DependencyEdgeV1.edgeId)) (input : JoinInput) :
    (AgreesWithRules left input ∧
      evaluateTaskJoin left input = evaluateTaskJoin right input) ↔
      ∀ edge ∈ incoming left input.taskId, edge.edgeId ≠ [] := by
  have sound := built_sound built
  rcases reordered_parts order built rebuilt with ⟨tasks, edges⟩
  rw [agrees_iff sound]
  exact and_iff_left (evaluation_order tasks edges sound collated input)

end Agreement

section Recorded

attribute [local instance] shortEngine

theorem compare_units_iff (one other : JsString) : compareUnits one other ≤ 0 ↔ one ≤ other := by
  induction one generalizing other with
  | nil => cases other <;> simp [compareUnits]
  | cons first rest ih =>
      cases other with
      | nil => simp [compareUnits]
      | cons second tail =>
          rw [compareUnits, List.cons_le_cons_iff]
          by_cases below : first < second
          · simp [below]
          · by_cases above : second < first
            · have apart : first ≠ second := fun same => UInt16.lt_irrefl _ (same ▸ above)
              simp [below, above, apart]
            · have same : first = second := UInt16.le_antisymm (UInt16.not_lt.mp above)
                (UInt16.not_lt.mp below)
              simp [same, ih]

theorem units_collated (ids : List JsString) : Collated ids where
  total one other :=
    (List.le_total one other).imp (compare_units_iff _ _).mpr (compare_units_iff _ _).mpr
  trans one middle other first second := by
    have below := List.le_trans ((compare_units_iff _ _).mp first)
      ((compare_units_iff _ _).mp second)
    exact (compare_units_iff _ _).mpr below
  strict one _ other _ below above :=
    List.le_antisymm ((compare_units_iff _ _).mp below) ((compare_units_iff _ _).mp above)

def sampleIdentity : JsString := finalOf [] (completionPredicateIdentity .receiptOnly)

def sampleContract (taskId : JsString) : TaskContractV1 :=
  ⟨taskId, js "c", .predicate .receiptOnly⟩

def sampleEdge (edgeId releasePredicate : JsString) : DependencyEdgeV1 :=
  { edgeId := edgeId
    sourceTaskId := js "source"
    dependentTaskId := js "dependent"
    edgeType := .requiresTerminal
    allowedOutcomes := none
    releasePredicate := releasePredicate
    propagateCancellation := true }

def sampleOperations (first second identity : JsString) : List Operation :=
  [.addTask (sampleContract (js "source")), .addTask (sampleContract (js "dependent")),
    .addDependency (sampleEdge first identity), .addDependency (sampleEdge second identity),
    .activateTask (js "source"), .activateTask (js "dependent")]

def sampleProjection (first second : JsString) : TaskProjectionV1 :=
  finalOf emptyTaskProjection (build (sampleOperations first second sampleIdentity))

def sampleReader : TaskProjections.TrustedAuthorityReader where
  authenticatedView _ _ := some sampleCursor
  exactRunHeadSnapshot _ _ name :=
    some (object [("taskId", .str (js "dependent")), ("kind", .str (name.drop 15)),
      ("valid", .bool true), ("grantState", .str (js "allowed")),
      ("revocationState", .str (js "clear")),
      ("state", .str (if name.drop 15 = js "quota" then js "available"
        else if name.drop 15 = js "policy" then js "allowed" else js "none"))])

def sampleAuthority : TaskAuthorityProjectionV1 :=
  finalOf ⟨sampleCursor, [], [], []⟩
    (issueTaskAuthorityProjection sampleReader ⟨js "w", js "r", js "dependent"⟩)

def sampleInput : JoinInput := ⟨js "dependent", sampleCursor, sampleAuthority⟩

theorem sample_built : endsIn
    (fun state => (incoming state (js "dependent")).all fun edge => edge.edgeId ≠ [])
    (build (sampleOperations (js "a") (js "b") sampleIdentity)) = true := by
  decide +kernel

theorem unnamed_built : endsIn
    (fun state => (incoming state (js "dependent")).any fun edge => edge.edgeId = [])
    (build (sampleOperations [] (js "b") sampleIdentity)) = true := by
  decide +kernel

theorem sample_rebuilt : endsIn (fun _ => true)
    (build (sampleOperations (js "b") (js "a") sampleIdentity)) = true := by
  decide +kernel

instance sample_evaluated : Fact (endsIn (fun evaluation => evaluation.schedulability = .blocked)
    (evaluateTaskJoin (sampleProjection (js "a") (js "b")) sampleInput) = true) := ⟨by decide +kernel⟩

/-- An edge with an empty id is added and joined, and the rules of the domain refuse it. -/
theorem unnamed_edge_unruled : ¬ ∀ (operations : List Operation) (state : TaskProjectionV1)
    (input : JoinInput), build operations = .ok state →
      Collated (state.edges.values.map DependencyEdgeV1.edgeId) → AgreesWithRules state input := by
  intro claim
  rcases ends_in_exists unnamed_built with ⟨state, built, unnamed⟩
  rcases List.any_eq_true.mp unnamed with ⟨edge, member, empty⟩
  have agrees := claim _ state sampleInput built (units_collated _)
  exact (agrees_iff (built_sound built) sampleInput).mp agrees edge member (of_decide_eq_true empty)

/-- Two edges, added in both orders. -/
theorem swapped_edges_agree : ∃ left right : TaskProjectionV1,
    AgreesWithRules left sampleInput ∧
      evaluateTaskJoin left sampleInput = evaluateTaskJoin right sampleInput ∧
      endsIn (fun evaluation => evaluation.schedulability = .blocked)
        (evaluateTaskJoin left sampleInput) = true := by
  rcases ends_in_final emptyTaskProjection sample_built with ⟨built, named⟩
  rcases ends_in_exists sample_rebuilt with ⟨right, rebuilt, _⟩
  have order : Reordered (sampleOperations (js "a") (js "b") sampleIdentity)
      (sampleOperations (js "b") (js "a") sampleIdentity) := ⟨rfl, List.Perm.swap _ _ _⟩
  have agree := (join_agrees_iff built rebuilt order (units_collated _) sampleInput).mpr
    fun edge member => of_decide_eq_true (List.all_eq_true.mp named edge member)
  exact ⟨sampleProjection (js "a") (js "b"), right, agree.1, agree.2, sample_evaluated.out⟩

end Recorded

end Horseness.JoinEvaluations
