import Horseness.JoinEvaluations

/-!
How the outcome of a task reaches its dependents. A failed or a cancelled task is resolved under
the same completion predicates as one that succeeds, and they are written for success.
-/

namespace Horseness.OutcomePropagation

open FallibleRuns Records ScriptText ScriptEngine ForkContext PlainObjects Tasks SearchOrders
  TaskProjections JoinEvaluations RecordedRuns

section Resolving

variable [Engine] {state next : TaskProjectionV1} {capability : StoredTaskResolvedCapabilityV1}

omit [Engine] in
theorem allM_true_iff {Failure Item : Type} (check : Item → Except Failure Bool)
    (items : List Item) :
    items.allM check = .ok true ↔ ∀ item ∈ items, check item = .ok true := by
  induction items with
  | nil => simp [List.allM, pure, Except.pure]
  | cons item rest ih =>
      rw [List.allM, List.forall_mem_cons, ← ih]
      cases answered : check item with
      | error failure => simp [bind, Except.bind]
      | ok answer => cases answer <;> simp [pure, Except.pure]

/-- Every completion predicate of the contract has become durable. -/
def Completed (task : DurableTaskStateV1) : Prop :=
  ∀ predicate ∈ task.contract.completionPolicy.predicates, ∃ identity ∈ task.durablePredicateIds,
    completionPredicateIdentity predicate = .ok identity

theorem policy_satisfied_iff (task : DurableTaskStateV1) :
    completionPolicySatisfied task.contract.completionPolicy task.durablePredicateIds = .ok true ↔
      task.contract.completionPolicy.predicates ≠ [] ∧ Completed task := by
  rw [completionPolicySatisfied, check_ok_iff, ensure_ok_iff, allM_true_iff]
  refine and_congr_right fun _ => forall₂_congr fun predicate _ => ?_
  simp only [bind_ok_iff, map_error_ok_iff, pure_ok_iff, List.contains_iff_mem]
  constructor
  · rintro ⟨identity, named, durable⟩
    exact ⟨identity, durable, named⟩
  · rintro ⟨identity, durable, named⟩
    exact ⟨identity, named, durable⟩

def resolvedTask (task : DurableTaskStateV1) (capability : StoredTaskResolvedCapabilityV1) :
    DurableTaskStateV1 :=
  { task with
    lifecycle := .resolved capability.resolution
    resolution := some capability.resolution
    winningGeneration := capability.winningGeneration
    resolutionEventSequence := some capability.eventSequence
    resolutionDigest := some capability.eventDigest }

theorem resolve_ok_iff {current : DurableTaskStateV1} (sound : Sound state)
    (found : state.tasks.get capability.taskId = some current)
    (active : current.lifecycle = .active) :
    resolveProjectedTask state capability = .ok next ↔ Completed current ∧
      next = { state with
        tasks := state.tasks.set capability.taskId (resolvedTask current capability) } := by
  have contracted := sound.contracted _ _ found
  simp only [resolveProjectedTask, requireTask, found, required, ok_bind, bind_ok_iff,
    ensure_ok_iff, pure_ok_iff]
  constructor
  · rintro ⟨_, _, satisfied, checked, _, rfl, rfl⟩
    exact ⟨((policy_satisfied_iff current).mp checked).2, rfl⟩
  · rintro ⟨completed, rfl⟩
    exact ⟨(), ⟨active, capability.numbered, capability.hashed⟩, true,
      (policy_satisfied_iff current).mpr ⟨contracted, completed⟩, (), rfl, rfl⟩

end Resolving

section Dependents

variable [Engine] {state : TaskProjectionV1}

omit [Engine] in
theorem joined_outcome_other {edges : List DependencyEdgeV1} {round after : JoinRound}
    (folded : edges.foldlM (joinEdge state) round = .ok after) {id : JsString}
    (other : id ∉ edges.map DependencyEdgeV1.edgeId) :
    after.outcomes.get id = round.outcomes.get id := by
  induction edges generalizing round with
  | nil =>
      obtain rfl := (pure_ok_iff _ _).mp folded
      rfl
  | cons edge rest ih =>
      rcases (foldlM_cons_ok_iff _ _ _ _ _).mp folded with ⟨middle, joined, later⟩
      rw [List.map_cons, List.mem_cons, not_or] at other
      rw [ih later other.2, (join_edge_ok joined).2.2.2]
      cases released state edge with
      | none => rfl
      | some found => exact Record.get_set_other _ _ (Ne.symm other.1)

omit [Engine] in
-- The outcome of an edge is in the map once the loop went over it.
theorem joined_outcome {edges : List DependencyEdgeV1} {round after : JoinRound}
    (folded : edges.foldlM (joinEdge state) round = .ok after)
    (unique : (edges.map DependencyEdgeV1.edgeId).Nodup) {edge : DependencyEdgeV1}
    (member : edge ∈ edges) {found : DependencyOutcomeV1 × TaskResolution}
    (there : released state edge = some found) :
    after.outcomes.get edge.edgeId = some found := by
  induction edges generalizing round with
  | nil => cases member
  | cons first rest ih =>
      rcases (foldlM_cons_ok_iff _ _ _ _ _).mp folded with ⟨middle, joined, later⟩
      rcases List.nodup_cons.mp unique with ⟨fresh, unique⟩
      rcases List.mem_cons.mp member with rfl | member
      · rw [joined_outcome_other later fresh, (join_edge_ok joined).2.2.2, there]
        exact Record.get_set_same _ _ _
      · exact ih later unique member

/-- What an evaluation of the dependent says about an edge with an outcome. -/
structure Shown (edge : DependencyEdgeV1) (outcome : DependencyOutcomeV1)
    (resolution : TaskResolution) (task : DurableTaskStateV1) (evaluation : JoinEvaluationV1) :
    Prop where
  listed : outcome ∈ evaluation.snapshot.core.dependencies
  unsatisfied : edgeSatisfied edge resolution = false →
    ReasonCode.dependencyUnsatisfied.text ∈ evaluation.reasonCodes
  cancelled : resolution = .cancelled → edge.propagateCancellation = true →
    evaluation.cancellationPropagated = true ∧
      evaluation.schedulability = if isTaskTerminal task.lifecycle then .terminal else .ineligible

theorem edge_shown (sound : Sound state) {edge : DependencyEdgeV1}
    (member : edge ∈ state.edges.values) {outcome : DependencyOutcomeV1}
    {resolution : TaskResolution} (there : released state edge = some (outcome, resolution))
    {input : JoinInput} (dependent : input.taskId = edge.dependentTaskId)
    {evaluation : JoinEvaluationV1} (evaluated : evaluateTaskJoin state input = .ok evaluation) :
    ∃ task, state.tasks.get input.taskId = some task ∧
      Shown edge outcome resolution task evaluation := by
  rcases evaluation_found evaluated with ⟨task, round, values, found, folded, _, schedulability,
    codes, propagated, dependencies⟩
  have inside : ((incoming state input.taskId).map DependencyEdgeV1.edgeId).Sublist
      (state.edges.values.map DependencyEdgeV1.edgeId) := List.Sublist.map _ List.filter_sublist
  have order := List.perm_insertionSort edgeBefore (incoming state input.taskId)
  have here : edge ∈ (incoming state input.taskId).insertionSort edgeBefore :=
    order.mem_iff.mpr (List.mem_filter.mpr ⟨member, decide_eq_true dependent.symm⟩)
  have unique := (order.map DependencyEdgeV1.edgeId).nodup_iff.mpr
    (inside.nodup (edge_ids_nodup sound))
  have stored := joined_outcome folded unique here there
  rcases join_rounds folded with ⟨_, unsatisfied, cancelled⟩
  refine ⟨task, found, ?_, ?_, ?_⟩
  · rw [dependencies, List.mem_insertionSort]
    exact List.mem_map_of_mem ((Record.mem_values_iff _ _).mpr ⟨edge.edgeId, stored⟩)
  · intro refused
    have noted_there : round.unsatisfied = true := by
      rw [unsatisfied]
      refine Bool.or_eq_true_iff.mpr (.inr (List.any_eq_true.mpr ⟨edge, here, ?_⟩))
      simp [unsatisfiedEdge, there, refused]
    rw [codes, List.mem_insertionSort, List.mem_dedup]
    exact List.mem_map_of_mem (by simp [dependencyReasons, noted, noted_there])
  · intro ended passes
    have flagged : round.cancellationPropagated = true := by
      rw [cancelled]
      refine Bool.or_eq_true_iff.mpr (.inr (List.any_eq_true.mpr ⟨edge, here, ?_⟩))
      simp [cancelledEdge, there, ended, passes]
    refine ⟨propagated.trans flagged, schedulability.trans ?_⟩
    cases task.lifecycle <;> simp [joinSchedulability, isTaskTerminal, flagged]

end Dependents

section Propagation

variable [Engine] {state next : TaskProjectionV1} {capability : StoredTaskResolvedCapabilityV1}

/-- An edge is known to the dependent of a task: one that requires a terminal source is satisfied,
one that requires success is not, and evaluations of the dependent say so. -/
structure EdgeKnown (next : TaskProjectionV1) (capability : StoredTaskResolvedCapabilityV1)
    (edge : DependencyEdgeV1) : Prop where
  known : unknownEdge next edge = false
  terminal : edge.edgeType = .requiresTerminal → unsatisfiedEdge next edge = false
  success : edge.edgeType = .requiresSuccess → unsatisfiedEdge next edge = true
  shown : ∀ (input : JoinInput) (evaluation : JoinEvaluationV1),
    input.taskId = edge.dependentTaskId → evaluateTaskJoin next input = .ok evaluation →
      ∃ task outcome, next.tasks.get input.taskId = some task ∧ outcome.edgeId = edge.edgeId ∧
        outcome.taskResolutionDigest = capability.eventDigest ∧
        Shown edge outcome capability.resolution task evaluation

/-- The capability is accepted, and every edge from its task is known afterwards. -/
def Propagates (state : TaskProjectionV1) (capability : StoredTaskResolvedCapabilityV1) : Prop :=
  ∃ next, resolveProjectedTask state capability = .ok next ∧
    ∀ edge ∈ next.edges.values, edge.sourceTaskId = capability.taskId →
      EdgeKnown next capability edge

def resolvedOutcome (edge : DependencyEdgeV1) (capability : StoredTaskResolvedCapabilityV1) :
    DependencyOutcomeV1 :=
  ⟨edge.edgeId, edge.edgeType, edge.sourceTaskId, capability.eventSequence, capability.eventDigest,
    capability.winningGeneration⟩

-- The release predicate of an edge is one of the completion predicates of its source.
theorem released_resolved {current : DurableTaskStateV1} (sound : Sound state)
    (found : state.tasks.get capability.taskId = some current) (completed : Completed current)
    {edge : DependencyEdgeV1} (member : edge ∈ state.edges.values)
    (leaves : edge.sourceTaskId = capability.taskId) :
    released { state with
      tasks := state.tasks.set capability.taskId (resolvedTask current capability) } edge =
        some (resolvedOutcome edge capability, capability.resolution) := by
  rcases (sound_member sound member).released with ⟨source, ids, from_task, identified, listed⟩
  rw [leaves] at from_task
  obtain rfl := Option.some.inj (found.symm.trans from_task)
  have durable : edge.releasePredicate ∈ current.durablePredicateIds := by
    rcases mapped_from ((map_error_ok_iff _ _ _).mp identified) _ listed with
      ⟨predicate, contracted, computed⟩
    rcases completed predicate contracted with ⟨identity, there, named⟩
    obtain rfl := Except.ok.inj (named.symm.trans computed)
    exact there
  have numbered : capability.eventSequence ≠ 0 := Nat.pos_iff_ne_zero.mp capability.numbered
  rw [released, leaves, Record.get_set_same, Option.bind_some, releasedOutcome]
  simp [resolvedTask, resolvedOutcome, numbered, capability.hashed, durable]

theorem edge_known {current : DurableTaskStateV1} (sound : Sound state)
    (sound_next : Sound { state with
      tasks := state.tasks.set capability.taskId (resolvedTask current capability) })
    (found : state.tasks.get capability.taskId = some current) (completed : Completed current)
    (unsuccessful : capability.resolution ≠ .succeeded) {edge : DependencyEdgeV1}
    (member : edge ∈ state.edges.values) (leaves : edge.sourceTaskId = capability.taskId) :
    EdgeKnown { state with
      tasks := state.tasks.set capability.taskId (resolvedTask current capability) } capability
      edge := by
  have there := released_resolved sound found completed member leaves
  constructor
  · rw [unknownEdge, there]
    rfl
  · intro terminal
    rw [unsatisfiedEdge, there]
    simp [edgeSatisfied, terminal]
  · intro success
    rw [unsatisfiedEdge, there]
    simp [edgeSatisfied, success, unsuccessful]
  · intro input evaluation dependent evaluated
    rcases edge_shown sound_next member there dependent evaluated with ⟨task, present, shown⟩
    exact ⟨task, resolvedOutcome edge capability, present, rfl, rfl, shown⟩

/-- A failure or a cancellation is accepted and known to the dependents just when all completion
predicates of the task are durable already. -/
theorem outcome_propagates_iff {operations : List Operation} (built : build operations = .ok state)
    {current : DurableTaskStateV1} (found : state.tasks.get capability.taskId = some current)
    (active : current.lifecycle = .active) (unsuccessful : capability.resolution ≠ .succeeded) :
    Propagates state capability ↔ Completed current := by
  have sound := built_sound built
  constructor
  · rintro ⟨next, resolved, _⟩
    exact ((resolve_ok_iff sound found active).mp resolved).1
  · intro completed
    have resolved := (resolve_ok_iff sound found active).mpr ⟨completed, rfl⟩
    have applied : apply state (.resolveProjectedTask capability) = .ok _ := resolved
    have sound_next := sound_step sound (apply_effect applied)
    exact ⟨_, resolved, fun edge member leaves =>
      edge_known sound sound_next found completed unsuccessful member leaves⟩

end Propagation

section Recorded

attribute [local instance] shortEngine

def sampleCapability (resolution : TaskResolution) : StoredTaskResolvedCapabilityV1 :=
  { workspaceId := js "w"
    runId := js "r"
    taskId := js "source"
    resolution := resolution
    winningGeneration := none
    eventSequence := 1
    eventDigest := js "h"
    compositeCursor := sampleCursor
    numbered := Nat.one_pos
    hashed := by decide }

def sampleReceipt : VerifiedAuthorityEventV1 :=
  ⟨js "source", .bindingValidSelectedReceipt (js "d") 1 (js "b") true true .succeeded, js "h",
    sampleCursor⟩

def receivedOperations : List Operation :=
  sampleOperations (js "a") (js "b") sampleIdentity ++ [.projectDurablePredicate sampleReceipt]

def sourceShows (durable : List JsString) (state : TaskProjectionV1) : Bool :=
  (state.tasks.get (js "source")).any fun task => task.lifecycle = .active &&
    task.contract = sampleContract (js "source") && task.durablePredicateIds = durable

theorem source_shown {durable : List JsString} {state : TaskProjectionV1}
    (shown : sourceShows durable state = true) : ∃ task,
      state.tasks.get (js "source") = some task ∧ task.lifecycle = .active ∧
        task.contract = sampleContract (js "source") ∧ task.durablePredicateIds = durable := by
  rw [sourceShows] at shown
  cases found : state.tasks.get (js "source") with
  | none =>
      rw [found] at shown
      cases shown
  | some task =>
      rw [found] at shown
      simp only [Option.any_some, Bool.and_eq_true, decide_eq_true_eq] at shown
      exact ⟨task, rfl, shown.1.1, shown.1.2, shown.2⟩

instance active_shown : Fact (endsIn (sourceShows []) (build (sampleOperations (js "a") (js "b")
    sampleIdentity)) = true) := ⟨by decide +kernel⟩

instance received_shown : Fact (endsIn (sourceShows [sampleIdentity]) (build receivedOperations) = true) := ⟨by decide +kernel⟩

instance identity_shown : Fact (completionPredicateIdentity .receiptOnly = .ok sampleIdentity) := ⟨by decide +kernel⟩

/-- A task whose attempts all failed has no receipt of a success, so its failure is refused. -/
theorem failure_not_propagated : ¬ ∀ (operations : List Operation) (state : TaskProjectionV1)
    (capability : StoredTaskResolvedCapabilityV1) (current : DurableTaskStateV1),
    build operations = .ok state → state.tasks.get capability.taskId = some current →
      current.lifecycle = .active → capability.resolution ≠ .succeeded →
        Propagates state capability := by
  intro claim
  rcases ends_in_exists active_shown.out with ⟨state, built, shown⟩
  rcases source_shown shown with ⟨current, found, active, contract, durable⟩
  have passed := claim _ state (sampleCapability .failed) current built found active (by decide)
  rcases passed with ⟨next, resolved, _⟩
  have completed := ((resolve_ok_iff (built_sound built) found active).mp resolved).1
  rcases completed .receiptOnly (by rw [contract]; exact List.mem_cons_self) with ⟨_, listed, _⟩
  rw [durable] at listed
  cases listed

/-- The cancellation of a task that had a success. -/
theorem late_cancellation_propagates : ∃ state : TaskProjectionV1,
    build receivedOperations = .ok state ∧
      Propagates state (sampleCapability .cancelled) := by
  rcases ends_in_exists received_shown.out with ⟨state, built, shown⟩
  rcases source_shown shown with ⟨current, found, active, contract, durable⟩
  have completed : Completed current := by
    intro predicate member
    rw [contract] at member
    obtain rfl := List.mem_singleton.mp member
    exact ⟨sampleIdentity, by rw [durable]; exact List.mem_cons_self, identity_shown.out⟩
  have there : state.tasks.get (sampleCapability .cancelled).taskId = some current := found
  exact ⟨state, built, (outcome_propagates_iff built there active (by decide)).mpr completed⟩

end Recorded

end Horseness.OutcomePropagation
