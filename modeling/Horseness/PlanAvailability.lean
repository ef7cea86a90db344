import Horseness.PlanAdoptions
import Horseness.IdealDigests

/-!
When a stored plan can be adopted. Its tasks and edges get ids that are derived from its digest, in
the namespace in which clients name tasks, so an adoption is refused where one of them is taken; an
unused derived id is the only thing that an unchanged draft source does not decide by itself.
-/

namespace Horseness.PlanAvailability

open FallibleRuns IdealDigests RecordedRuns Records PlainObjects SearchOrders ScriptText JsonValues
  ScriptEngine Canonical WellFormedText Tasks TaskPlans ExecutionEvents Execution ExecutionSteps
  GraphFreeze Scheduling TaskGraphs PlanEffects PlanAdoptions

section Derivation

variable [Engine] {plan : TaskPlanV1} {adoption : PlanAdoptionV1}

/-- What a plan's own check says of it. -/
structure Checked (plan : TaskPlanV1) : Prop where
  source : blank plan.sourceTaskId = false
  sources : ∀ item ∈ plan.tasks, ∀ source ∈ item.dependsOn,
    (∃ other ∈ plan.tasks, other.key = source) ∧ source ≠ item.key
  valid : assertJson plan.coreJson = .ok ()
  digest : ∃ text, plan.planDigest = Engine.sha256Hex text

theorem plan_checked (parsed : parseTaskPlanV1 plan = .ok ()) : Checked plan := by
  simp only [parseTaskPlanV1, taskPlanDigest, parseTaskPlanOutputV1, bind_ok_iff, map_error_ok_iff,
    ensure_ok_iff, textCheck, digest_ok_iff] at parsed
  obtain ⟨_, ⟨_, source, _, -, _, ⟨_, -, keys, checked, _, sources, -⟩, valid, rfl⟩, digest⟩ := parsed
  obtain rfl := checked_keys checked
  refine ⟨source, ?_, valid, _, digest.symm⟩
  intro item member name needed
  obtain ⟨known, other⟩ := sources item member name needed
  exact ⟨List.mem_map.mp known, other⟩

theorem plan_texts (checked : Checked plan) : validUnicode plan.sourceTaskId = true ∧
    ∀ item ∈ plan.tasks, validUnicode item.key = true := by
  have valid := checked.valid
  simp only [TaskPlanV1.coreJson, object, assert_obj_ok_iff, assert_arr_ok_iff, assert_str_ok_iff,
    TaskPlanItemV1.toJson, List.forall_mem_map, List.forall_mem_cons, List.map_cons] at valid
  obtain ⟨-, -, ⟨-, source⟩, -, ⟨-, items⟩, -⟩ := valid
  exact ⟨source, fun item member => (items item member).2.1.2⟩

theorem digest_valid (law : Hexadecimal Engine.sha256Hex) (checked : Checked plan) :
    blank plan.planDigest = false ∧ validUnicode plan.planDigest = true := by
  obtain ⟨text, same⟩ := checked.digest
  rw [same]
  exact hexadecimal_sound law text

-- A task id is derived from the digest of a checked plan and any well-formed key.
theorem child_id_made (law : Hexadecimal Engine.sha256Hex) (checked : Checked plan) {key : JsString}
    (valid : validUnicode key = true) :
    ∃ id, planChildId plan.planDigest key = .ok id ∧ validUnicode id = true := by
  have object : assertJson (object [("planDigest", .str plan.planDigest), ("key", .str key)]) =
      .ok () := by
    simp [JsonValues.object, assert_obj_ok_iff, assert_str_ok_iff, (digest_valid law checked).2, valid]
    decide
  have hashed := (digest_ok_iff (js "horseness.task-plan-child.v1") _ _).mpr ⟨object, rfl⟩
  exact ⟨_, bind_ok_iff.mpr ⟨_, hashed, rfl⟩, digest_id_valid (by decide) _⟩

theorem child_edge_made (law : Hexadecimal Engine.sha256Hex) (checked : Checked plan)
    {first second : JsString} (source : validUnicode first = true)
    (dependent : validUnicode second = true) :
    ∃ edge, planChildEdge plan.planDigest first second = .ok edge := by
  have object : assertJson (object [("planDigest", .str plan.planDigest),
      ("sourceTaskId", .str first), ("dependentTaskId", .str second)]) = .ok () := by
    simp [JsonValues.object, assert_obj_ok_iff, assert_str_ok_iff, (digest_valid law checked).2, source,
      dependent]
    decide
  have hashed := (digest_ok_iff (js "horseness.task-plan-edge.v1") _ _).mpr ⟨object, rfl⟩
  exact ⟨_, bind_ok_iff.mpr ⟨_, hashed, rfl⟩⟩

theorem adoption_derived (law : Hexadecimal Engine.sha256Hex)
    (parsed : parseTaskPlanV1 plan = .ok ()) : ∃ adoption, derivePlanAdoptionV1 plan = .ok adoption := by
  have checked := plan_checked parsed
  obtain ⟨source, keys⟩ := plan_texts checked
  have identified : ∀ item ∈ plan.tasks, ∃ entry, (do
      let id ← planChildId plan.planDigest item.key
      return (item.key, id)) = Except.ok entry := by
    intro item member
    obtain ⟨id, made, _⟩ := child_id_made law checked (keys item member)
    exact ⟨_, bind_ok_iff.mpr ⟨id, made, rfl⟩⟩
  obtain ⟨ids, listed⟩ := map_completes identified
  have lookup : ∀ item ∈ plan.tasks, ∃ id,
      required (findEntry item.key ids) DomainError.planInvalid = .ok id ∧ validUnicode id = true := by
    intro item member
    obtain ⟨id, made, valid⟩ := child_id_made law checked (keys item member)
    obtain ⟨entry, there, same⟩ := mapped_to listed item member
    obtain ⟨_, _, pair⟩ := bind_ok_iff.mp same
    obtain rfl := Except.ok.inj pair
    have known : item.key ∈ ids.map Prod.fst := List.mem_map_of_mem there
    cases found : findEntry item.key ids with
    | none => exact absurd known ((find_none_iff _ _).mp found)
    | some other =>
        have again := lookup_named listed ((required_ok_iff _ _ _).mpr found)
        obtain rfl := Except.ok.inj (made.symm.trans again)
        exact ⟨_, rfl, valid⟩
  have contracts : ∀ item ∈ plan.tasks, ∃ contract, (do
      let id ← required (findEntry item.key ids) DomainError.planInvalid
      return planChildContract plan item id) = Except.ok contract := by
    intro item member
    obtain ⟨id, found, _⟩ := lookup item member
    exact ⟨_, bind_ok_iff.mpr ⟨id, found, rfl⟩⟩
  have inner : ∀ item ∈ plan.tasks, ∃ edges, item.dependsOn.mapM (fun source => do
      let sourceId ← required (findEntry source ids) DomainError.planInvalid
      let dependentId ← required (findEntry item.key ids) DomainError.planInvalid
      planChildEdge plan.planDigest sourceId dependentId) = Except.ok edges := by
    intro item member
    apply map_completes
    intro name needed
    obtain ⟨⟨other, within, rfl⟩, _⟩ := checked.sources item member name needed
    obtain ⟨first, found, one⟩ := lookup other within
    obtain ⟨second, placed, two⟩ := lookup item member
    obtain ⟨edge, made⟩ := child_edge_made law checked one two
    exact ⟨edge, bind_ok_iff.mpr ⟨first, found, bind_ok_iff.mpr ⟨second, placed, made⟩⟩⟩
  have roots : ∀ item ∈ plan.tasks.filter
      (fun item => item.key ∉ plan.tasks.flatMap TaskPlanItemV1.dependsOn), ∃ edge, (do
        let id ← required (findEntry item.key ids) DomainError.planInvalid
        planChildEdge plan.planDigest id plan.sourceTaskId) = Except.ok edge := by
    intro item member
    obtain ⟨id, found, valid⟩ := lookup item (List.mem_of_mem_filter member)
    obtain ⟨edge, made⟩ := child_edge_made law checked valid source
    exact ⟨edge, bind_ok_iff.mpr ⟨id, found, made⟩⟩
  obtain ⟨children, made⟩ := map_completes contracts
  obtain ⟨joined, between⟩ := map_completes inner
  obtain ⟨rooted, ends⟩ := map_completes roots
  refine ⟨⟨children, joined.flatten ++ rooted⟩, ?_⟩
  simp only [derivePlanAdoptionV1, bind_ok_iff, pure_ok_iff]
  exact ⟨(), parsed, ids, listed, children, made, joined, between, rooted, ends, rfl⟩

theorem derived_children (derived : derivePlanAdoptionV1 plan = .ok adoption) :
    List.Forall₂ (fun item contract => planChildId plan.planDigest item.key = .ok contract.taskId)
      plan.tasks adoption.contracts := by
  simp only [derivePlanAdoptionV1, bind_ok_iff, pure_ok_iff] at derived
  obtain ⟨_, -, ids, identified, children, made, inner, -, roots, -, rfl⟩ := derived
  refine ((mapM_ok_iff _ _ _).mp made).imp ?_
  intro item contract paired
  obtain ⟨id, found, same⟩ := bind_ok_iff.mp paired
  obtain rfl := Except.ok.inj same
  exact lookup_named identified found

/-- Where the edges of an adoption lead: from a child to one that depends on it, or to the source. -/
theorem derived_edges (derived : derivePlanAdoptionV1 plan = .ok adoption) :
    ∀ edge ∈ adoption.edges, ∃ item ∈ plan.tasks, ∃ first second,
      planChildEdge plan.planDigest first second = .ok edge ∧
        ((∃ source ∈ item.dependsOn, planChildId plan.planDigest source = .ok first ∧
            planChildId plan.planDigest item.key = .ok second) ∨
          (planChildId plan.planDigest item.key = .ok first ∧ second = plan.sourceTaskId)) := by
  simp only [derivePlanAdoptionV1, bind_ok_iff, pure_ok_iff] at derived
  obtain ⟨_, -, ids, identified, children, -, inner, joined, roots, rooted, rfl⟩ := derived
  intro edge member
  rcases List.mem_append.mp member with within | root
  · obtain ⟨group, grouped, listed⟩ := List.mem_flatten.mp within
    obtain ⟨item, there, derivedEdges⟩ := mapped_from joined group grouped
    obtain ⟨source, needed, found⟩ := mapped_from derivedEdges edge listed
    simp only [bind_ok_iff] at found
    obtain ⟨first, one, second, two, made⟩ := found
    exact ⟨item, there, first, second, made,
      .inl ⟨source, needed, lookup_named identified one, lookup_named identified two⟩⟩
  · obtain ⟨item, there, found⟩ := mapped_from rooted edge root
    obtain ⟨id, lookup, made⟩ := bind_ok_iff.mp found
    exact ⟨item, List.mem_of_mem_filter there, id, _, made, .inr ⟨lookup_named identified lookup, rfl⟩⟩

end Derivation

section Growth

variable [Engine] {s : TaskExecutionProjectionV1} {plan : TaskPlanV1} {adoption : PlanAdoptionV1}

def childName (plan : TaskPlanV1) (key : JsString) : JsString :=
  finalOf [] (planChildId plan.planDigest key)

theorem child_named {key id : JsString} (made : planChildId plan.planDigest key = .ok id) :
    childName plan key = id := by
  rw [childName, made, finalOf]

theorem children_named (derived : derivePlanAdoptionV1 plan = .ok adoption) :
    adoption.contracts.map TaskContractV2.taskId =
      plan.tasks.map fun item => childName plan item.key := by
  have paired : List.Forall₂ (· = ·) (plan.tasks.map fun item => childName plan item.key)
      (adoption.contracts.map TaskContractV2.taskId) :=
    List.forall₂_map_left_iff.mpr (List.forall₂_map_right_iff.mpr
      ((derived_children derived).imp fun _ _ made => child_named made))
  rw [List.forall₂_eq_eq_eq] at paired
  exact paired.symm

/-- What an adoption needs of the projection beyond an unchanged source: ids that are still free. -/
structure Unused (s : TaskExecutionProjectionV1) (adoption : PlanAdoptionV1) : Prop where
  apart : (adoption.contracts.map TaskContractV2.taskId).Nodup
  free : ∀ contract ∈ adoption.contracts, present s.contracts contract.taskId = false
  edges : ((s.edges ++ adoption.edges).map DependencyEdgeV1.edgeId).Nodup

theorem child_fresh (derived : derivePlanAdoptionV1 plan = .ok adoption) (unused : Unused s adoption)
    {item : TaskPlanItemV1} (member : item ∈ plan.tasks) : childName plan item.key ∉ s.contracts.keys := by
  have listed : childName plan item.key ∈ adoption.contracts.map TaskContractV2.taskId := by
    rw [children_named derived]
    exact List.mem_map_of_mem member
  obtain ⟨contract, there, same⟩ := List.mem_map.mp listed
  rw [← same, ← Record.get_none_iff]
  exact absent_get (unused.free contract there)

-- Old tasks keep their order, and the children follow in the order of the plan.
theorem grown_acyclic (sound : SoundGraph s)
    (edgeIds : (s.edges.map DependencyEdgeV1.edgeId).Nodup) (parsed : parseTaskPlanV1 plan = .ok ())
    (derived : derivePlanAdoptionV1 plan = .ok adoption) (unused : Unused s adoption)
    (source : plan.sourceTaskId ∈ s.contracts.keys) :
    Acyclic (outgoing (s.edges ++ adoption.edges)) := by
  have checked := plan_checked parsed
  have same : ∀ one ∈ plan.tasks, ∀ two ∈ plan.tasks,
      childName plan one.key = childName plan two.key → one = two := by
    have apart := unused.apart
    rw [children_named derived] at apart
    exact fun one here two there => List.inj_on_of_nodup_map apart here there
  obtain ⟨-, -, -, order, finished, listed⟩ := acyclic_order
    (acyclic_iff.mpr ⟨s.contracts.keys_nodup, sound.known, edgeIds, sound.acyclic⟩)
  obtain ⟨keys, planned, all⟩ := plan_order parsed
  have steps : ∀ node child, child ∈ outgoing (s.edges ++ adoption.edges) node →
      (child ∈ outgoing s.edges node ∧ node ∈ s.contracts.keys) ∨ ∃ item ∈ plan.tasks,
        childName plan item.key = node ∧ (child = plan.sourceTaskId ∨
          ∃ other ∈ plan.tasks, item.key ∈ other.dependsOn ∧ childName plan other.key = child) := by
    intro node child leads
    obtain ⟨edge, member, rfl, rfl⟩ := outgoing_iff.mp leads
    rcases List.mem_append.mp member with old | new
    · exact .inl ⟨outgoing_iff.mpr ⟨edge, old, rfl, rfl⟩, (sound.known edge old).source⟩
    · obtain ⟨item, there, first, second, made, between⟩ := derived_edges derived edge new
      obtain ⟨rfl, rfl⟩ := child_edge_ends made
      rcases between with ⟨name, needed, one, two⟩ | ⟨one, into⟩
      · obtain ⟨⟨other, within, rfl⟩, _⟩ := checked.sources item there name needed
        exact .inr ⟨other, within, child_named one, .inr ⟨item, there, needed, child_named two⟩⟩
      · exact .inr ⟨item, there, child_named one, .inl into⟩
  -- the old tasks in the order of the old search
  have within : ∀ node child, child ∈ outgoing s.edges node →
      decide (child ∈ s.contracts.keys) = true := by
    intro node child leads
    obtain ⟨edge, member, _, rfl⟩ := outgoing_iff.mp leads
    exact decide_eq_true (sound.known edge member).dependent
  have front : Finished (outgoing (s.edges ++ adoption.edges))
      (order.filter fun node => decide (node ∈ s.contracts.keys)) := by
    apply finished_weaken (finished_filter finished _ within)
    intro node member child leads
    rcases steps node child leads with ⟨old, _⟩ | ⟨item, there, rfl, _⟩
    · exact old
    · exact absurd (of_decide_eq_true (List.mem_filter.mp member).2) (child_fresh derived unused there)
  have known : ∀ node ∈ s.contracts.keys, node ∈ order.filter fun node => decide (node ∈ s.contracts.keys) :=
    fun node member => List.mem_filter.mpr ⟨listed member, decide_eq_true member⟩
  -- and after them the children
  have inside : ∀ key child, child ∈ outgoing (planEdges plan) key →
      decide (child ∈ plan.tasks.map TaskPlanItemV1.key) = true := by
    intro key child leads
    obtain ⟨edge, member, _, rfl⟩ := outgoing_iff.mp leads
    obtain ⟨item, there, drawn⟩ := List.mem_flatMap.mp member
    obtain ⟨name, _, rfl⟩ := List.mem_map.mp drawn
    exact decide_eq_true (List.mem_map_of_mem there)
  have follows : ∀ key ∈ keys.filter fun key => decide (key ∈ plan.tasks.map TaskPlanItemV1.key),
      ∀ child ∈ outgoing (s.edges ++ adoption.edges) (childName plan key),
        (child ∈ order.filter fun node => decide (node ∈ s.contracts.keys)) ∨
          ∃ successor ∈ outgoing (planEdges plan) key, childName plan successor = child := by
    intro key member child leads
    obtain ⟨item, there, rfl⟩ := List.mem_map.mp (of_decide_eq_true (List.mem_filter.mp member).2)
    rcases steps _ child leads with ⟨_, old⟩ | ⟨one, here, named, between⟩
    · exact absurd old (child_fresh derived unused there)
    · obtain rfl := same one here item there named
      rcases between with rfl | ⟨other, needs, depends, rfl⟩
      · exact .inl (known _ source)
      · refine .inr ⟨other.key, outgoing_iff.mpr ⟨planItemEdge one.key other.key, ?_, rfl, rfl⟩, rfl⟩
        exact List.mem_flatMap.mpr ⟨other, needs, List.mem_map_of_mem depends⟩
  have whole := finished_extend (childName plan) front (finished_filter planned _ inside) follows
  apply finished_acyclic whole
  intro node child leads
  rcases steps node child leads with ⟨_, old⟩ | ⟨item, member, rfl, _⟩
  · exact List.mem_append_left _ (known node old)
  · apply List.mem_append_right
    exact List.mem_map_of_mem (List.mem_filter.mpr
      ⟨all item member, decide_eq_true (List.mem_map_of_mem member)⟩)

theorem child_id_filled {digest key id : JsString} (made : planChildId digest key = .ok id) :
    id ≠ [] := by
  simp only [planChildId, bind_ok_iff, pure_ok_iff] at made
  obtain ⟨_, -, rfl⟩ := made
  exact fun empty => absurd (List.append_eq_nil_iff.mp empty).1 (by decide)

theorem child_edge_valid {digest first second : JsString} {edge : DependencyEdgeV1}
    (made : planChildEdge digest first second = .ok edge) (source : first ≠ []) (dependent : second ≠ [])
    (apart : first ≠ second) : validateDependencyEdge edge = .ok () := by
  simp only [planChildEdge, bind_ok_iff, pure_ok_iff] at made
  obtain ⟨hash, -, rfl⟩ := made
  have named : digestId (js "edge_") hash ≠ [] :=
    fun empty => absurd (List.append_eq_nil_iff.mp empty).1 (by decide)
  simp [validateDependencyEdge, planItemEdge, named, source, dependent, apart, ensure]

theorem grown_joins (sound : SoundGraph s) (parsed : parseTaskPlanV1 plan = .ok ())
    (derived : derivePlanAdoptionV1 plan = .ok adoption) (unused : Unused s adoption)
    (source : plan.sourceTaskId ∈ s.contracts.keys) {grown : TaskExecutionProjectionV1}
    (added : adoption.contracts.foldlM addContract s = .ok grown) :
    ∀ edge ∈ s.edges ++ adoption.edges, Joins grown.contracts.keys edge := by
  have checked := plan_checked parsed
  have keys := add_contracts_keys adoption.contracts added
  have child : ∀ item ∈ plan.tasks, ∀ id, planChildId plan.planDigest item.key = .ok id →
      id ∈ grown.contracts.keys := by
    intro item member id made
    rw [keys, children_named derived, ← child_named made]
    exact .inr (List.mem_map_of_mem member)
  intro edge member
  rcases List.mem_append.mp member with old | new
  · have joins := sound.known edge old
    exact ⟨joins.valid, (keys _).mpr (.inl joins.source), (keys _).mpr (.inl joins.dependent)⟩
  · obtain ⟨item, there, first, second, made, between⟩ := derived_edges derived edge new
    obtain ⟨one, two⟩ := child_edge_ends made
    rcases between with ⟨name, needed, before, after⟩ | ⟨before, rfl⟩
    · obtain ⟨⟨other, within, rfl⟩, different⟩ := checked.sources item there name needed
      have apart : first ≠ second := by
        rintro rfl
        have ids := unused.apart
        rw [children_named derived] at ids
        have same := List.inj_on_of_nodup_map ids within there
          ((child_named before).trans (child_named after).symm)
        exact different (congrArg TaskPlanItemV1.key same)
      refine ⟨child_edge_valid made (child_id_filled before) (child_id_filled after) apart, ?_, ?_⟩
      · exact one ▸ child other within _ before
      · exact two ▸ child item there _ after
    · have filled : plan.sourceTaskId ≠ [] := by
        intro empty
        have blanks := checked.source
        rw [empty] at blanks
        cases blanks
      have apart : first ≠ plan.sourceTaskId := by
        rintro rfl
        exact child_fresh derived unused there ((child_named before).symm ▸ source)
      refine ⟨child_edge_valid made (child_id_filled before) filled apart, ?_, ?_⟩
      · exact one ▸ child item there _ before
      · exact two ▸ (keys _).mpr (.inl source)

end Growth

section Acceptance

variable [Engine] {s : TaskExecutionProjectionV1} {plan : TaskPlanV1} {digest : JsString}

/-- A task that no event of a running workflow or attempt has touched, with the contract that the
plan was made for, and without an adopted plan. -/
structure Adoptable (s : TaskExecutionProjectionV1) (plan : TaskPlanV1) : Prop where
  contract : ∃ contract, s.contracts.get plan.sourceTaskId = some contract ∧
    contract.kind = .work ∧ taskContractDigestV2 contract = .ok plan.sourceContractDigest
  draft : s.lifecycles.get plan.sourceTaskId = some .draft
  unprepared : ∀ key prepared, s.prepared.get key = some prepared → prepared.taskId ≠ plan.sourceTaskId
  unadopted : ∀ key other, s.plans.get key = some other → other.sourceTaskId = plan.sourceTaskId →
    s.adopted.get key = none
  unfrozen : ∀ id w closure, s.workflows.get id = some w → w.state = .running →
    taskDependencyClosureV1 s w.authorization.targetTaskId = .ok closure →
      ∀ contract ∈ closure.contracts, contract.taskId ≠ plan.sourceTaskId

theorem source_known (adoptable : Adoptable s plan) : plan.sourceTaskId ∈ s.contracts.keys := by
  obtain ⟨contract, stored, _⟩ := adoptable.contract
  exact (Record.mem_keys_iff _ _).mpr ⟨contract, stored⟩

theorem adoptable_mutable (graphs : FrozenGraphs s) (adoptable : Adoptable s plan) :
    mutable s plan.sourceTaskId true = .ok () := by
  obtain ⟨contract, stored, _⟩ := adoptable.contract
  have there : present s.contracts plan.sourceTaskId = true := by simp [present, stored]
  have unprepared : taskPrepared s plan.sourceTaskId = false := by
    simp only [taskPrepared, List.any_eq_false, decide_eq_true_eq]
    intro prepared member
    obtain ⟨key, found⟩ := (s.prepared.mem_values_iff prepared).mp member
    exact adoptable.unprepared key prepared found
  have unfrozen : ∀ w ∈ s.workflows.values, freezes s true plan.sourceTaskId w = .ok false := by
    intro w member
    obtain ⟨id, found⟩ := (s.workflows.mem_values_iff w).mp member
    rw [freezes]
    split
    · next caught =>
        obtain ⟨running, frozen | never⟩ := caught
        · obtain ⟨graphDigest, fixed⟩ := Option.ne_none_iff_exists'.mp frozen
          obtain ⟨closure, collected, _⟩ := bind_ok_iff.mp (graphs id w graphDigest found running fixed)
          have outside := adoptable.unfrozen id w closure found running collected
          exact bind_ok_iff.mpr ⟨closure, collected, by simpa [pure, Except.pure] using outside⟩
        · cases never
    · rfl
  simp only [mutable, requireTask, bind_ok_iff, ensure_ok_iff, pure_ok_iff, there]
  exact ⟨_, ⟨(), trivial, rfl⟩, (), ⟨adoptable.draft, unprepared⟩, false,
    (anyM_false_iff _ _).mpr unfrozen, rfl⟩

-- A plan that was not adopted before is adopted by its tasks and edges.
theorem first_adoption_ok_iff (stored : s.plans.get digest = some plan)
    (fresh : s.adopted.get plan.planDigest = none) :
    (∃ after, reduceTaskPlanAdoptedV1 s plan.sourceTaskId digest = .ok after) ↔
      planAdopted s plan.sourceTaskId = false ∧ mutable s plan.sourceTaskId true = .ok () ∧
        (∃ task, requireTask s plan.sourceTaskId = .ok task ∧
          contractUnchanged task plan.sourceContractDigest .planSourceChanged = .ok ()) ∧
        ∃ adoption grown, derivePlanAdoptionV1 plan = .ok adoption ∧
          adoption.contracts.foldlM addContract s = .ok grown ∧
          assertAcyclic grown.contracts.keys (grown.edges ++ adoption.edges) = .ok () := by
  simp only [reduceTaskPlanAdoptedV1, stored, required, ok_bind, fresh, Option.isSome_none,
    Bool.false_eq_true, if_false, bind_ok_iff, ensure_ok_iff, pure_ok_iff]
  constructor
  · rintro ⟨after, _, -, _, unadopted, _, free, task, found, _, unchanged, adoption, derived, grown,
      added, _, acyclic, -⟩
    exact ⟨unadopted, free, ⟨task, found, unchanged⟩, adoption, grown, derived, added, acyclic⟩
  · rintro ⟨unadopted, free, ⟨task, found, unchanged⟩, adoption, grown, derived, added, acyclic⟩
    exact ⟨_, (), trivial, (), unadopted, (), free, task, found, (), unchanged, adoption, derived, grown,
      added, (), acyclic, rfl⟩

/-- A stored plan whose source is as it was is adopted exactly when its derived ids are unused. -/
theorem adoption_accepted_iff (law : Hexadecimal Engine.sha256Hex) (reached : Reachable s)
    (stored : s.plans.get digest = some plan) (adoptable : Adoptable s plan)
    {event : TaskExecutionEventV1} {sequence : Nat}
    (payload : event.payload = .taskPlanAdoptedV1 plan.sourceTaskId digest)
    (workspace : blank event.workspaceId = false) (run : blank event.runId = false) :
    ∃ adoption, derivePlanAdoptionV1 plan = .ok adoption ∧
      ((∃ after, reduceTaskExecutionV1 s event sequence = .ok after) ↔ Unused s adoption) := by
  have sound := sound_plans_reachable reached
  have graph := sound_graph_reachable reached
  have edgeIds := (scheduled_reachable reached).edgeIds
  obtain ⟨rfl, parsed⟩ := sound.filed digest plan stored
  obtain ⟨adoption, derived⟩ := adoption_derived law parsed
  have checked := plan_checked parsed
  have mutable_now := adoptable_mutable (graphs_reachable reached).2 adoptable
  have unadopted : planAdopted s plan.sourceTaskId = false := by
    simp only [planAdopted, List.any_eq_false, Bool.and_eq_true, decide_eq_true_eq]
    rintro other member ⟨same, there⟩
    obtain ⟨key, found⟩ := (s.plans.mem_values_iff other).mp member
    rw [(sound.filed key other found).1, adoptable.unadopted key other found same] at there
    cases there
  have first := adoptable.unadopted _ plan stored rfl
  have event_ok : (∃ after, reduceTaskExecutionV1 s event sequence = .ok after) ↔
      ∃ after, reduceTaskPlanAdoptedV1 s plan.sourceTaskId plan.planDigest = .ok after := by
    have parsed_event : parseTaskExecutionEventV1 event = .ok () := by
      simp [parseTaskExecutionEventV1, payload, text, textCheck, workspace, run, checked.source,
        (digest_valid law checked).1, ensure, bind, Except.bind, pure, Except.pure]
    simp only [reduceTaskExecutionV1, parsed_event, payload, ok_bind]
  rw [event_ok, first_adoption_ok_iff stored first]
  refine ⟨adoption, derived, ?_, ?_⟩
  · rintro ⟨-, -, -, again, grown, same, added, acyclic⟩
    obtain rfl := Except.ok.inj (derived.symm.trans same)
    obtain ⟨apart, absent⟩ := (add_contracts_iff _).mp ⟨grown, added⟩
    obtain ⟨edges, -, -⟩ := add_contracts_fresh adoption.contracts added
    obtain ⟨-, -, unique, -⟩ := acyclic_iff.mp acyclic
    exact ⟨apart, absent, edges ▸ unique⟩
  · intro unused
    have free : ∃ grown, adoption.contracts.foldlM addContract s = .ok grown :=
      (add_contracts_iff adoption.contracts).mpr ⟨unused.apart, unused.free⟩
    obtain ⟨grown, added⟩ := free
    obtain ⟨edges, -, -⟩ := add_contracts_fresh adoption.contracts added
    have acyclic : assertAcyclic grown.contracts.keys (grown.edges ++ adoption.edges) = .ok () := by
      rw [edges]
      exact acyclic_iff.mpr ⟨grown.contracts.keys_nodup,
        grown_joins graph parsed derived unused (source_known adoptable) added, unused.edges,
        grown_acyclic graph edgeIds parsed derived unused (source_known adoptable)⟩
    obtain ⟨contract, held, -, unchanged⟩ := adoptable.contract
    have task : requireTask s plan.sourceTaskId = .ok (some contract) := by
      simp [requireTask, present, held, ensure, bind, Except.bind, pure, Except.pure]
    have same : contractUnchanged (some contract) plan.sourceContractDigest .planSourceChanged = .ok () := by
      simp [contractUnchanged, contractDigestOf, unchanged, ensure, bind, Except.bind]
    exact ⟨unadopted, mutable_now, ⟨_, task, same⟩, adoption, grown, derived, added, acyclic⟩

end Acceptance

section Proposed

attribute [local instance] shortEngine

def proposedPlan : TaskPlanV1 := finalOf ⟨[], [], [], []⟩ adoptedPlan

def proposedPayloads (created : List JsString) : Except DomainError (List TaskExecutionPayloadV1) := do
  let prepared ← plannerPrepared
  let receipt ← sampleReceipt prepared
  return [.taskCreatedV2 (sampleTask (js "t")), .taskCreatedV2 adoptedPlanner,
    .taskActivatedV1 (js "p"), .taskExecutionPreparedV1 prepared,
    .taskExecutionTransitionV1 (sampleReference prepared) .commitLaunchIntent,
    .taskExecutionReceiptV1 (sampleReference prepared) receipt,
    .taskResolvedV2 plannerResolution sampleClock, .taskPlanProposedV1 (js "p") proposedPlan] ++
    created.map fun id => .taskCreatedV2 (sampleTask id)

def proposedState (created : List JsString) : TaskExecutionProjectionV1 :=
  sampleState anything (proposedPayloads created)

def proposedAdoption : TaskExecutionEventV1 :=
  ⟨js "w", js "r", .taskPlanAdoptedV1 (js "t") proposedPlan.planDigest⟩

def openSource (s : TaskExecutionProjectionV1) : Bool :=
  s.plans.get proposedPlan.planDigest = some proposedPlan &&
    s.contracts.get (js "t") = some (sampleTask (js "t")) &&
    s.lifecycles.get (js "t") = some .draft &&
    s.prepared.values.all (fun prepared => prepared.taskId ≠ js "t") &&
    s.adopted.entries.isEmpty && s.workflows.entries.isEmpty

theorem proposed_plan_source : proposedPlan.sourceTaskId = js "t" ∧
    taskContractDigestV2 (sampleTask (js "t")) = .ok proposedPlan.sourceContractDigest := by
  decide +kernel

theorem open_source_adoptable {s : TaskExecutionProjectionV1} (checked : openSource s = true) :
    s.plans.get proposedPlan.planDigest = some proposedPlan ∧ Adoptable s proposedPlan := by
  simp only [openSource, Bool.and_eq_true, decide_eq_true_eq, List.all_eq_true, List.isEmpty_iff] at checked
  obtain ⟨⟨⟨⟨⟨stored, contract⟩, draft⟩, unprepared⟩, unadopted⟩, idle⟩ := checked
  obtain ⟨source, digest⟩ := proposed_plan_source
  have nothing (key : JsString) : s.adopted.get key = none := by
    rw [Record.get_none_iff, Record.keys, unadopted]
    exact List.not_mem_nil
  have none_running (key : JsString) : s.workflows.get key = none := by
    rw [Record.get_none_iff, Record.keys, idle]
    exact List.not_mem_nil
  refine ⟨stored, ⟨_, (congrArg s.contracts.get source).trans contract, rfl, digest⟩,
    (congrArg s.lifecycles.get source).trans draft, ?_, fun key _ _ _ => nothing key, ?_⟩
  · intro key prepared found
    have other := unprepared prepared ((s.prepared.mem_values_iff prepared).mpr ⟨key, found⟩)
    rw [source]
    exact other
  · intro id w closure found
    rw [none_running id] at found
    cases found

/-- The source stays open; where a client's task has the first child's id, the adoption fails. -/
instance proposed_runs_end : Fact (endsIn openSource (sampleRun anything (proposedPayloads [])) = true ∧
    endsIn (fun s => openSource s &&
        failsWith .executionInvalid (reduceTaskExecutionV1 s proposedAdoption 1))
      (sampleRun anything
        (proposedPayloads [finalOf [] (planChildId proposedPlan.planDigest (js "a"))])) = true) :=
  ⟨by decide +kernel⟩

theorem proposed_reachable : Reachable (proposedState []) ∧ openSource (proposedState []) = true :=
  sample_reachable (proposedPayloads []) openSource proposed_runs_end.out.1

theorem adoption_accepted_iff_proposed : ∃ adoption, derivePlanAdoptionV1 proposedPlan = .ok adoption ∧
    ((∃ after, reduceTaskExecutionV1 (proposedState []) proposedAdoption 1 = .ok after) ↔
      Unused (proposedState []) adoption) := by
  obtain ⟨stored, adoptable⟩ := open_source_adoptable proposed_reachable.2
  have payload : proposedAdoption.payload =
      .taskPlanAdoptedV1 proposedPlan.sourceTaskId proposedPlan.planDigest := by
    rw [proposedAdoption, proposed_plan_source.1]
  exact adoption_accepted_iff short_hexadecimal proposed_reachable.1 stored adoptable payload
    (show blank (js "w") = false by decide) (show blank (js "r") = false by decide)

def takenState : TaskExecutionProjectionV1 :=
  proposedState [finalOf [] (planChildId proposedPlan.planDigest (js "a"))]

/-- A created task in the way of an adoption: the source is as it was, and the event is refused. -/
theorem taken_child_blocks_adoption : Reachable takenState ∧
    takenState.plans.get proposedPlan.planDigest = some proposedPlan ∧
      Adoptable takenState proposedPlan ∧
      reduceTaskExecutionV1 takenState proposedAdoption 1 = .error .executionInvalid := by
  have ended := sample_reachable
    (proposedPayloads [finalOf [] (planChildId proposedPlan.planDigest (js "a"))]) _
    proposed_runs_end.out.2
  obtain ⟨checked, refused⟩ := Bool.and_eq_true_iff.mp ended.2
  obtain ⟨stored, adoptable⟩ := open_source_adoptable checked
  exact ⟨ended.1, stored, adoptable, fails_with_eq refused⟩

end Proposed

end Horseness.PlanAvailability
