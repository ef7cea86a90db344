import Horseness.ExecutionSteps

/-!
How events change the stored plans and the adoptions: a plan is stored once under its own digest,
and an adoption adds the tasks and edges that are derived from a stored plan.
-/

namespace Horseness.PlanEffects

open FallibleRuns Records PlainObjects ScriptText ScriptEngine TaskPlans ExecutionEvents Execution
  ExecutionSteps

section Additions

variable {s grown : TaskExecutionProjectionV1}

theorem add_contracts_plans (contracts : List TaskContractV2)
    (added : contracts.foldlM addContract s = .ok grown) :
    grown.plans = s.plans ∧ grown.adopted = s.adopted := by
  refine foldlM_invariant addContract (fun grown => grown.plans = s.plans ∧ grown.adopted = s.adopted)
    contracts ?_ s grown ⟨rfl, rfl⟩ added
  rintro middle contract after _ ⟨plans, adopted⟩ one
  obtain ⟨-, rfl⟩ := (add_contract_ok_iff contract).mp one
  exact ⟨plans, adopted⟩

theorem add_contract_keys {contract : TaskContractV2} (added : addContract s contract = .ok grown)
    (id : JsString) : id ∈ grown.contracts.keys ↔ id ∈ s.contracts.keys ∨ id = contract.taskId := by
  obtain ⟨-, rfl⟩ := (add_contract_ok_iff contract).mp added
  simp only [Record.mem_keys_iff, Record.get_set]
  by_cases same : contract.taskId = id
  · simp [same]
  · simp [same, Ne.symm same]

theorem add_contracts_keys (contracts : List TaskContractV2)
    (added : contracts.foldlM addContract s = .ok grown) (id : JsString) :
    id ∈ grown.contracts.keys ↔ id ∈ s.contracts.keys ∨ id ∈ contracts.map TaskContractV2.taskId := by
  induction contracts generalizing s with
  | nil =>
      obtain rfl := (pure_ok_iff _ _).mp added
      simp
  | cons contract rest ih =>
      obtain ⟨middle, first, later⟩ := (foldlM_cons_ok_iff _ _ _ _ _).mp added
      rw [ih later, add_contract_keys first, List.map_cons, List.mem_cons, or_assoc]

theorem add_contracts_stored (contracts : List TaskContractV2)
    (added : contracts.foldlM addContract s = .ok grown) :
    ∀ contract ∈ contracts, grown.contracts.get contract.taskId = some contract := by
  induction contracts generalizing s with
  | nil => simp
  | cons contract rest ih =>
      obtain ⟨middle, first, later⟩ := (foldlM_cons_ok_iff _ _ _ _ _).mp added
      rw [List.forall_mem_cons]
      refine ⟨?_, ih later⟩
      apply (add_contracts_frame rest later).contracts
      obtain ⟨-, rfl⟩ := (add_contract_ok_iff contract).mp first
      exact Record.get_set_same _ _ _

theorem add_contracts_iff (contracts : List TaskContractV2) :
    (∃ grown, contracts.foldlM addContract s = .ok grown) ↔
      (contracts.map TaskContractV2.taskId).Nodup ∧
        ∀ contract ∈ contracts, present s.contracts contract.taskId = false := by
  induction contracts generalizing s with
  | nil => simp [pure, Except.pure]
  | cons contract rest ih =>
      have others (id : JsString) : present (s.contracts.set contract.taskId contract) id = false ↔
          contract.taskId ≠ id ∧ present s.contracts id = false := by
        by_cases same : contract.taskId = id
        · simp [present, same]
        · simp [present, same, Record.get_set_other]
      rw [List.map_cons, List.nodup_cons, List.forall_mem_cons]
      constructor
      · rintro ⟨grown, added⟩
        obtain ⟨middle, first, later⟩ := (foldlM_cons_ok_iff _ _ _ _ _).mp added
        obtain ⟨absent, rfl⟩ := (add_contract_ok_iff contract).mp first
        obtain ⟨apart, free⟩ := ih.mp ⟨grown, later⟩
        refine ⟨⟨?_, apart⟩, absent, fun other member => ((others _).mp (free other member)).2⟩
        intro again
        obtain ⟨other, member, same⟩ := List.mem_map.mp again
        exact ((others _).mp (free other member)).1 same.symm
      · rintro ⟨⟨fresh, apart⟩, absent, free⟩
        obtain ⟨grown, added⟩ := (ih (s := { s with
            contracts := s.contracts.set contract.taskId contract
            lifecycles := s.lifecycles.set contract.taskId .draft })).mpr
          ⟨apart, fun other member => (others _).mpr
            ⟨fun same => fresh (same ▸ List.mem_map_of_mem member), free other member⟩⟩
        exact ⟨grown, (foldlM_cons_ok_iff _ _ _ _ _).mpr
          ⟨_, (add_contract_ok_iff contract).mpr ⟨absent, rfl⟩, added⟩⟩

end Additions

section Effects

variable [Engine] {s after : TaskExecutionProjectionV1}

/-- The three things that an event can do to the stored plans and the adoptions. -/
inductive PlanEffect (s after : TaskExecutionProjectionV1) : Prop where
  | unchanged (plans : after.plans = s.plans) (adopted : after.adopted = s.adopted)
  | stored (plan : TaskPlanV1) (parsed : parseTaskPlanV1 plan = .ok ())
      (fresh : s.plans.get plan.planDigest = none)
      (plans : after.plans = s.plans.set plan.planDigest plan) (adopted : after.adopted = s.adopted)
  | adoption (planDigest : JsString) (plan : TaskPlanV1) (adoption : PlanAdoptionV1)
      (found : s.plans.get planDigest = some plan)
      (unadopted : planAdopted s plan.sourceTaskId = false)
      (free : mutable s plan.sourceTaskId true = .ok ())
      (derived : derivePlanAdoptionV1 plan = .ok adoption)
      (contracts : ∀ contract ∈ adoption.contracts,
        after.contracts.get contract.taskId = some contract)
      (edges : adoption.edges ⊆ after.edges) (plans : after.plans = s.plans)
      (adopted : after.adopted =
        s.adopted.set plan.planDigest (adoption.contracts.map TaskContractV2.taskId))

theorem store_plan_effect {plan : TaskPlanV1} (parsed : parseTaskPlanV1 plan = .ok ())
    (stored : storePlan s plan = .ok after) : PlanEffect s after := by
  unfold storePlan at stored
  split at stored
  · rw [check_ok_iff, pure_ok_iff] at stored
    exact stored.2 ▸ .unchanged rfl rfl
  · next fresh =>
      obtain rfl := (pure_ok_iff _ _).mp stored
      exact .stored plan parsed fresh rfl rfl

theorem PlanEffect.later {final : TaskExecutionProjectionV1} (effect : PlanEffect s after)
    (contracts : final.contracts = after.contracts) (edges : final.edges = after.edges)
    (plans : final.plans = after.plans) (adopted : final.adopted = after.adopted) :
    PlanEffect s final := by
  cases effect with
  | unchanged same kept => exact .unchanged (plans.trans same) (adopted.trans kept)
  | stored plan parsed fresh placed kept =>
      exact .stored plan parsed fresh (plans.trans placed) (adopted.trans kept)
  | adoption planDigest plan adoption found unadopted free derived held grown same placed =>
      exact .adoption planDigest plan adoption found unadopted free derived (contracts ▸ held)
        (edges ▸ grown) (plans.trans same) (adopted.trans placed)

theorem proposed_effect {plannerTaskId : JsString} {plan : TaskPlanV1}
    (parsed : parseTaskPlanV1 plan = .ok ())
    (accepted : reduceTaskPlanProposedV1 s plannerTaskId plan = .ok after) : PlanEffect s after := by
  simp only [reduceTaskPlanProposedV1, bind_ok_iff] at accepted
  obtain ⟨_, -, _, -, _, -, _, -, _, -, _, -, rest⟩ := accepted
  split at rest
  · exact (pure_ok_iff _ _).mp rest ▸ .unchanged rfl rfl
  · obtain ⟨stored, kept, same⟩ := bind_ok_iff.mp rest
    obtain rfl := (pure_ok_iff _ _).mp same
    exact (store_plan_effect parsed kept).later rfl rfl rfl rfl

theorem revised_effect {basePlanDigest : JsString} {plan : TaskPlanV1}
    (parsed : parseTaskPlanV1 plan = .ok ())
    (accepted : reduceTaskPlanRevisedV1 s basePlanDigest plan = .ok after) : PlanEffect s after := by
  simp only [reduceTaskPlanRevisedV1, bind_ok_iff, pure_ok_iff] at accepted
  obtain ⟨_, -, _, -, stored, kept, rfl⟩ := accepted
  exact (store_plan_effect parsed kept).later rfl rfl rfl rfl

omit [Engine] in
theorem rejected_plans {taskId plannerTaskId reasonCode : JsString}
    (accepted : reduceTaskPlanRejectedV1 s taskId plannerTaskId reasonCode = .ok after) :
    after.plans = s.plans ∧ after.adopted = s.adopted := by
  simp only [reduceTaskPlanRejectedV1, bind_ok_iff] at accepted
  obtain ⟨_, -, _, -, _, -, _, -, rest⟩ := accepted
  split at rest
  · exact (pure_ok_iff _ _).mp rest ▸ ⟨rfl, rfl⟩
  · exact (pure_ok_iff _ _).mp rest ▸ ⟨rfl, rfl⟩

theorem proposed_parsed {event : TaskExecutionEventV1} {plannerTaskId : JsString} {plan : TaskPlanV1}
    (parsed : parseTaskExecutionEventV1 event = .ok ())
    (payload : event.payload = .taskPlanProposedV1 plannerTaskId plan) :
    parseTaskPlanV1 plan = .ok () := by
  simp only [parseTaskExecutionEventV1, payload, check_ok_iff] at parsed
  exact parsed.2.2.2

theorem revised_parsed {event : TaskExecutionEventV1} {basePlanDigest : JsString} {plan : TaskPlanV1}
    (parsed : parseTaskExecutionEventV1 event = .ok ())
    (payload : event.payload = .taskPlanRevisedV1 basePlanDigest plan) :
    parseTaskPlanV1 plan = .ok () := by
  simp only [parseTaskExecutionEventV1, payload, check_ok_iff] at parsed
  exact parsed.2.2.1

theorem plan_effect {event : TaskExecutionEventV1} {sequence : Nat}
    (accepted : reduceTaskExecutionV1 s event sequence = .ok after) : PlanEffect s after := by
  obtain ⟨parsed, accepted⟩ := check_ok_iff.mp accepted
  cases payload : event.payload <;> rw [payload] at accepted
  case taskPlanProposedV1 plannerTaskId plan =>
    exact proposed_effect (proposed_parsed parsed payload) accepted
  case taskPlanRevisedV1 basePlanDigest plan =>
    exact revised_effect (revised_parsed parsed payload) accepted
  case taskPlanRejectedV1 taskId plannerTaskId reasonCode =>
    obtain ⟨plans, adopted⟩ := rejected_plans accepted
    exact .unchanged plans adopted
  case taskPlanAdoptedV1 taskId planDigest =>
    obtain rfl | ⟨plan, adoption, grown, found, rfl, unadopted, free, derived, added, -, rfl⟩ :=
      adopted_ok accepted
    · exact .unchanged rfl rfl
    · obtain ⟨plans, adopted⟩ := add_contracts_plans _ added
      have held := add_contracts_stored adoption.contracts added
      exact .adoption planDigest plan adoption found unadopted free derived held
        (List.subset_append_right _ _) plans (by rw [← adopted])
  case taskWorkflowStartedV1 authorization =>
    obtain ⟨-, -, rfl⟩ := started_ok accepted
    exact .unchanged rfl rfl
  case taskWorkflowPlanBoundV1 boundId planDigest graphDigest =>
    obtain ⟨_, -, -, -, -, rfl⟩ := plan_bound_ok accepted
    exact .unchanged rfl rfl
  case taskWorkflowStoppedV1 stoppedId ended reasonCode =>
    obtain ⟨_, -, -, rfl⟩ := stopped_ok accepted
    exact .unchanged rfl rfl
  case taskCreatedV2 contract =>
    obtain ⟨-, rfl⟩ := (add_contract_ok_iff contract).mp accepted
    exact .unchanged rfl rfl
  case taskActivatedV1 taskId =>
    obtain ⟨-, rfl⟩ := activated_ok accepted
    exact .unchanged rfl rfl
  case dependencyAddedV1 edge =>
    obtain ⟨-, -, -, rfl⟩ := dependency_added_ok accepted
    exact .unchanged rfl rfl
  case taskExecutionPreparedV1 prepared =>
    obtain ⟨-, -, -, -, -, -, _, _, -, rfl⟩ := prepared_ok accepted
    exact .unchanged rfl rfl
  case taskExecutionTransitionV1 attempt input =>
    obtain ⟨_, _, _, -, -, -, -, -, rfl⟩ := transition_ok accepted
    exact .unchanged rfl rfl
  case taskExecutionReceiptV1 attempt receipt =>
    obtain ⟨_, _, _, -, -, -, -, -, -, -, ⟨rfl, -⟩ | ⟨-, _, -, rfl⟩⟩ := receipt_ok accepted
    · exact .unchanged rfl rfl
    · exact .unchanged rfl rfl
  case taskExecutionAbortedV1 attempt reasonCode clock =>
    obtain ⟨_, _, -, -, -, -, rfl⟩ := aborted_ok accepted
    exact .unchanged rfl rfl
  case taskResolvedV2 resolution clock =>
    obtain ⟨_, _, -, -, -, -, rfl⟩ := resolved_ok accepted
    exact .unchanged rfl rfl

end Effects

end Horseness.PlanEffects
