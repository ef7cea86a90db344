import Horseness.Execution

/-!
What each event kind can do, guards included. The invariants of the projection
are derived from these inversions; no later proof unfolds a reducer.
-/

namespace Horseness.ExecutionSteps

open FallibleRuns Records ScriptText PlainObjects ScriptEngine Canonical ForkContext Tasks
  AttemptReceipts TaskPlans ExecutionEvents Execution

variable {s after : TaskExecutionProjectionV1}

section Guards

theorem require_task_ok_iff (id : JsString) (found : Option TaskContractV2) :
    requireTask s id = .ok found ↔ present s.contracts id = true ∧ s.contracts.get id = found := by
  simp only [requireTask, check_ok_iff, ensure_ok_iff, pure_ok_iff]

theorem mutable_ok {id : JsString} {allowAutoPlan : Bool}
    (allowed : mutable s id allowAutoPlan = .ok ()) :
    s.lifecycles.get id = some .draft ∧ taskPrepared s id = false ∧
      ∀ workflow ∈ s.workflows.values, freezes s allowAutoPlan id workflow = .ok false := by
  simp only [mutable, bind_ok_iff, require_task_ok_iff, ensure_ok_iff] at allowed
  obtain ⟨_, -, _, ⟨draft, unprepared⟩, frozen, searched, unfrozen⟩ := allowed
  subst unfrozen
  exact ⟨draft, unprepared, (anyM_false_iff _ _).mp searched⟩

-- A running workflow with a frozen graph does not contain a mutable task.
theorem freezes_frozen {allowAutoPlan : Bool} {id : JsString} {workflow : WorkflowRecord}
    (unfrozen : freezes s allowAutoPlan id workflow = .ok false)
    (running : workflow.state = .running)
    (frozen : workflow.authorization.graphDigest ≠ none) :
    ∃ closure, taskDependencyClosureV1 s workflow.authorization.targetTaskId = .ok closure ∧
      ∀ contract ∈ closure.contracts, contract.taskId ≠ id := by
  rw [freezes, if_pos ⟨running, Or.inl frozen⟩, closureContains, bind_ok_iff] at unfrozen
  obtain ⟨closure, computed, absent⟩ := unfrozen
  refine ⟨closure, computed, ?_⟩
  simpa [pure, Except.pure] using absent

end Guards

section Tasks

theorem add_contract_ok_iff (contract : TaskContractV2) :
    addContract s contract = .ok after ↔ present s.contracts contract.taskId = false ∧
      { s with
        contracts := s.contracts.set contract.taskId contract
        lifecycles := s.lifecycles.set contract.taskId .draft } = after := by
  simp only [addContract, check_ok_iff, ensure_ok_iff, pure_ok_iff]

theorem activated_ok {taskId : JsString} (accepted : reduceTaskActivatedV1 s taskId = .ok after) :
    s.lifecycles.get taskId = some .draft ∧
      after = { s with lifecycles := s.lifecycles.set taskId .active } := by
  simp only [reduceTaskActivatedV1, bind_ok_iff, required_ok_iff, pure_ok_iff] at accepted
  obtain ⟨_, -, lifecycle, stored, next, advanced, rfl⟩ := accepted
  cases lifecycle with
  | draft =>
      obtain rfl : TaskLifecycle.active = next := by simpa [reduceTaskLifecycle] using advanced
      exact ⟨stored, rfl⟩
  | active => simp [reduceTaskLifecycle] at advanced
  | resolved resolution => simp [reduceTaskLifecycle] at advanced

theorem dependency_added_ok {edge : DependencyEdgeV1}
    (accepted : reduceDependencyAddedV1 s edge = .ok after) :
    mutable s edge.dependentTaskId false = .ok () ∧ edge.edgeId ∉ s.edges.map DependencyEdgeV1.edgeId ∧
      assertAcyclic s.contracts.keys (s.edges ++ [edge]) = .ok () ∧
      after = { s with edges := s.edges ++ [edge] } := by
  simp only [reduceDependencyAddedV1, bind_ok_iff, ensure_ok_iff, pure_ok_iff] at accepted
  obtain ⟨_, free, _, -, _, fresh, _, acyclic, rfl⟩ := accepted
  exact ⟨free, fresh, acyclic, rfl⟩

end Tasks

section Attempts

theorem dependency_frozen_ok {join : DependencyJoinSnapshotCoreV1} {edge : DependencyEdgeV1}
    (frozen : dependencyFrozen s join edge = .ok ()) :
    ∃ resolution dependency, s.resolutions.get edge.sourceTaskId = some resolution ∧
      dependencySatisfied edge resolution.resolution = .ok true ∧
      join.dependencies.find? (fun dependency => dependency.edgeId = edge.edgeId) =
        some dependency ∧
      dependency.sourceTaskId = edge.sourceTaskId ∧ dependency.edgeType = edge.edgeType ∧
      dependency.winningGeneration = resolution.winningGeneration := by
  simp only [dependencyFrozen, bind_ok_iff, required_ok_iff, ensure_ok_iff] at frozen
  obtain ⟨resolution, stored, satisfied, met, _, rfl, dependency, listed, agree⟩ := frozen
  exact ⟨resolution, dependency, stored, met, listed, agree⟩

theorem prepared_ok [Engine] {p : TaskExecutionPreparedDataV1}
    (accepted : reduceTaskExecutionPreparedV1 s p = .ok after) :
    s.lifecycles.get p.taskId = some .active ∧
      s.prepared.get (attemptKey p.attemptId p.generation) = none ∧
      (∀ attempt ∈ s.attempts.values, unfinishedAttempt s p.taskId attempt = false) ∧
      p.join.dependencies.length =
        (s.edges.filter (fun edge => edge.dependentTaskId = p.taskId)).length ∧
      (∀ edge ∈ s.edges.filter (fun edge => edge.dependentTaskId = p.taskId),
        dependencyFrozen s p.join edge = .ok ()) ∧
      contractUnchanged (s.contracts.get p.taskId) p.join.taskContractDigest .executionInvalid =
        .ok () ∧
      ∃ bindingDigest idempotencyKeyDigest,
        attemptContextBindingDigest p.binding = .ok bindingDigest ∧
        after = { s with
          prepared := s.prepared.set (attemptKey p.attemptId p.generation) p
          attempts := s.attempts.set (attemptKey p.attemptId p.generation)
            (plannedAttempt p bindingDigest idempotencyKeyDigest) } := by
  simp only [reduceTaskExecutionPreparedV1, bind_ok_iff, require_task_ok_iff, ensure_ok_iff,
    pure_ok_iff] at accepted
  obtain ⟨contract, ⟨-, rfl⟩, _, ⟨active, unused, -, finished⟩, _, -, _, counted, _, frozen, _,
    unchanged, bindingDigest, bound, idempotencyKeyDigest, -, rfl⟩ := accepted
  refine ⟨active, by simpa using unused, ?_, counted, ?_, unchanged, bindingDigest,
    idempotencyKeyDigest, bound, rfl⟩
  · simpa using finished
  · exact (forM_ok_iff _ _ ()).mp frozen

theorem find_attempt_ok_iff (attempt : AttemptReference) (code : DomainError)
    (p : TaskExecutionPreparedDataV1) (a : AttemptGenerationStateV1) :
    findAttempt s attempt code = .ok (p, a) ↔
      s.prepared.get (AttemptReference.key attempt) = some p ∧
        s.attempts.get (AttemptReference.key attempt) = some a ∧
        p.taskId = attempt.taskId ∧ p.profileDigest = attempt.profileDigest := by
  simp only [findAttempt, bind_ok_iff, required_ok_iff, ensure_ok_iff, pure_ok_iff, Prod.mk.injEq]
  constructor
  · rintro ⟨_, prepared, _, stored, _, agree, rfl, rfl⟩
    exact ⟨prepared, stored, agree⟩
  · rintro ⟨prepared, stored, agree⟩
    exact ⟨p, prepared, a, stored, (), agree, rfl, rfl⟩

theorem transition_ok {attempt : AttemptReference} {input : DispatchInputV1}
    (accepted : reduceTaskExecutionTransitionV1 s attempt input = .ok after) :
    ∃ p a next, s.prepared.get (AttemptReference.key attempt) = some p ∧
      s.attempts.get (AttemptReference.key attempt) = some a ∧
      input ≠ .reconcileNotFoundIdempotent ∧ settles input = false ∧
      reduceDispatch a input = .ok next ∧
      after = { s with attempts := s.attempts.set (AttemptReference.key attempt) next } := by
  simp only [reduceTaskExecutionTransitionV1, bind_ok_iff, ensure_ok_iff, pure_ok_iff] at accepted
  obtain ⟨⟨p, a⟩, found, _, idempotent, _, settling, next, dispatched, rfl⟩ := accepted
  obtain ⟨prepared, stored, -⟩ := (find_attempt_ok_iff attempt _ p a).mp found
  exact ⟨p, a, next, prepared, stored, idempotent, settling, dispatched, rfl⟩

theorem aborted_ok {attempt : AttemptReference} {reasonCode : JsString} {sequence : Nat}
    (accepted : reduceTaskExecutionAbortedV1 s attempt reasonCode sequence = .ok after) :
    ∃ p a, s.prepared.get (AttemptReference.key attempt) = some p ∧
      s.attempts.get (AttemptReference.key attempt) = some a ∧
      a.state = .planned ∧ a.terminalEventSequence = none ∧
      after = { s with
        aborted := s.aborted.set (AttemptReference.key attempt) ⟨reasonCode, sequence⟩
        attempts := s.attempts.set (AttemptReference.key attempt)
          { a with state := .terminal .cancelled, terminalEventSequence := some sequence } } := by
  simp only [reduceTaskExecutionAbortedV1, bind_ok_iff, ensure_ok_iff, pure_ok_iff] at accepted
  obtain ⟨⟨p, a⟩, found, _, ⟨planned, unsettled⟩, rfl⟩ := accepted
  obtain ⟨prepared, stored, -⟩ := (find_attempt_ok_iff attempt _ p a).mp found
  exact ⟨p, a, prepared, stored, planned, unsettled, rfl⟩

/-- A receipt is either a repetition, which changes nothing, or the first of its
attempt, which is stored and handed to the dispatch reducer. -/
theorem receipt_ok {workspaceId runId : JsString} {attempt : AttemptReference}
    {r : AttemptReceiptEnvelopeV1} {sequence : Nat}
    (accepted : reduceTaskExecutionReceiptV1 s workspaceId runId attempt r sequence = .ok after) :
    ∃ p a provenance, s.prepared.get (AttemptReference.key attempt) = some p ∧
      s.attempts.get (AttemptReference.key attempt) = some a ∧
      s.aborted.get (AttemptReference.key attempt) = none ∧ a.state ≠ .planned ∧
      receiptMatches workspaceId runId p a r ∧
      parseTaskExecutionReceiptProvenanceV1 r.provenance = .ok provenance ∧
      (r.outcome = .succeeded → successObserved p r provenance) ∧
      ((after = s ∧ (s.receipts.get (AttemptReference.key attempt)).isSome = true) ∨
        (s.receipts.get (AttemptReference.key attempt) = none ∧
          ∃ next, reduceDispatch a (.terminalReceipt r.outcome sequence
              (some r.providerOperationId)) = .ok next ∧
            after = { s with
              receipts := s.receipts.set (AttemptReference.key attempt) r
              attempts := s.attempts.set (AttemptReference.key attempt) next })) := by
  simp only [reduceTaskExecutionReceiptV1, bind_ok_iff, ensure_ok_iff] at accepted
  obtain ⟨_, ⟨unaborted, launched⟩, ⟨p, a⟩, found, _, matched, provenance, parsed, _, -, _,
    observed, rest⟩ := accepted
  obtain ⟨prepared, stored, -⟩ := (find_attempt_ok_iff attempt _ p a).mp found
  refine ⟨p, a, provenance, prepared, stored, by simpa using unaborted, ?_, matched, parsed,
    observed, ?_⟩
  · intro planned
    exact launched (by simp [stored, planned])
  · cases recorded : s.receipts.get (AttemptReference.key attempt) with
    | some old =>
        simp only [recorded, check_ok_iff, pure_ok_iff] at rest
        exact Or.inl ⟨rest.2.symm, rfl⟩
    | none =>
        simp only [recorded, bind_ok_iff, pure_ok_iff] at rest
        obtain ⟨next, dispatched, rfl⟩ := rest
        exact Or.inr ⟨rfl, next, dispatched, rfl⟩

theorem resolve_lifecycle_ok {lifecycle next : TaskLifecycle} {resolution : TaskResolution}
    (advanced : reduceTaskLifecycle lifecycle (.resolve resolution) = .ok next) :
    next = .resolved resolution ∧ ∀ old, lifecycle ≠ .resolved old := by
  cases lifecycle with
  | draft => cases resolution <;> simp_all [reduceTaskLifecycle]
  | active =>
      obtain rfl : TaskLifecycle.resolved resolution = next := by
        simpa [reduceTaskLifecycle] using advanced
      exact ⟨rfl, by simp⟩
  | resolved old => simp [reduceTaskLifecycle] at advanced

theorem resolved_ok [Engine] {r : TaskResolutionV1}
    (accepted : reduceTaskResolvedV2 s r = .ok after) :
    ∃ expected lifecycle, resolveTask (resolveInput s r) = .ok (some expected) ∧
      sameCanonicalJson expected.toJson r.toJson .taskResolutionMismatch = .ok () ∧
      s.lifecycles.get r.taskId = some lifecycle ∧ (∀ old, lifecycle ≠ .resolved old) ∧
      after = { s with
        lifecycles := s.lifecycles.set r.taskId (.resolved r.resolution)
        resolutions := assign s.resolutions r.taskId r } := by
  simp only [reduceTaskResolvedV2, bind_ok_iff, required_ok_iff, pure_ok_iff] at accepted
  obtain ⟨_, -, _, resolved, expected, rfl, _, same, lifecycle, stored, next, advanced, rfl⟩ :=
    accepted
  obtain ⟨rfl, unresolved⟩ := resolve_lifecycle_ok advanced
  exact ⟨expected, lifecycle, resolved, same, stored, unresolved, rfl⟩

end Attempts

section Plans

/-- The parts of the projection that storing or rejecting a plan leaves alone. -/
structure SamePlanFrame (s after : TaskExecutionProjectionV1) : Prop where
  contracts : after.contracts = s.contracts
  lifecycles : after.lifecycles = s.lifecycles
  edges : after.edges = s.edges
  prepared : after.prepared = s.prepared
  attempts : after.attempts = s.attempts
  aborted : after.aborted = s.aborted
  receipts : after.receipts = s.receipts
  resolutions : after.resolutions = s.resolutions
  adopted : after.adopted = s.adopted
  workflows : after.workflows = s.workflows

theorem SamePlanFrame.refl (s : TaskExecutionProjectionV1) : SamePlanFrame s s :=
  ⟨rfl, rfl, rfl, rfl, rfl, rfl, rfl, rfl, rfl, rfl⟩

theorem rejected_frame {taskId plannerTaskId reasonCode : JsString}
    (accepted : reduceTaskPlanRejectedV1 s taskId plannerTaskId reasonCode = .ok after) :
    SamePlanFrame s after := by
  simp only [reduceTaskPlanRejectedV1, bind_ok_iff] at accepted
  obtain ⟨_, -, _, -, _, -, _, -, rest⟩ := accepted
  split at rest
  · exact (pure_ok_iff _ _).mp rest ▸ SamePlanFrame.refl s
  · exact (pure_ok_iff _ _).mp rest ▸ ⟨rfl, rfl, rfl, rfl, rfl, rfl, rfl, rfl, rfl, rfl⟩

variable [Engine]

theorem store_plan_frame {plan : TaskPlanV1} (stored : storePlan s plan = .ok after) :
    SamePlanFrame s after := by
  unfold storePlan at stored
  split at stored
  · simp only [check_ok_iff, pure_ok_iff] at stored
    exact stored.2 ▸ SamePlanFrame.refl s
  · obtain rfl := (pure_ok_iff _ _).mp stored
    exact ⟨rfl, rfl, rfl, rfl, rfl, rfl, rfl, rfl, rfl, rfl⟩

theorem proposed_frame {plannerTaskId : JsString} {plan : TaskPlanV1}
    (accepted : reduceTaskPlanProposedV1 s plannerTaskId plan = .ok after) :
    SamePlanFrame s after := by
  simp only [reduceTaskPlanProposedV1, bind_ok_iff] at accepted
  obtain ⟨_, -, _, -, _, -, _, -, _, -, _, -, rest⟩ := accepted
  split at rest
  · exact (pure_ok_iff _ _).mp rest ▸ SamePlanFrame.refl s
  · obtain ⟨stored, kept, same⟩ := bind_ok_iff.mp rest
    obtain rfl := (pure_ok_iff _ _).mp same
    have frame := store_plan_frame kept
    exact ⟨frame.contracts, frame.lifecycles, frame.edges, frame.prepared, frame.attempts,
      frame.aborted, frame.receipts, frame.resolutions, frame.adopted, frame.workflows⟩

theorem revised_frame {basePlanDigest : JsString} {plan : TaskPlanV1}
    (accepted : reduceTaskPlanRevisedV1 s basePlanDigest plan = .ok after) :
    SamePlanFrame s after := by
  simp only [reduceTaskPlanRevisedV1, bind_ok_iff, pure_ok_iff] at accepted
  obtain ⟨_, -, _, -, stored, kept, rfl⟩ := accepted
  have frame := store_plan_frame kept
  exact ⟨frame.contracts, frame.lifecycles, frame.edges, frame.prepared, frame.attempts,
    frame.aborted, frame.receipts, frame.resolutions, frame.adopted, frame.workflows⟩

/-- An adoption is a repetition, or it adds the derived contracts and edges to a
projection in which the source is mutable. -/
theorem adopted_ok {taskId planDigest : JsString}
    (accepted : reduceTaskPlanAdoptedV1 s taskId planDigest = .ok after) :
    after = s ∨ ∃ p adoption grown, s.plans.get planDigest = some p ∧ p.sourceTaskId = taskId ∧
      planAdopted s taskId = false ∧ mutable s taskId true = .ok () ∧
      derivePlanAdoptionV1 p = .ok adoption ∧
      adoption.contracts.foldlM addContract s = .ok grown ∧
      assertAcyclic grown.contracts.keys (grown.edges ++ adoption.edges) = .ok () ∧
      after = { grown with
        edges := grown.edges ++ adoption.edges
        adopted := grown.adopted.set p.planDigest
          (adoption.contracts.map TaskContractV2.taskId) } := by
  simp only [reduceTaskPlanAdoptedV1, bind_ok_iff, required_ok_iff, ensure_ok_iff] at accepted
  obtain ⟨p, stored, _, sourced, rest⟩ := accepted
  split at rest
  · exact Or.inl ((pure_ok_iff _ _).mp rest).symm
  · simp only [bind_ok_iff, ensure_ok_iff, pure_ok_iff] at rest
    obtain ⟨_, unadopted, _, free, _, -, _, -, adoption, derived, grown, added, _, acyclic, rfl⟩ :=
      rest
    exact Or.inr ⟨p, adoption, grown, stored, sourced, unadopted, free, derived, added, acyclic, rfl⟩

end Plans

section Workflows

theorem stopped_ok {workflowId : JsString} {state : WorkflowEnd} {reasonCode : JsString}
    (accepted : reduceTaskWorkflowStoppedV1 s workflowId state reasonCode = .ok after) :
    ∃ w, s.workflows.get workflowId = some w ∧ w.state = .running ∧
      after = { s with
        workflows := s.workflows.set workflowId ⟨w.authorization, .ended state, some reasonCode⟩ } := by
  simp only [reduceTaskWorkflowStoppedV1, bind_ok_iff, required_ok_iff, ensure_ok_iff,
    pure_ok_iff] at accepted
  obtain ⟨w, stored, _, running, _, -, rfl⟩ := accepted
  exact ⟨w, stored, running, rfl⟩

variable [Engine]

theorem started_ok {a : TaskWorkflowAuthorizationV1}
    (accepted : reduceTaskWorkflowStartedV1 s a = .ok after) :
    present s.workflows a.workflowId = false ∧
      (∀ graphDigest, a.graphDigest = some graphDigest →
        closureGraphDigest s a.targetTaskId = .ok graphDigest) ∧
      after = { s with workflows := s.workflows.set a.workflowId ⟨a, .running, none⟩ } := by
  simp only [reduceTaskWorkflowStartedV1, bind_ok_iff, ensure_ok_iff, pure_ok_iff] at accepted
  obtain ⟨_, -, _, -, _, -, _, -, _, -, _, fresh, _, -, _, -, _, graph, rfl⟩ := accepted
  refine ⟨fresh, ?_, rfl⟩
  intro graphDigest frozen
  have checked := (forM_ok_iff _ _ ()).mp graph graphDigest (by simp [frozen])
  simp only [bind_ok_iff, ensure_ok_iff] at checked
  obtain ⟨_, computed, rfl⟩ := checked
  exact computed

theorem plan_bound_ok {workflowId planDigest graphDigest : JsString}
    (accepted : reduceTaskWorkflowPlanBoundV1 s workflowId planDigest graphDigest = .ok after) :
    ∃ w, s.workflows.get workflowId = some w ∧ w.state = .running ∧
      w.authorization.graphDigest = none ∧
      closureGraphDigest s w.authorization.targetTaskId = .ok graphDigest ∧
      after = { s with
        workflows := s.workflows.set workflowId
          { w with authorization :=
            { w.authorization with graphDigest := some graphDigest, planDigest := some planDigest } } } := by
  simp only [reduceTaskWorkflowPlanBoundV1, bind_ok_iff, required_ok_iff, ensure_ok_iff,
    pure_ok_iff] at accepted
  obtain ⟨w, stored, _, ⟨running, -, unbound, -, -⟩, _, computed, _, rfl, rfl⟩ := accepted
  exact ⟨w, stored, running, unbound, computed, rfl⟩

end Workflows

section Contracts

variable {grown : TaskExecutionProjectionV1}

def ContractsKept (s after : TaskExecutionProjectionV1) : Prop :=
  ∀ id contract, s.contracts.get id = some contract → after.contracts.get id = some contract

/-- What tasks, edges, plans and workflows leave alone: everything about attempts,
and the lifecycles of the tasks that were there. -/
structure AttemptFrame (s after : TaskExecutionProjectionV1) : Prop where
  contracts : ContractsKept s after
  prepared : after.prepared = s.prepared
  attempts : after.attempts = s.attempts
  aborted : after.aborted = s.aborted
  receipts : after.receipts = s.receipts
  resolutions : after.resolutions = s.resolutions
  lifecycles : ∀ id contract, s.contracts.get id = some contract →
    after.lifecycles.get id = s.lifecycles.get id
  placed : ∀ id lifecycle, after.lifecycles.get id = some lifecycle →
    s.lifecycles.get id = some lifecycle ∨ ∃ contract, after.contracts.get id = some contract

theorem AttemptFrame.of_same (contracts : after.contracts = s.contracts)
    (prepared : after.prepared = s.prepared) (attempts : after.attempts = s.attempts)
    (aborted : after.aborted = s.aborted) (receipts : after.receipts = s.receipts)
    (resolutions : after.resolutions = s.resolutions)
    (lifecycles : after.lifecycles = s.lifecycles) : AttemptFrame s after :=
  ⟨fun _ _ found => contracts ▸ found, prepared, attempts, aborted, receipts, resolutions,
    fun _ _ _ => by rw [lifecycles], fun _ _ found => Or.inl (lifecycles ▸ found)⟩

theorem AttemptFrame.trans {middle : TaskExecutionProjectionV1} (first : AttemptFrame s middle)
    (second : AttemptFrame middle after) : AttemptFrame s after where
  contracts id contract found := second.contracts id contract (first.contracts id contract found)
  prepared := second.prepared.trans first.prepared
  attempts := second.attempts.trans first.attempts
  aborted := second.aborted.trans first.aborted
  receipts := second.receipts.trans first.receipts
  resolutions := second.resolutions.trans first.resolutions
  lifecycles id contract found :=
    (second.lifecycles id contract (first.contracts id contract found)).trans
      (first.lifecycles id contract found)
  placed id lifecycle found := by
    rcases second.placed id lifecycle found with before | later
    · rcases first.placed id lifecycle before with start | ⟨contract, stored⟩
      · exact Or.inl start
      · exact Or.inr ⟨contract, second.contracts id contract stored⟩
    · exact Or.inr later

theorem add_contract_frame {contract : TaskContractV2} (added : addContract s contract = .ok grown) :
    AttemptFrame s grown := by
  obtain ⟨absent, rfl⟩ := (add_contract_ok_iff contract).mp added
  have different {id : JsString} {stored : TaskContractV2}
      (found : s.contracts.get id = some stored) : contract.taskId ≠ id := by
    rintro rfl
    exact Option.some_ne_none stored (found.symm.trans (absent_get absent))
  refine ⟨?_, rfl, rfl, rfl, rfl, rfl, ?_, ?_⟩
  · intro id stored found
    exact (s.contracts.get_set_other contract (different found)).trans found
  · intro id stored found
    exact s.lifecycles.get_set_other _ (different found)
  · intro id lifecycle found
    rw [Record.get_set] at found
    split at found
    · exact Or.inr ⟨contract, by rw [‹contract.taskId = id›, Record.get_set_same]⟩
    · exact Or.inl found

theorem add_contracts_frame (contracts : List TaskContractV2)
    (added : contracts.foldlM addContract s = .ok grown) : AttemptFrame s grown := by
  refine foldlM_invariant addContract (AttemptFrame s) contracts ?_ s grown
    (AttemptFrame.of_same rfl rfl rfl rfl rfl rfl rfl) added
  intro middle contract after _ frame added
  exact frame.trans (add_contract_frame added)

-- Adding contracts one after another: each was absent before the first.
theorem add_contracts_fresh (contracts : List TaskContractV2)
    (added : contracts.foldlM addContract s = .ok grown) :
    grown.edges = s.edges ∧ grown.workflows = s.workflows ∧
      ∀ contract ∈ contracts, s.contracts.get contract.taskId = none := by
  induction contracts generalizing s with
  | nil =>
      obtain rfl : s = grown := by simpa [pure, Except.pure] using added
      exact ⟨rfl, rfl, by simp⟩
  | cons contract rest ih =>
      obtain ⟨middle, first, later⟩ := (foldlM_cons_ok_iff _ contract rest s grown).mp added
      obtain ⟨edges, workflows, fresh⟩ := ih later
      have kept := (add_contract_frame first).contracts
      obtain ⟨absent, rfl⟩ := (add_contract_ok_iff contract).mp first
      refine ⟨edges, workflows, ?_⟩
      intro other member
      rcases List.mem_cons.mp member with same | inner
      · exact same ▸ absent_get absent
      · cases found : s.contracts.get other.taskId with
        | none => rfl
        | some stored => exact absurd (kept _ stored found) (by rw [fresh other inner]; simp)

theorem SamePlanFrame.attemptFrame (frame : SamePlanFrame s after) : AttemptFrame s after :=
  .of_same frame.contracts frame.prepared frame.attempts frame.aborted frame.receipts
    frame.resolutions frame.lifecycles

end Contracts

section Effects

variable [Engine]

/-- The four ways in which contracts, edges and workflows can change. -/
inductive GraphEffect (s after : TaskExecutionProjectionV1) : Prop where
  | unchanged (contracts : after.contracts = s.contracts) (edges : after.edges = s.edges)
      (workflows : after.workflows = s.workflows)
  | contract (contract : TaskContractV2) (added : addContract s contract = .ok after)
  | edge (edge : DependencyEdgeV1) (free : mutable s edge.dependentTaskId false = .ok ())
      (acyclic : assertAcyclic after.contracts.keys after.edges = .ok ())
      (contracts : after.contracts = s.contracts) (edges : after.edges = s.edges ++ [edge])
      (workflows : after.workflows = s.workflows)
  | adoption (plan : TaskPlanV1) (adoption : PlanAdoptionV1) (grown : TaskExecutionProjectionV1)
      (free : mutable s plan.sourceTaskId true = .ok ())
      (derived : derivePlanAdoptionV1 plan = .ok adoption)
      (added : adoption.contracts.foldlM addContract s = .ok grown)
      (acyclic : assertAcyclic after.contracts.keys after.edges = .ok ())
      (contracts : after.contracts = grown.contracts)
      (edges : after.edges = grown.edges ++ adoption.edges)
      (workflows : after.workflows = grown.workflows)
  | workflow (workflowId : JsString) (record : WorkflowRecord)
      (contracts : after.contracts = s.contracts) (edges : after.edges = s.edges)
      (workflows : after.workflows = s.workflows.set workflowId record)
      (sound : record.state = .running → ∀ graphDigest,
        record.authorization.graphDigest = some graphDigest →
          closureGraphDigest s record.authorization.targetTaskId = .ok graphDigest)
      (fresh : ∀ old, s.workflows.get workflowId = some old → record.state = .running →
        old.state = .running ∧ old.authorization.graphDigest = none)

theorem SamePlanFrame.graphEffect (frame : SamePlanFrame s after) : GraphEffect s after :=
  .unchanged frame.contracts frame.edges frame.workflows

theorem graph_effect {event : TaskExecutionEventV1} {sequence : Nat}
    (accepted : reduceTaskExecutionV1 s event sequence = .ok after) : GraphEffect s after := by
  obtain ⟨-, accepted⟩ := check_ok_iff.mp accepted
  cases payload : event.payload <;> rw [payload] at accepted
  case taskCreatedV2 contract => exact .contract contract accepted
  case taskActivatedV1 taskId =>
    obtain ⟨-, rfl⟩ := activated_ok accepted
    exact .unchanged rfl rfl rfl
  case dependencyAddedV1 edge =>
    obtain ⟨free, -, acyclic, rfl⟩ := dependency_added_ok accepted
    exact .edge edge free acyclic rfl rfl rfl
  case taskExecutionPreparedV1 prepared =>
    obtain ⟨-, -, -, -, -, -, _, _, -, rfl⟩ := prepared_ok accepted
    exact .unchanged rfl rfl rfl
  case taskExecutionTransitionV1 attempt input =>
    obtain ⟨_, _, _, -, -, -, -, -, rfl⟩ := transition_ok accepted
    exact .unchanged rfl rfl rfl
  case taskExecutionReceiptV1 attempt receipt =>
    obtain ⟨_, _, _, -, -, -, -, -, -, -, ⟨rfl, -⟩ | ⟨-, _, -, rfl⟩⟩ := receipt_ok accepted
    · exact .unchanged rfl rfl rfl
    · exact .unchanged rfl rfl rfl
  case taskExecutionAbortedV1 attempt reasonCode clock =>
    obtain ⟨_, _, -, -, -, -, rfl⟩ := aborted_ok accepted
    exact .unchanged rfl rfl rfl
  case taskResolvedV2 resolution clock =>
    obtain ⟨_, _, -, -, -, -, rfl⟩ := resolved_ok accepted
    exact .unchanged rfl rfl rfl
  case taskPlanProposedV1 plannerTaskId plan => exact (proposed_frame accepted).graphEffect
  case taskPlanRevisedV1 basePlanDigest plan => exact (revised_frame accepted).graphEffect
  case taskPlanRejectedV1 taskId plannerTaskId reasonCode =>
    exact (rejected_frame accepted).graphEffect
  case taskPlanAdoptedV1 taskId planDigest =>
    obtain rfl | ⟨plan, adoption, grown, -, rfl, -, free, derived, added, acyclic, rfl⟩ :=
      adopted_ok accepted
    · exact .unchanged rfl rfl rfl
    · exact .adoption plan adoption grown free derived added acyclic rfl rfl rfl
  case taskWorkflowStartedV1 authorization =>
    obtain ⟨fresh, graph, rfl⟩ := started_ok accepted
    refine .workflow authorization.workflowId _ rfl rfl rfl (fun _ => graph) ?_
    intro old stored
    exact absurd (stored.symm.trans (absent_get fresh)) (by simp)
  case taskWorkflowPlanBoundV1 workflowId planDigest graphDigest =>
    obtain ⟨w, stored, running, unbound, computed, rfl⟩ := plan_bound_ok accepted
    refine .workflow workflowId _ rfl rfl rfl ?_ ?_
    · rintro - found same
      exact Option.some.inj same ▸ computed
    · intro old again _
      exact Option.some.inj (stored.symm.trans again) ▸ ⟨running, unbound⟩
  case taskWorkflowStoppedV1 workflowId ended reasonCode =>
    obtain ⟨w, stored, -, rfl⟩ := stopped_ok accepted
    refine .workflow workflowId _ rfl rfl rfl ?_ ?_
    · intro running
      cases running
    · intro old _ running
      cases running

/-- An event changes tasks and plans, or it advances one task or one attempt. -/
inductive TaskEffect (event : TaskExecutionEventV1) (sequence : Nat)
    (s after : TaskExecutionProjectionV1) : Prop where
  | graph (frame : AttemptFrame s after)
  | activated (taskId : JsString) (accepted : reduceTaskActivatedV1 s taskId = .ok after)
  | prepared (p : TaskExecutionPreparedDataV1) (payload : event.payload = .taskExecutionPreparedV1 p)
      (accepted : reduceTaskExecutionPreparedV1 s p = .ok after)
  | transition (attempt : AttemptReference) (input : DispatchInputV1)
      (accepted : reduceTaskExecutionTransitionV1 s attempt input = .ok after)
  | received (attempt : AttemptReference) (r : AttemptReceiptEnvelopeV1)
      (payload : event.payload = .taskExecutionReceiptV1 attempt r)
      (accepted : reduceTaskExecutionReceiptV1 s event.workspaceId event.runId attempt r sequence =
        .ok after)
  | aborted (attempt : AttemptReference) (reasonCode : JsString)
      (accepted : reduceTaskExecutionAbortedV1 s attempt reasonCode sequence = .ok after)
  | resolved (r : TaskResolutionV1) (accepted : reduceTaskResolvedV2 s r = .ok after)

theorem task_effect {event : TaskExecutionEventV1} {sequence : Nat}
    (accepted : reduceTaskExecutionV1 s event sequence = .ok after) :
    parseTaskExecutionEventV1 event = .ok () ∧ TaskEffect event sequence s after := by
  obtain ⟨parsed, accepted⟩ := check_ok_iff.mp accepted
  refine ⟨parsed, ?_⟩
  cases payload : event.payload <;> rw [payload] at accepted
  case taskCreatedV2 contract => exact .graph (add_contract_frame accepted)
  case taskActivatedV1 taskId => exact .activated taskId accepted
  case dependencyAddedV1 edge =>
    obtain ⟨-, -, -, rfl⟩ := dependency_added_ok accepted
    exact .graph (.of_same rfl rfl rfl rfl rfl rfl rfl)
  case taskExecutionPreparedV1 prepared => exact .prepared prepared payload accepted
  case taskExecutionTransitionV1 attempt input => exact .transition attempt input accepted
  case taskExecutionReceiptV1 attempt receipt => exact .received attempt receipt payload accepted
  case taskExecutionAbortedV1 attempt reasonCode clock => exact .aborted attempt reasonCode accepted
  case taskResolvedV2 resolution clock => exact .resolved resolution accepted
  case taskPlanProposedV1 plannerTaskId plan => exact .graph (proposed_frame accepted).attemptFrame
  case taskPlanRevisedV1 basePlanDigest plan => exact .graph (revised_frame accepted).attemptFrame
  case taskPlanRejectedV1 taskId plannerTaskId reasonCode =>
    exact .graph (rejected_frame accepted).attemptFrame
  case taskPlanAdoptedV1 taskId planDigest =>
    obtain rfl | ⟨plan, adoption, grown, -, -, -, -, -, added, -, rfl⟩ := adopted_ok accepted
    · exact .graph (.of_same rfl rfl rfl rfl rfl rfl rfl)
    · have frame := add_contracts_frame adoption.contracts added
      exact .graph ⟨frame.contracts, frame.prepared, frame.attempts, frame.aborted, frame.receipts,
        frame.resolutions, frame.lifecycles, frame.placed⟩
  case taskWorkflowStartedV1 authorization =>
    obtain ⟨-, -, rfl⟩ := started_ok accepted
    exact .graph (.of_same rfl rfl rfl rfl rfl rfl rfl)
  case taskWorkflowPlanBoundV1 workflowId planDigest graphDigest =>
    obtain ⟨_, -, -, -, -, rfl⟩ := plan_bound_ok accepted
    exact .graph (.of_same rfl rfl rfl rfl rfl rfl rfl)
  case taskWorkflowStoppedV1 workflowId ended reasonCode =>
    obtain ⟨_, -, -, rfl⟩ := stopped_ok accepted
    exact .graph (.of_same rfl rfl rfl rfl rfl rfl rfl)

end Effects

end Horseness.ExecutionSteps
