import Horseness.PinnedPolicies
import Horseness.PlanEffects
import Horseness.ServiceSteps

/-!
Clients repeat what they asked for. An adoption, a revision or a cancellation that was answered is
answered the same again, whatever happened to the store in between, and appends nothing; its
operation id serves no other request.
-/

namespace Horseness.ClientRetries

open FallibleRuns Records ScriptText JsonValues ScriptEngine Canonical Cursors Tasks TaskPlans
  ExecutionEvents Execution ExecutionSteps EventPayloads EventChains Replay ReplaySteps TaskViews Turns
  ExecutionStore ServiceViews ServiceCommands ServiceWorkflows ServiceRequests ServiceSteps

section Histories

variable [Engine]

/-- What can happen to the store: appends to runs, recorded answers, new runs, and whatever
is beside the runs and the commands. -/
inductive StoreStep : Store → Store → Prop
  | appended {store after : Store} (current : AuthorityStateExpectationV1 → Bool) (runId : JsString)
      (request : AppendRequest) (events : List HashedEventEnvelopeV1)
      (written : appendAtomic store current runId request events = .ok (some after)) :
      StoreStep store after
  | recorded {store after : Store} (current : AuthorityStateExpectationV1 → Bool)
      (runId commandId requestDigest : JsString)
      (observed : Option (CompositeCursorV1 × AuthorityStateExpectationV1)) (result : CommandResult)
      (written : recordCommandResult store current runId commandId requestDigest observed result =
        .ok (some after)) : StoreStep store after
  | created {ledger after : Ledger} (cursor : AbsentRunGenesisCursorV1) (initialDocument : JsValue)
      (principalId commandId : JsString)
      (answered : outcome (runCreate cursor initialDocument principalId commandId) ledger =
        (.ok (), after)) : StoreStep ledger.store after.store
  | beside (store : Store) (workspace : WorkspaceHead) (consumed : List AuthorityConsumption)
      (issuances : Record JsString JsString) : StoreStep store { store with
        workspace := workspace, consumed := consumed, issuances := issuances }

def Later : Store → Store → Prop := Relation.ReflTransGen StoreStep

/-- Streams only grow, and what is recorded of a command stays. -/
structure Extends (store after : Store) : Prop where
  workspaceId : after.workspaceId = store.workspaceId
  runs : ∀ runId stream, store.runs.get runId = some stream →
    ∃ longer added, after.runs.get runId = some longer ∧ longer.events = stream.events ++ added
  commands : ∀ runId commandId record, store.command runId commandId = some record →
    after.command runId commandId = some record

theorem extends_refl (store : Store) : Extends store store where
  workspaceId := rfl
  runs _ stream found := ⟨stream, [], found, (List.append_nil _).symm⟩
  commands _ _ _ found := found

theorem Extends.trans {first second third : Store} (one : Extends first second)
    (two : Extends second third) : Extends first third where
  workspaceId := two.workspaceId.trans one.workspaceId
  runs runId stream found := by
    obtain ⟨middle, added, there, grown⟩ := one.runs runId stream found
    obtain ⟨longer, more, last, further⟩ := two.runs runId middle there
    exact ⟨longer, added ++ more, last, by rw [further, grown, List.append_assoc]⟩
  commands runId commandId record found :=
    two.commands runId commandId record (one.commands runId commandId record found)

theorem command_appended {store : Store} {record : CommandRecord} {runId commandId : JsString}
    {commands : List CommandRecord} (found : store.command runId commandId = some record)
    (grown : ∃ added, commands = store.commands ++ added) :
    commands.find? (fun record => record.runId = runId ∧ record.commandId = commandId) =
      some record := by
  obtain ⟨added, rfl⟩ := grown
  rw [List.find?_append, show store.commands.find? _ = some record from found]
  rfl

theorem run_written {store : Store} {stream longer : RunStream} {runId : JsString}
    {added : List HashedEventEnvelopeV1} (found : store.runs.get runId = some stream)
    (grown : longer.events = stream.events ++ added) (other : JsString) (old : RunStream)
    (there : store.runs.get other = some old) :
    ∃ next more, (store.runs.set runId longer).get other = some next ∧
      next.events = old.events ++ more := by
  by_cases same : runId = other
  · subst same
    obtain rfl := Option.some.inj (found.symm.trans there)
    exact ⟨longer, added, Record.get_set_same _ _ _, grown⟩
  · exact ⟨old, [], by rw [Record.get_set_other _ _ same, there], (List.append_nil _).symm⟩

theorem append_extends {store after : Store} {current : AuthorityStateExpectationV1 → Bool}
    {runId : JsString} {request : AppendRequest} {events : List HashedEventEnvelopeV1}
    (written : appendAtomic store current runId request events = .ok (some after)) :
    Extends store after := by
  simp only [appendAtomic] at written
  split at written
  · simp only [bind_ok_iff, ensure_ok_iff, pure_ok_iff] at written
    obtain ⟨_, _, impossible⟩ := written
    cases impossible
  · simp only [writeAppend, bind_ok_iff, required_ok_iff, ensure_ok_iff, map_error_ok_iff,
      extend_ok_iff, pure_ok_iff] at written
    obtain ⟨_, _, longer, ⟨stream, found, _, _, _, _, grown⟩, same⟩ := written
    obtain rfl := Option.some.inj same
    exact ⟨rfl, run_written found grown, fun _ _ _ there => command_appended there ⟨_, rfl⟩⟩

theorem record_extends {store after : Store} {current : AuthorityStateExpectationV1 → Bool}
    {runId commandId requestDigest : JsString}
    {observed : Option (CompositeCursorV1 × AuthorityStateExpectationV1)} {result : CommandResult}
    (written : recordCommandResult store current runId commandId requestDigest observed result =
      .ok (some after)) : Extends store after := by
  simp only [recordCommandResult, bind_ok_iff] at written
  obtain ⟨previous, _, written⟩ := written
  split at written
  · rw [pure_ok_iff] at written
    cases written
  · simp only [bind_ok_iff, pure_ok_iff] at written
    obtain ⟨_, _, same⟩ := written
    obtain rfl := Option.some.inj same
    exact ⟨rfl, fun _ stream found => ⟨stream, [], found, (List.append_nil _).symm⟩,
      fun _ _ _ there => command_appended there ⟨_, rfl⟩⟩

theorem create_extends {ledger after : Ledger} {cursor : AbsentRunGenesisCursorV1}
    {initialDocument : JsValue} {principalId commandId : JsString}
    (answered : outcome (runCreate cursor initialDocument principalId commandId) ledger =
      (.ok (), after)) : Extends ledger.store after.store := by
  simp only [runCreate, bind_answers_iff, ask_answers_iff, stored_answers_iff] at answered
  obtain ⟨event, _, ⟨_, rfl⟩, store, _, ⟨rfl, rfl⟩, answered⟩ := answered
  split at answered
  · obtain ⟨-, rfl⟩ := check_answers_iff.mp answered
    exact extends_refl _
  · simp only [bind_answers_iff, ask_answers_iff, check_answers_iff, ensure_ok_iff, commit_answers_iff]
      at answered
    obtain ⟨_, _, ⟨_, rfl⟩, _, _, ⟨unknown, rfl⟩, _, _, ⟨_, rfl⟩, stream, _, ⟨_, rfl⟩, rfl⟩ := answered
    refine ⟨rfl, ?_, fun _ _ _ there => command_appended there ⟨_, rfl⟩⟩
    intro other old there
    have apart : cursor.runId ≠ other := by
      rintro rfl
      exact unknown (Or.inl (by rw [there]; rfl))
    exact ⟨old, [], by rw [Record.get_set_other _ _ apart, there], (List.append_nil _).symm⟩

theorem step_extends {store after : Store} (step : StoreStep store after) : Extends store after := by
  cases step with
  | appended current runId request events written => exact append_extends written
  | recorded current runId commandId requestDigest observed result written =>
      exact record_extends written
  | created cursor initialDocument principalId commandId answered => exact create_extends answered
  | beside workspace consumed issuances =>
      exact ⟨rfl, fun _ stream found => ⟨stream, [], found, (List.append_nil _).symm⟩,
        fun _ _ _ there => there⟩

theorem later_extends {store after : Store} (later : Later store after) : Extends store after := by
  induction later with
  | refl => exact extends_refl store
  | tail _ step ih => exact ih.trans (step_extends step)

end Histories

section Plans

variable [Engine]

/-- Plans stay as they were stored, and adoptions as they were made. -/
structure PlansKept (s after : TaskExecutionProjectionV1) : Prop where
  plans : ∀ digest plan, s.plans.get digest = some plan → after.plans.get digest = some plan
  adopted : ∀ digest taskIds, s.adopted.get digest = some taskIds →
    after.adopted.get digest = some taskIds

omit [Engine] in
theorem plans_same {s after : TaskExecutionProjectionV1} (plans : after.plans = s.plans)
    (adopted : after.adopted = s.adopted) : PlansKept s after :=
  ⟨fun _ _ found => plans ▸ found, fun _ _ found => adopted ▸ found⟩

omit [Engine] in
theorem PlansKept.trans {first second third : TaskExecutionProjectionV1} (one : PlansKept first second)
    (two : PlansKept second third) : PlansKept first third :=
  ⟨fun digest plan found => two.plans digest plan (one.plans digest plan found),
    fun digest taskIds found => two.adopted digest taskIds (one.adopted digest taskIds found)⟩

theorem store_plan_kept {s after : TaskExecutionProjectionV1} {plan : TaskPlanV1}
    (stored : storePlan s plan = .ok after) : PlansKept s after := by
  have frame := store_plan_frame stored
  refine ⟨?_, fun _ _ found => frame.adopted ▸ found⟩
  unfold storePlan at stored
  split at stored
  · rw [check_ok_iff, pure_ok_iff] at stored
    exact stored.2 ▸ fun _ _ found => found
  · next absent =>
      obtain rfl := (pure_ok_iff _ _).mp stored
      intro digest old found
      have apart : plan.planDigest ≠ digest := by
        rintro rfl
        rw [absent] at found
        cases found
      exact (Record.get_set_other _ _ apart).trans found

theorem proposed_kept {s after : TaskExecutionProjectionV1} {plannerTaskId : JsString}
    {plan : TaskPlanV1} (accepted : reduceTaskPlanProposedV1 s plannerTaskId plan = .ok after) :
    PlansKept s after := by
  simp only [reduceTaskPlanProposedV1, bind_ok_iff] at accepted
  obtain ⟨_, -, _, -, _, -, _, -, _, -, _, -, rest⟩ := accepted
  split at rest
  · exact (pure_ok_iff _ _).mp rest ▸ plans_same rfl rfl
  · obtain ⟨stored, kept, same⟩ := bind_ok_iff.mp rest
    obtain rfl := (pure_ok_iff _ _).mp same
    exact ⟨(store_plan_kept kept).plans, (store_plan_kept kept).adopted⟩

theorem revised_kept {s after : TaskExecutionProjectionV1} {basePlanDigest : JsString}
    {plan : TaskPlanV1} (accepted : reduceTaskPlanRevisedV1 s basePlanDigest plan = .ok after) :
    PlansKept s after := by
  simp only [reduceTaskPlanRevisedV1, bind_ok_iff, pure_ok_iff] at accepted
  obtain ⟨_, -, _, -, stored, kept, rfl⟩ := accepted
  exact ⟨(store_plan_kept kept).plans, (store_plan_kept kept).adopted⟩

omit [Engine] in
theorem rejected_kept {s after : TaskExecutionProjectionV1} {taskId plannerTaskId reasonCode : JsString}
    (accepted : reduceTaskPlanRejectedV1 s taskId plannerTaskId reasonCode = .ok after) :
    PlansKept s after := by
  simp only [reduceTaskPlanRejectedV1, bind_ok_iff] at accepted
  obtain ⟨_, -, _, -, _, -, _, -, rest⟩ := accepted
  split at rest
  · exact (pure_ok_iff _ _).mp rest ▸ plans_same rfl rfl
  · exact (pure_ok_iff _ _).mp rest ▸ plans_same rfl rfl

-- A first adoption of a plan's source finds no adoption of the plan.
theorem adopted_kept {s after : TaskExecutionProjectionV1} {taskId planDigest : JsString}
    (accepted : reduceTaskPlanAdoptedV1 s taskId planDigest = .ok after) : PlansKept s after := by
  obtain rfl | ⟨plan, adoption, grown, stored, sourced, unadopted, -, -, added, -, rfl⟩ :=
    adopted_ok accepted
  · exact plans_same rfl rfl
  · obtain ⟨plans, adopted⟩ := PlanEffects.add_contracts_plans _ added
    refine ⟨fun _ _ found => plans ▸ found, ?_⟩
    intro digest taskIds found
    have apart : plan.planDigest ≠ digest := by
      rintro rfl
      have member : plan ∈ s.plans.values := (s.plans.mem_values_iff plan).mpr ⟨planDigest, stored⟩
      have already : planAdopted s taskId = true := by
        rw [planAdopted, List.any_eq_true]
        exact ⟨plan, member, by simp [sourced, found]⟩
      rw [already] at unadopted
      cases unadopted
    exact (Record.get_set_other _ _ apart).trans (adopted ▸ found)

theorem plans_step {s projected : TaskExecutionProjectionV1} {event : TaskExecutionEventV1}
    {sequence : Nat} (accepted : reduceTaskExecutionV1 s event sequence = .ok projected) :
    PlansKept s projected := by
  obtain ⟨-, accepted⟩ := check_ok_iff.mp accepted
  cases payload : event.payload <;> rw [payload] at accepted
  case taskPlanProposedV1 plannerTaskId plan => exact proposed_kept accepted
  case taskPlanRevisedV1 basePlanDigest plan => exact revised_kept accepted
  case taskPlanRejectedV1 taskId plannerTaskId reasonCode => exact rejected_kept accepted
  case taskPlanAdoptedV1 taskId planDigest => exact adopted_kept accepted
  case taskWorkflowStartedV1 authorization =>
    obtain ⟨-, -, rfl⟩ := started_ok accepted
    exact plans_same rfl rfl
  case taskWorkflowPlanBoundV1 boundId planDigest graphDigest =>
    obtain ⟨_, -, -, -, -, rfl⟩ := plan_bound_ok accepted
    exact plans_same rfl rfl
  case taskWorkflowStoppedV1 stoppedId ended reasonCode =>
    obtain ⟨_, -, -, rfl⟩ := stopped_ok accepted
    exact plans_same rfl rfl
  case taskCreatedV2 contract =>
    obtain ⟨-, rfl⟩ := (add_contract_ok_iff contract).mp accepted
    exact plans_same rfl rfl
  case taskActivatedV1 taskId =>
    obtain ⟨-, rfl⟩ := activated_ok accepted
    exact plans_same rfl rfl
  case dependencyAddedV1 edge =>
    obtain ⟨-, -, -, rfl⟩ := dependency_added_ok accepted
    exact plans_same rfl rfl
  case taskExecutionPreparedV1 prepared =>
    obtain ⟨-, -, -, -, -, -, _, _, -, rfl⟩ := prepared_ok accepted
    exact plans_same rfl rfl
  case taskExecutionTransitionV1 attempt input =>
    obtain ⟨_, _, _, -, -, -, -, -, rfl⟩ := transition_ok accepted
    exact plans_same rfl rfl
  case taskExecutionReceiptV1 attempt receipt =>
    obtain ⟨_, _, _, -, -, -, -, -, -, -, ⟨rfl, -⟩ | ⟨-, _, -, rfl⟩⟩ := receipt_ok accepted
    · exact plans_same rfl rfl
    · exact plans_same rfl rfl
  case taskExecutionAbortedV1 attempt reasonCode clock =>
    obtain ⟨_, _, -, -, -, -, rfl⟩ := aborted_ok accepted
    exact plans_same rfl rfl
  case taskResolvedV2 resolution clock =>
    obtain ⟨_, _, -, -, -, -, rfl⟩ := resolved_ok accepted
    exact plans_same rfl rfl

theorem plans_reduced {state after : RunOperationalState} {event : RunOperationalEvent}
    (reduced : reduceOperationalState (some state) event = .ok after) :
    PlansKept state.execution after.execution := by
  have operation := task_operation reduced
  obtain ⟨_, stepped⟩ := operational_step reduced
  generalize shape : event.payload = payload at operation
  cases operation with
  | untouched _ _ execution _ _ => exact plans_same (by rw [execution]) (by rw [execution])
  | execution payload accepted _ _ => exact plans_step accepted
  | created taskId title =>
      simp only [reduceOperationalPayload, shape, bind_ok_iff, pure_ok_iff] at stepped
      obtain ⟨_, _, rfl⟩ := stepped
      exact plans_same rfl rfl
  | resolved taskId resolution =>
      simp only [reduceOperationalPayload, shape, bind_ok_iff, pure_ok_iff] at stepped
      obtain ⟨_, _, rfl⟩ := stepped
      exact plans_same rfl rfl

theorem stream_filled (stream : RunStream) : stream.events ≠ [] := by
  intro empty
  obtain ⟨_, ⟨first, head, _⟩, _⟩ := replay_ok_iff.mp stream.replayed
  rw [empty] at head
  cases head

-- The run lemma: what every event keeps, every longer stream keeps.
theorem plans_extended {stream longer : RunStream} {added : List HashedEventEnvelopeV1}
    (grown : longer.events = stream.events ++ added) :
    PlansKept stream.replay.operational.execution longer.replay.operational.execution := by
  have replayed := longer.replayed
  rw [grown] at replayed
  generalize longer.replay = result at replayed ⊢
  clear grown
  induction added using List.reverseRecOn generalizing result with
  | nil =>
      rw [List.append_nil] at replayed
      obtain rfl := Except.ok.inj (stream.replayed.symm.trans replayed)
      exact plans_same rfl rfl
  | append_singleton added item ih =>
      rw [← List.append_assoc] at replayed
      have filled : stream.events ++ added ≠ [] :=
        fun empty => stream_filled stream (List.append_eq_nil_iff.mp empty).1
      obtain ⟨before, earlier, ⟨_, _, reduced⟩, _⟩ := replay_front filled replayed
      exact (ih before earlier).trans (plans_reduced reduced)

end Plans

section Serving

variable [Engine]

inductive ClientMutation where
  | adopt (planDigest : JsString)
  | revise (basePlanDigest : JsString) (tasks : List TaskPlanItemV1)
  | cancel

def ClientMutation.method : ClientMutation → ProtocolMethodV1
  | .adopt _ => .taskAdoptPlan
  | .revise _ _ => .taskRevisePlan
  | .cancel => .taskCancel

/-- What a client is answered. -/
inductive MutationAnswer where
  | adopted (outcome : AdoptionOutcome)
  | revised (outcome : RevisionOutcome)
  | cancelled (cursor : CompositeCursorV1)
  deriving DecidableEq

variable (w : Surroundings)

def serve (mutation : ClientMutation) (input : Mutation) : Section MutationAnswer :=
  match mutation with
  | .adopt planDigest => do
      let answered ← adopt w input planDigest
      return .adopted answered
  | .revise basePlanDigest tasks => do
      let answered ← revisePlan w input basePlanDigest tasks
      return .revised answered
  | .cancel => do
      let answered ← cancelTask w input
      return .cancelled answered.1

/-- The answer that a projection and a cursor give to a request that was served. -/
def Answers (projection : TaskExecutionProjectionV1) (mutation : ClientMutation) (input : Mutation)
    (cursor : CompositeCursorV1) (answer : MutationAnswer) : Prop :=
  match mutation with
  | .adopt planDigest => ∃ plan taskIds, projection.plans.get planDigest = some plan ∧
      plan.sourceTaskId = input.taskId ∧ projection.adopted.get planDigest = some taskIds ∧
      answer = .adopted ⟨input.operationId, input.taskId, taskIds, planDigest, cursor⟩
  | .revise basePlanDigest tasks => ∃ base plan, projection.plans.get basePlanDigest = some base ∧
      base.sourceTaskId = input.taskId ∧ parseTaskPlanOutputV1 tasks = .ok () ∧
      boundedOutput tasks = .ok () ∧
      sealTaskPlanV1 input.taskId base.sourceContractDigest tasks = .ok plan ∧
      answer = .revised ⟨input.operationId, input.taskId, basePlanDigest, plan.planDigest, cursor⟩
  | .cancel => answer = .cancelled cursor

theorem answers_kept {s projection : TaskExecutionProjectionV1} {mutation : ClientMutation}
    {input : Mutation} {cursor : CompositeCursorV1} {answer : MutationAnswer}
    (answered : Answers s mutation input cursor answer) (kept : PlansKept s projection) :
    Answers projection mutation input cursor answer := by
  cases mutation with
  | adopt planDigest =>
      obtain ⟨plan, taskIds, stored, sourced, adopted, same⟩ := answered
      exact ⟨plan, taskIds, kept.plans _ _ stored, sourced, kept.adopted _ _ adopted, same⟩
  | revise basePlanDigest tasks =>
      obtain ⟨base, plan, stored, rest⟩ := answered
      exact ⟨base, plan, kept.plans _ _ stored, rest⟩
  | cancel => exact answered

/-- What an answered request leaves in the store, and what the answer has from it. -/
structure Served (store : Store) (mutation : ClientMutation) (input : Mutation)
    (answer : MutationAnswer) (stream : RunStream) (head : RunHead) : Prop where
  run : store.runs.get input.runId = some stream
  recorded : committedAppendResult store input.runId input.operationId =
    some (.append (some input.requestDigest) (some head))
  answered : Answers stream.replay.operational.execution mutation input
    (cursorAt input.observationCursor head) answer

variable {w} {mutation : ClientMutation} {input : Mutation} {answer : MutationAnswer}
  {store after : Store} {stream : RunStream} {head : RunHead}

theorem served_kept (served : Served store mutation input answer stream head)
    (later : Later store after) : ∃ longer, Served after mutation input answer longer head := by
  have extended := later_extends later
  obtain ⟨longer, added, there, grown⟩ := extended.runs _ _ served.run
  have kept := plans_extended grown
  refine ⟨longer, there, ?_, answers_kept served.answered kept⟩
  obtain ⟨record, found, result⟩ := Option.map_eq_some_iff.mp served.recorded
  rw [committedAppendResult, extended.commands _ _ record found, Option.map_some, result]

end Serving

section Repeating

variable [Engine]

variable {w : Surroundings} {mutation : ClientMutation} {input : Mutation} {answer : MutationAnswer}
  {store : Store} {stream : RunStream} {head : RunHead} {emitted : List Emission}

theorem view_exists (found : store.runs.get input.runId = some stream) :
    ∃ view : ExecutionView, viewOf store input.runId = .ok view ∧
      view.cursor.workspaceId = store.workspaceId ∧
      view.state = stream.replay.operational.execution := by
  obtain ⟨front, last, shape⟩ := List.eq_nil_or_concat stream.events |>.resolve_left
    (stream_filled stream)
  have headed : stream.head = some (headOf last) := by
    rw [RunStream.head, shape, List.concat_eq_append, List.getLast?_concat]
    rfl
  simp only [viewOf, found, required, ok_bind, headed]
  exact ⟨_, rfl, rfl, rfl⟩

theorem recovered_answers (recorded : committedAppendResult store input.runId input.operationId =
      some (.append (some input.requestDigest) (some head))) :
    outcome (recoveredMutationCursor input) ⟨store, emitted⟩ =
      (.ok (some (cursorAt input.observationCursor head)), ⟨store, emitted⟩) := by
  rw [recoveredMutationCursor, bind_answers_iff]
  refine ⟨store, _, stored_answers_iff.mpr ⟨rfl, rfl⟩, ?_⟩
  rw [recorded]
  dsimp only
  rw [bind_answers_iff]
  exact ⟨(), _, ask_answers_iff.mpr ⟨by simp, rfl⟩, rfl⟩

theorem served_answers (served : Served store mutation input answer stream head)
    (authorized : ∃ observed, authorize w store.workspaceId input.actor input.runId input.taskId
      mutation.method none = .ok observed) :
    outcome (serve w mutation input) ⟨store, emitted⟩ = (.ok answer, ⟨store, emitted⟩) := by
  obtain ⟨observed, allowed⟩ := authorized
  obtain ⟨view, seen, workspaceId, state⟩ := view_exists served.run
  have viewedHere : outcome (viewed input.runId) ⟨store, emitted⟩ = (.ok view, ⟨store, emitted⟩) :=
    viewed_answers_iff.mpr ⟨seen, rfl⟩
  have recovered : outcome (recoveredMutationCursor input) ⟨store, emitted⟩ = _ :=
    recovered_answers served.recorded
  have passed {Result : Type} {checked : Except DomainError Result} {result : Result}
      (holds : checked = .ok result) :
      outcome (ask checked) (⟨store, emitted⟩ : Ledger) = (.ok result, ⟨store, emitted⟩) :=
    ask_answers_iff.mpr ⟨holds, rfl⟩
  have answered := served.answered
  rw [← workspaceId] at allowed
  cases mutation with
  | adopt planDigest =>
      obtain ⟨plan, taskIds, stored, sourced, adopted, rfl⟩ := answered
      rw [ClientMutation.method] at allowed
      rw [← state] at stored adopted
      have again : outcome (adopt w input planDigest) ⟨store, emitted⟩ = (.ok ⟨input.operationId,
          input.taskId, taskIds, planDigest, cursorAt input.observationCursor head⟩,
          ⟨store, emitted⟩) := by
        rw [adopt, outcome_answered viewedHere, outcome_answered (passed allowed),
          outcome_answered recovered, outcome_answered (passed (by rw [stored]; rfl)),
          outcome_answered (passed ((ensure_ok_iff _ _ ()).mpr sourced))]
        dsimp only
        rw [outcome_answered (passed (by rw [adopted]; rfl))]
        rfl
      exact (outcome_answered again _).trans rfl
  | revise basePlanDigest tasks =>
      obtain ⟨base, plan, stored, sourced, parsed, bounded, sealed, rfl⟩ := answered
      rw [ClientMutation.method] at allowed
      rw [← state] at stored
      have again : outcome (revisePlan w input basePlanDigest tasks) ⟨store, emitted⟩ =
          (.ok ⟨input.operationId, input.taskId, basePlanDigest, plan.planDigest,
            cursorAt input.observationCursor head⟩, ⟨store, emitted⟩) := by
        rw [revisePlan, outcome_answered viewedHere, outcome_answered (passed allowed),
          outcome_answered (passed (by rw [stored]; rfl)),
          outcome_answered (passed ((ensure_ok_iff _ _ ()).mpr sourced)),
          outcome_answered (passed parsed), outcome_answered (passed bounded),
          outcome_answered (passed sealed), outcome_answered recovered]
        rfl
      exact (outcome_answered again _).trans rfl
  | cancel =>
      obtain rfl : answer = .cancelled (cursorAt input.observationCursor head) := answered
      rw [ClientMutation.method] at allowed
      have again : outcome (cancelTask w input) ⟨store, emitted⟩ =
          (.ok (cursorAt input.observationCursor head, none), ⟨store, emitted⟩) := by
        rw [cancelTask, outcome_answered viewedHere, outcome_answered (passed allowed),
          outcome_answered recovered]
        rfl
      exact (outcome_answered again _).trans rfl

end Repeating

section Refusing

variable [Engine]

variable {w : Surroundings} {input : Mutation} {store : Store} {ledger : Ledger}

def Refused {Result : Type} (turn : Section Result) (ledger : Ledger) : Prop :=
  ∃ failure, outcome turn ledger = (.error failure, ledger)

theorem refused_bind {Result Other : Type} {first : Section Result} {next : Result → Section Other}
    (still : (outcome first ledger).2 = ledger)
    (later : ∀ result, (outcome first ledger).1 = .ok result → Refused (next result) ledger) :
    Refused (first >>= next) ledger := by
  unfold Refused
  rw [outcome_bind]
  cases shape : outcome first ledger with
  | mk answer middle =>
      obtain rfl : middle = ledger := by simpa [shape] using still
      cases answer with
      | ok result => exact later result (by rw [shape])
      | error failure => exact ⟨failure, rfl⟩

theorem refused_first {Result Other : Type} {first : Section Result}
    {next : Result → Section Other} (refused : Refused first ledger) :
    Refused (first >>= next) ledger := by
  obtain ⟨failure, shape⟩ := refused
  exact ⟨failure, by rw [outcome_bind, shape]⟩

theorem refused_ask {Result Other : Type} {checked : Except DomainError Result}
    {next : Result → Section Other}
    (later : ∀ result, checked = .ok result → Refused (next result) ledger) :
    Refused (ask checked >>= next) ledger := by
  refine refused_bind rfl ?_
  intro result answered
  apply later
  cases checked with
  | ok value => exact congrArg Except.ok (Except.ok.inj answered)
  | error code => cases answered

theorem refused_viewed {Other : Type} {runId : JsString} {next : ExecutionView → Section Other}
    (later : ∀ view, Refused (next view) ledger) : Refused (viewed runId >>= next) ledger := by
  refine refused_bind ?_ fun view _ => later view
  rw [viewed, outcome_answered (stored_answers_iff.mpr ⟨rfl, rfl⟩)]
  rfl

-- An operation id that is recorded for another request serves no request.
theorem reused_refused {mutation : ClientMutation} {digest : JsString} {head : RunHead}
    (recorded : committedAppendResult ledger.store input.runId input.operationId =
      some (.append (some digest) (some head))) (other : digest ≠ input.requestDigest) :
    Refused (serve w mutation input) ledger := by
  have refused {Other : Type} (next : Option CompositeCursorV1 → Section Other) :
      Refused (recoveredMutationCursor input >>= next) ledger := by
    refine ⟨.domain .operationIdReused, ?_⟩
    rw [recoveredMutationCursor, bind_assoc, outcome_answered (stored_answers_iff.mpr ⟨rfl, rfl⟩),
      recorded]
    simp [ask, outcome_bind, ensure, other]
    rfl
  cases mutation with
  | adopt planDigest =>
      apply refused_first
      rw [adopt]
      apply refused_viewed
      intro view
      apply refused_ask
      intro observed _
      exact refused _
  | revise basePlanDigest tasks =>
      apply refused_first
      rw [revisePlan]
      apply refused_viewed
      intro view
      -- the plan is read and sealed before the operation is looked up
      iterate 6
        apply refused_ask
        intro _ _
      exact refused _
  | cancel =>
      apply refused_first
      rw [cancelTask]
      apply refused_viewed
      intro view
      apply refused_ask
      intro observed _
      exact refused _

end Refusing

section Accepting

variable [Engine]

variable {w : Surroundings} {input : Mutation} {ledger after : Ledger} {view : ExecutionView}
  {cursor : CompositeCursorV1} {expectation : AuthorityStateExpectationV1}

theorem recovered_ok {found : Option CompositeCursorV1}
    (answered : outcome (recoveredMutationCursor input) ledger = (.ok found, after)) :
    after = ledger ∧ ((found = none ∧ ledger.store.command input.runId input.operationId = none) ∨
      ∃ head, found = some (cursorAt input.observationCursor head) ∧
        committedAppendResult ledger.store input.runId input.operationId =
          some (.append (some input.requestDigest) (some head))) := by
  simp only [recoveredMutationCursor, bind_answers_iff, stored_answers_iff] at answered
  obtain ⟨store, _, ⟨rfl, rfl⟩, answered⟩ := answered
  split at answered
  · next absent =>
      obtain ⟨rfl, rfl⟩ := pure_answers_iff.mp answered
      exact ⟨rfl, Or.inl ⟨rfl, Option.map_eq_none_iff.mp absent⟩⟩
  · next digest head recorded =>
      simp only [bind_answers_iff, ask_answers_iff, ensure_ok_iff, pure_answers_iff] at answered
      obtain ⟨_, _, ⟨rfl, rfl⟩, rfl, rfl⟩ := answered
      exact ⟨rfl, Or.inr ⟨head, rfl, recorded⟩⟩
  · simp [ask_answers_iff] at answered

/-- A cursor that was committed under the operation id, on a stream that goes on from a view. -/
structure Committed (store : Store) (input : Mutation) (view : ExecutionView)
    (cursor : CompositeCursorV1) (longer : RunStream) (head : RunHead) : Prop where
  run : store.runs.get input.runId = some longer
  grown : ∃ added, longer.events = view.stream.events ++ added
  recorded : committedAppendResult store input.runId input.operationId =
    some (.append (some input.requestDigest) (some head))
  cursor : cursor = cursorAt view.cursor head

theorem command_added {store : Store} {runId commandId : JsString} {record : CommandRecord}
    {commands : List CommandRecord} (fresh : store.command runId commandId = none)
    (added : commands = store.commands ++ [record]) (named : record.runId = runId)
    (called : record.commandId = commandId) :
    commands.find? (fun record => record.runId = runId ∧ record.commandId = commandId) =
      some record := by
  rw [added, List.find?_append, show store.commands.find? _ = none from fresh]
  simp [named, called]

theorem noop_committed (seen : viewOf ledger.store input.runId = .ok view)
    (fresh : ledger.store.command input.runId input.operationId = none)
    (answered : outcome (commitNoop w view input expectation) ledger = (.ok cursor, after)) :
    ∃ longer head, Committed after.store input view cursor longer head := by
  obtain ⟨found, -, runId, -, -, -⟩ := view_stored seen
  have again : cursorAt view.cursor ⟨view.cursor.runSequence, view.cursor.runEnvelopeHash⟩ =
      view.cursor := by
    simp only [viewOf, bind_ok_iff, required_ok_iff, pure_ok_iff] at seen
    obtain ⟨stream, _, head, _, rfl⟩ := seen
    rfl
  simp only [commitNoop, bind_answers_iff, stored_answers_iff, check_answers_iff] at answered
  obtain ⟨store, _, ⟨rfl, rfl⟩, next, _, ⟨written, rfl⟩, answered⟩ := answered
  simp only [recordCommandResult, executionCommandResult, runId, fresh, ok_bind, bind_ok_iff,
    pure_ok_iff] at written
  obtain ⟨_, _, rfl⟩ := written
  dsimp only at answered
  rw [bind_answers_iff] at answered
  obtain ⟨_, _, committed, answered⟩ := answered
  obtain rfl := commit_answers_iff.mp committed
  obtain ⟨rfl, rfl⟩ := pure_answers_iff.mp answered
  refine ⟨view.stream, ⟨view.cursor.runSequence, view.cursor.runEnvelopeHash⟩, found,
    ⟨[], (List.append_nil _).symm⟩, ?_, again.symm⟩
  rw [committedAppendResult, Store.command, command_added fresh rfl rfl rfl]
  rfl

theorem append_committed {payloads : List RunEventPayloadV1}
    (seen : viewOf ledger.store input.runId = .ok view)
    (fresh : ledger.store.command input.runId input.operationId = none)
    (answered : outcome (append w view payloads (mutationCommand input expectation)) ledger =
      (.ok cursor, after)) : ∃ longer head, Committed after.store input view cursor longer head := by
  obtain ⟨stored, -, runId, -, -, -⟩ := view_stored seen
  rw [append] at answered
  simp only [bind_answers_iff, ask_answers_iff, check_answers_iff, stored_answers_iff,
    required_ok_iff] at answered
  obtain ⟨events, _, ⟨made, rfl⟩, last, _, ⟨final, rfl⟩, _, _, ⟨_, rfl⟩, _, _, ⟨_, rfl⟩, _, _,
    ⟨rfl, rfl⟩, answered⟩ := answered
  have absent : ledger.store.command view.cursor.runId
      (appendRequest view (mutationCommand input expectation) events).commandId = none := by
    rw [runId]
    exact fresh
  split at answered
  · split at answered
    · rw [bind_answers_iff] at answered
      obtain ⟨_, _, _, refused⟩ := answered
      cases refused
    · cases answered
  · next written =>
      simp only [appendAtomic, absent, bind_ok_iff, pure_ok_iff] at written
      obtain ⟨_, _, _, _, impossible⟩ := written
      cases impossible
  · next next written =>
      rw [bind_answers_iff] at answered
      obtain ⟨_, _, committed, answered⟩ := answered
      obtain rfl := commit_answers_iff.mp committed
      obtain ⟨rfl, rfl⟩ := pure_answers_iff.mp answered
      simp only [appendAtomic, absent, writeAppend, bind_ok_iff, required_ok_iff, ensure_ok_iff,
        map_error_ok_iff, extend_ok_iff, pure_ok_iff] at written
      obtain ⟨_, _, longer, ⟨stream, found, _, _, _, _, grown⟩, same⟩ := written
      obtain rfl := Option.some.inj same
      rw [runId, stored] at found
      obtain rfl := Option.some.inj found
      have headed : longer.head = some (headOf last) := by
        rw [RunStream.head, grown, List.getLast?_append, final]
        rfl
      refine ⟨longer, headOf last, by rw [runId]; exact Record.get_set_same _ _ _,
        ⟨events, grown⟩, ?_, rfl⟩
      rw [committedAppendResult, Store.command, command_added fresh rfl runId rfl, headed]
      rfl

theorem committed_served {mutation : ClientMutation} {answer : MutationAnswer} {store : Store}
    {longer : RunStream} {head : RunHead} (committed : Committed store input view cursor longer head)
    (observed : view.cursor = input.observationCursor)
    (answered : Answers longer.replay.operational.execution mutation input cursor answer) :
    Served store mutation input answer longer head := by
  refine ⟨committed.run, committed.recorded, ?_⟩
  rw [← observed, ← committed.cursor]
  exact answered

theorem adopt_served {planDigest : JsString} {outcome' : AdoptionOutcome}
    (answered : outcome (adopt w input planDigest) ledger = (.ok outcome', after)) :
    ∃ stream head, Served after.store (.adopt planDigest) input (.adopted outcome') stream head := by
  simp only [adopt, bind_answers_iff, viewed_answers_iff, ask_answers_iff, required_ok_iff,
    ensure_ok_iff] at answered
  obtain ⟨view, _, ⟨seen, rfl⟩, observed, _, ⟨_, rfl⟩, recovered, middle, looked, plan, _,
    ⟨stored, rfl⟩, _, _, ⟨sourced, rfl⟩, answered⟩ := answered
  obtain ⟨rfl, ⟨rfl, fresh⟩ | ⟨head, rfl, recorded⟩⟩ := recovered_ok looked
  · simp only [bind_answers_iff, check_answers_iff, assertCursor, ensure_ok_iff] at answered
    obtain ⟨_, _, ⟨current, rfl⟩, answered⟩ := answered
    obtain ⟨-, -, -, -, state, -⟩ := view_stored seen
    split at answered
    · next taskIds adopted =>
        -- the plan was adopted before, under another operation
        rw [bind_answers_iff] at answered
        obtain ⟨cursor, _, recorded, answered⟩ := answered
        obtain ⟨rfl, rfl⟩ := pure_answers_iff.mp answered
        obtain ⟨longer, head, committed⟩ := noop_committed seen fresh recorded
        obtain ⟨added, grown⟩ := committed.grown
        have kept := plans_extended grown
        rw [← state] at kept
        exact ⟨longer, head, committed_served committed current
          ⟨plan, taskIds, kept.plans _ _ stored, sourced, kept.adopted _ _ adopted, rfl⟩⟩
    · simp only [bind_answers_iff, ask_answers_iff, viewed_answers_iff, required_ok_iff] at answered
      obtain ⟨_, _, ⟨_, rfl⟩, _, _, ⟨_, rfl⟩, cursor, _, written, final, _, ⟨reread, rfl⟩, taskIds, _,
        ⟨adopted, rfl⟩, answered⟩ := answered
      obtain ⟨rfl, rfl⟩ := pure_answers_iff.mp answered
      obtain ⟨longer, head, committed⟩ := append_committed seen fresh written
      obtain ⟨found, -, -, -, reached, -⟩ := view_stored reread
      obtain rfl := Option.some.inj (committed.run.symm.trans found)
      obtain ⟨added, grown⟩ := committed.grown
      have kept := plans_extended grown
      rw [← state] at kept
      exact ⟨_, head, committed_served committed current
        ⟨plan, taskIds, kept.plans _ _ stored, sourced, reached ▸ adopted, rfl⟩⟩
  · simp only [bind_answers_iff, ask_answers_iff, required_ok_iff] at answered
    obtain ⟨taskIds, _, ⟨adopted, rfl⟩, answered⟩ := answered
    obtain ⟨rfl, rfl⟩ := pure_answers_iff.mp answered
    obtain ⟨found, -, -, -, state, -⟩ := view_stored seen
    rw [state] at stored adopted
    exact ⟨view.stream, head, found, recorded, plan, taskIds, stored, sourced, adopted, rfl⟩

theorem revise_served {basePlanDigest : JsString} {tasks : List TaskPlanItemV1}
    {outcome' : RevisionOutcome}
    (answered : outcome (revisePlan w input basePlanDigest tasks) ledger = (.ok outcome', after)) :
    ∃ stream head, Served after.store (.revise basePlanDigest tasks) input (.revised outcome') stream
      head := by
  simp only [revisePlan, bind_answers_iff, viewed_answers_iff, ask_answers_iff, required_ok_iff,
    ensure_ok_iff] at answered
  obtain ⟨view, _, ⟨seen, rfl⟩, observed, _, ⟨_, rfl⟩, base, _, ⟨stored, rfl⟩, _, _, ⟨sourced, rfl⟩,
    _, _, ⟨parsed, rfl⟩, _, _, ⟨bounded, rfl⟩, plan, _, ⟨made, rfl⟩, recovered, middle, looked,
    answered⟩ := answered
  obtain ⟨found, -, -, -, state, -⟩ := view_stored seen
  rw [state] at stored
  obtain ⟨rfl, ⟨rfl, fresh⟩ | ⟨head, rfl, recorded⟩⟩ := recovered_ok looked
  · simp only [bind_answers_iff, check_answers_iff, ask_answers_iff, assertCursor, ensure_ok_iff]
      at answered
    obtain ⟨_, _, ⟨current, rfl⟩, _, _, ⟨_, rfl⟩, _, _, ⟨_, rfl⟩, answered⟩ := answered
    have served {cursor : CompositeCursorV1}
        (committed : ∃ longer head, Committed after.store input view cursor longer head) :
        ∃ stream head, Served after.store (.revise basePlanDigest tasks) input (.revised
          ⟨input.operationId, input.taskId, basePlanDigest, plan.planDigest, cursor⟩) stream head := by
      obtain ⟨longer, head, committed⟩ := committed
      obtain ⟨added, grown⟩ := committed.grown
      have kept := (plans_extended grown).plans _ _ stored
      exact ⟨longer, head, committed_served committed current
        ⟨base, plan, kept, sourced, parsed, bounded, made, rfl⟩⟩
    split at answered
    · rw [bind_answers_iff] at answered
      obtain ⟨cursor, _, recorded, answered⟩ := answered
      obtain ⟨rfl, rfl⟩ := pure_answers_iff.mp answered
      exact served (noop_committed seen fresh recorded)
    · rw [bind_answers_iff] at answered
      obtain ⟨cursor, _, written, answered⟩ := answered
      obtain ⟨rfl, rfl⟩ := pure_answers_iff.mp answered
      exact served (append_committed seen fresh written)
  · obtain ⟨rfl, rfl⟩ := pure_answers_iff.mp answered
    exact ⟨view.stream, head, found, recorded, base, plan, stored, sourced, parsed, bounded, made, rfl⟩

theorem cancel_served {answer : CompositeCursorV1 × Option (List JsString)}
    (answered : outcome (cancelTask w input) ledger = (.ok answer, after)) :
    ∃ stream head, Served after.store .cancel input (.cancelled answer.1) stream head := by
  simp only [cancelTask, bind_answers_iff, viewed_answers_iff, ask_answers_iff] at answered
  obtain ⟨view, _, ⟨seen, rfl⟩, observed, _, ⟨_, rfl⟩, recovered, middle, looked, answered⟩ := answered
  obtain ⟨found, -, -, -, -, -⟩ := view_stored seen
  obtain ⟨rfl, ⟨rfl, fresh⟩ | ⟨head, rfl, recorded⟩⟩ := recovered_ok looked
  · simp only [bind_answers_iff, check_answers_iff, ask_answers_iff, assertCursor, ensure_ok_iff]
      at answered
    obtain ⟨_, _, ⟨current, rfl⟩, _, _, ⟨_, rfl⟩, _, _, ⟨_, rfl⟩, answered⟩ := answered
    have served {cursor : CompositeCursorV1}
        (committed : ∃ longer head, Committed after.store input view cursor longer head) :
        ∃ stream head, Served after.store .cancel input (.cancelled cursor) stream head := by
      obtain ⟨longer, head, committed⟩ := committed
      exact ⟨longer, head, committed_served committed current rfl⟩
    split at answered
    · rw [bind_answers_iff] at answered
      obtain ⟨cursor, _, recorded, answered⟩ := answered
      obtain ⟨rfl, rfl⟩ := pure_answers_iff.mp answered
      exact served (noop_committed seen fresh recorded)
    · simp only [bind_answers_iff, ask_answers_iff] at answered
      obtain ⟨_, _, ⟨_, rfl⟩, _, _, ⟨_, rfl⟩, _, _, ⟨_, rfl⟩, _, _, ⟨_, rfl⟩, _, _, ⟨_, rfl⟩,
        answered⟩ := answered
      split at answered
      · rw [bind_answers_iff] at answered
        obtain ⟨cursor, _, recorded, answered⟩ := answered
        obtain ⟨rfl, rfl⟩ := pure_answers_iff.mp answered
        exact served (noop_committed seen fresh recorded)
      · rw [bind_answers_iff] at answered
        obtain ⟨cursor, _, written, answered⟩ := answered
        obtain ⟨rfl, rfl⟩ := pure_answers_iff.mp answered
        exact served (append_committed seen fresh written)
  · obtain ⟨rfl, rfl⟩ := pure_answers_iff.mp answered
    exact ⟨view.stream, head, found, recorded, rfl⟩

-- Every request that is answered leaves in the store what it was answered from.
theorem served_of_answered {mutation : ClientMutation} {answer : MutationAnswer}
    (answered : outcome (serve w mutation input) ledger = (.ok answer, after)) :
    ∃ stream head, Served after.store mutation input answer stream head := by
  cases mutation with
  | adopt planDigest =>
      rw [serve, bind_answers_iff] at answered
      obtain ⟨adoption, _, adopted, answered⟩ := answered
      obtain ⟨rfl, rfl⟩ := pure_answers_iff.mp answered
      exact adopt_served adopted
  | revise basePlanDigest tasks =>
      rw [serve, bind_answers_iff] at answered
      obtain ⟨revision, _, revised, answered⟩ := answered
      obtain ⟨rfl, rfl⟩ := pure_answers_iff.mp answered
      exact revise_served revised
  | cancel =>
      rw [serve, bind_answers_iff] at answered
      obtain ⟨cancellation, _, cancelled, answered⟩ := answered
      obtain ⟨rfl, rfl⟩ := pure_answers_iff.mp answered
      exact cancel_served cancelled

end Accepting

section Idempotence

variable [Engine]

variable {w again : Surroundings} {mutation other : ClientMutation} {input reused : Mutation}
  {answer : MutationAnswer} {ledger after : Ledger} {later : Store} {emitted : List Emission}

/-- What was answered is answered the same at any later time to who is still authorized, and
appends nothing; its operation id under another digest is refused, whatever is asked. -/
theorem mutations_idempotent
    (answered : outcome (serve w mutation input) ledger = (.ok answer, after))
    (reached : Later after.store later) :
    ((∃ observed, authorize again later.workspaceId input.actor input.runId input.taskId
        mutation.method none = .ok observed) →
      outcome (serve again mutation input) ⟨later, emitted⟩ = (.ok answer, ⟨later, emitted⟩)) ∧
    (reused.runId = input.runId → reused.operationId = input.operationId →
      reused.requestDigest ≠ input.requestDigest →
      Refused (serve again other reused) ⟨later, emitted⟩) := by
  obtain ⟨_, head, served⟩ := served_of_answered answered
  obtain ⟨longer, served⟩ := served_kept served reached
  refine ⟨served_answers served, ?_⟩
  intro sameRun sameOperation otherDigest
  have recorded := served.recorded
  rw [← sameRun, ← sameOperation] at recorded
  exact reused_refused recorded otherDigest.symm

end Idempotence

section Recorded

open RecordedRuns PinnedPolicies PolicyDocuments

variable [Engine]

def cancelSurroundings : Surroundings :=
  { steadySurroundings with
    observe := fun grantDigest => some ⟨⟨js "u", .operator, js "p", js "w", none, none, none, none, none,
      none, [.taskCancel], secondLater, grantDigest⟩, ⟨js "grant", 1, js "s"⟩⟩ }

def noRuns : Ledger where
  store := {
    workspaceId := js "w"
    workspace := ⟨1, js "h", [js "e"], ⟨js "w", js "u", js "g", js "m", noPolicyDigest, .empty, .empty,
      0, 1⟩⟩
    runs := .empty
    commands := []
    consumed := []
    issuances := .empty }
  emitted := []

def creation (runId : JsString) : Section Unit :=
  runCreate ⟨js "w", 1, js "h", 0, runId⟩ (object []) (js "u") (js "c" ++ runId)

def cursorOf (ledger : Ledger) (runId : JsString) : CompositeCursorV1 :=
  match viewOf ledger.store runId with
  | .ok view => view.cursor
  | .error _ => sampleCursor

def begun : Ledger := (outcome (creation (js "r")) noRuns).2

def tasked : Ledger :=
  (outcome (taskCreate cancelSurroundings ⟨js "o1", cursorOf begun (js "r"), js "u",
    sampleTask (js "t")⟩) begun).2

def cancellation : Mutation :=
  ⟨js "r", js "t", js "o2", js "d", cursorOf tasked (js "r"), ⟨js "u", js "g"⟩⟩

def cancelled : Ledger := (outcome (serve cancelSurroundings .cancel cancellation) tasked).2

def grown : Ledger := (outcome (creation (js "s")) cancelled).2

theorem ends_in_answers {Result : Type} {turn : Section Result} {ledger after : Ledger}
    (answered : endsIn (fun _ => true) (outcome turn ledger).1 = true)
    (same : (outcome turn ledger).2 = after) : ∃ result, outcome turn ledger = (.ok result, after) := by
  obtain ⟨result, shape, _⟩ := ends_in_exists answered
  exact ⟨result, Prod.ext shape same⟩

end Recorded

section Cancelled

attribute [local instance] RecordedRuns.shortEngine

/-- The cancellation and the creation answer, and the cancellation stays authorized. -/
instance cancellation_computed : Fact (endsIn (fun _ => true)
      (outcome (serve cancelSurroundings .cancel cancellation) tasked).1 = true ∧
    endsIn (fun _ => true) (outcome (creation (js "s")) cancelled).1 = true ∧
    endsIn (fun _ => true) (authorize cancelSurroundings grown.store.workspaceId cancellation.actor
      cancellation.runId cancellation.taskId ClientMutation.cancel.method none) = true) :=
  ⟨by decide +kernel⟩

theorem cancellation_answers : ∃ answer,
    outcome (serve cancelSurroundings .cancel cancellation) tasked = (.ok answer, cancelled) :=
  ends_in_answers cancellation_computed.out.1 (by rw [cancelled])

theorem creation_grows : outcome (creation (js "s")) cancelled = (.ok (), grown) := by
  have answered := ends_in_answers cancellation_computed.out.2.1 (by rw [grown] : _ = grown)
  exact answered.elim fun _ shape => shape

theorem mutations_idempotent_cancelled : ∃ answer,
    outcome (serve cancelSurroundings .cancel cancellation) tasked = (.ok answer, cancelled) ∧
      Later cancelled.store grown.store ∧
      outcome (serve cancelSurroundings .cancel cancellation) ⟨grown.store, []⟩ =
        (.ok answer, ⟨grown.store, []⟩) ∧
      Refused (serve cancelSurroundings .cancel { cancellation with requestDigest := js "e" })
        ⟨grown.store, []⟩ := by
  obtain ⟨answer, first⟩ := cancellation_answers
  have later : Later cancelled.store grown.store := .single (.created _ _ _ _ creation_grows)
  obtain ⟨observed, authorized, _⟩ := ends_in_exists cancellation_computed.out.2.2
  obtain ⟨again, refused⟩ := mutations_idempotent first later
  exact ⟨answer, first, later, again ⟨observed, authorized⟩, refused rfl rfl (by decide)⟩

end Cancelled

end Horseness.ClientRetries
