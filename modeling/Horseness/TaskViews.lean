import Horseness.GraphFreeze
import Horseness.ReplaySteps

/-!
The two views of a run's tasks. The execution projection has contracts and lifecycles;
the run shows tasks and their resolutions beside it. The views agree as long as no task is
created after a resolution of that name was already recorded.
-/

namespace Horseness.TaskViews

open FallibleRuns Records ScriptText ScriptEngine PlainObjects Tasks TaskPlans ExecutionEvents
  Execution ExecutionSteps GraphFreeze EventPayloads Replay ReplaySteps RecordedRuns

section Entries

variable {Value : Type} {record : Record JsString Value} {key : JsString}

theorem spread_absent {entries : List (JsString × Value)} (absent : ∀ value, (key, value) ∉ entries) :
    (spread record entries).get key = record.get key := by
  induction entries generalizing record with
  | nil => rfl
  | cons entry rest ih =>
      have other : entry.1 ≠ key := by
        rintro rfl
        exact absent entry.2 List.mem_cons_self
      have later : (spread (record.set entry.1 entry.2) rest).get key = _ :=
        ih (fun value member => absent value (List.mem_cons_of_mem _ member))
      rw [spread, List.foldl_cons]
      exact later.trans (record.get_set_other entry.2 other)

theorem spread_present {entries : List (JsString × Value)} {value : Value}
    (member : (key, value) ∈ entries) (only : ∀ other, (key, other) ∈ entries → other = value) :
    (spread record entries).get key = some value := by
  induction entries generalizing record with
  | nil => cases member
  | cons entry rest ih =>
      rw [spread, List.foldl_cons]
      by_cases again : ∃ other, (key, other) ∈ rest
      · obtain ⟨other, inside⟩ := again
        obtain rfl := only other (List.mem_cons_of_mem _ inside)
        exact ih inside (fun found present => only found (List.mem_cons_of_mem _ present))
      · -- the last entry of the key is the one written now
        have here : entry = (key, value) := by
          rcases List.mem_cons.mp member with same | later
          · exact same.symm
          · exact absurd ⟨value, later⟩ again
        have kept : (spread (record.set entry.1 entry.2) rest).get key = _ :=
          spread_absent (fun other inside => again ⟨other, inside⟩)
        subst here
        exact kept.trans (record.get_set_same key value)

theorem spread_keys {entries : List (JsString × Value)} :
    key ∈ (spread record entries).keys ↔ key ∈ record.keys ∨ ∃ value, (key, value) ∈ entries := by
  induction entries generalizing record with
  | nil => simp [spread]
  | cons entry rest ih =>
      rw [spread, List.foldl_cons]
      refine Iff.trans ih ?_
      simp only [Record.mem_keys_iff, Record.get_set, List.mem_cons]
      by_cases same : entry.1 = key
      · subst same
        simp only [if_true, Option.some.injEq, exists_eq', true_or, true_iff]
        exact Or.inr ⟨entry.2, Or.inl rfl⟩
      · have apart : ∀ value, (key, value) ≠ entry := by
          rintro value rfl
          exact same rfl
        simp [same, apart]

end Entries

section Lifecycles

variable {execution : TaskExecutionProjectionV1} {state : RunOperationalState} {id : JsString}

theorem terminal_iff {resolution : TaskResolution} : (id, resolution) ∈ terminalLifecycles execution ↔
    execution.lifecycles.get id = some (.resolved resolution) := by
  rw [← Record.mem_entries_iff]
  simp only [terminalLifecycles, List.mem_filterMap, Prod.exists]
  constructor
  · rintro ⟨key, lifecycle, member, made⟩
    cases lifecycle with
    | resolved found =>
        obtain ⟨rfl, rfl⟩ : key = id ∧ found = resolution := by simpa using made
        exact member
    | draft => cases made
    | active => cases made
  · exact fun member => ⟨id, _, member, rfl⟩

-- Resolutions spread over the recorded ones: those of the lifecycles win.
theorem spread_resolved {taskStates : Record JsString TaskResolution} {resolution : TaskResolution}
    (resolved : execution.lifecycles.get id = some (.resolved resolution)) :
    (spread taskStates (terminalLifecycles execution)).get id = some resolution := by
  apply spread_present (terminal_iff.mpr resolved)
  intro other member
  have again := terminal_iff.mp member
  rw [resolved] at again
  simpa using again.symm

theorem spread_unresolved {taskStates : Record JsString TaskResolution}
    (unresolved : ∀ resolution, execution.lifecycles.get id ≠ some (.resolved resolution)) :
    (spread taskStates (terminalLifecycles execution)).get id = taskStates.get id :=
  spread_absent fun resolution member => unresolved resolution (terminal_iff.mp member)

theorem view_keys (named : Named execution) :
    id ∈ (taskViews execution).keys ↔ id ∈ execution.contracts.keys := by
  have shown : id ∈ (taskViews execution).keys ↔ ∃ view, (id, view) ∈
      execution.contracts.values.map fun task => (task.taskId, (⟨task.title⟩ : TaskView)) := by
    have spreads : id ∈ (spread (∅ : Record JsString TaskView) (execution.contracts.values.map
        fun task => (task.taskId, ⟨task.title⟩))).keys ↔ _ := spread_keys
    refine Iff.trans spreads ?_
    simp [Record.mem_keys_iff]
  rw [shown, Record.mem_keys_iff]
  constructor
  · rintro ⟨view, member⟩
    obtain ⟨contract, inside, same⟩ := List.mem_map.mp member
    obtain ⟨key, found⟩ := (Record.mem_values_iff _ _).mp inside
    have own := named key contract found
    have here : contract.taskId = id := congrArg Prod.fst same
    exact ⟨contract, by rw [← here, own]; exact found⟩
  · rintro ⟨contract, found⟩
    have own := named id contract found
    refine ⟨⟨contract.title⟩, List.mem_map.mpr ⟨contract, ?_, by rw [own]⟩⟩
    exact (Record.mem_values_iff _ _).mpr ⟨id, found⟩

end Lifecycles

section Changes

variable {s after : TaskExecutionProjectionV1} {id : JsString}

/-- What an execution event does to one task: nothing, its creation, or a step of its
lifecycle from an unresolved state. -/
inductive TaskChange (s after : TaskExecutionProjectionV1) (creates : Prop) (id : JsString) :
    Prop where
  | kept (contract : after.contracts.get id = s.contracts.get id)
      (lifecycle : after.lifecycles.get id = s.lifecycles.get id)
  | created (made : creates) (fresh : s.contracts.get id = none)
      (contract : (after.contracts.get id).isSome = true)
      (lifecycle : after.lifecycles.get id = some .draft)
  | moved (contract : after.contracts.get id = s.contracts.get id) (old new : TaskLifecycle)
      (before : s.lifecycles.get id = some old) (unresolved : ∀ r, old ≠ .resolved r)
      (now : after.lifecycles.get id = some new)

theorem add_contract_change (id : JsString) {contract : TaskContractV2}
    (added : addContract s contract = .ok after) :
    TaskChange s after (contract.taskId = id) id := by
  obtain ⟨absent, rfl⟩ := (add_contract_ok_iff contract).mp added
  by_cases here : contract.taskId = id
  · subst here
    apply TaskChange.created rfl (absent_get absent)
    · simp
    · simp
  · apply TaskChange.kept
    · exact s.contracts.get_set_other contract here
    · exact s.lifecycles.get_set_other _ here

theorem add_contracts_change (id : JsString) (contracts : List TaskContractV2)
    (added : contracts.foldlM addContract s = .ok after) :
    ((∀ contract ∈ contracts, contract.taskId ≠ id) ∧
      after.contracts.get id = s.contracts.get id ∧ after.lifecycles.get id = s.lifecycles.get id) ∨
      ((∃ contract ∈ contracts, contract.taskId = id) ∧ s.contracts.get id = none ∧
        (after.contracts.get id).isSome = true ∧ after.lifecycles.get id = some .draft) := by
  induction contracts generalizing s with
  | nil =>
      rw [List.foldlM_nil, pure_ok_iff] at added
      subst added
      exact Or.inl ⟨by simp, rfl, rfl⟩
  | cons contract rest ih =>
      obtain ⟨middle, first, later⟩ := (foldlM_cons_ok_iff _ contract rest s after).mp added
      obtain ⟨absent, rfl⟩ := (add_contract_ok_iff contract).mp first
      by_cases here : contract.taskId = id
      · subst here
        apply Or.inr
        rcases ih later with ⟨_, sameContract, sameLifecycle⟩ | ⟨_, fresh, _⟩
        · refine ⟨⟨contract, List.mem_cons_self, rfl⟩, absent_get absent, ?_, ?_⟩
          · simp [sameContract]
          · simp [sameLifecycle]
        · simp at fresh
      · have step := ih later
        simp only [Record.get_set, here, if_false] at step
        rcases step with ⟨apart, same⟩ | ⟨⟨other, inside, named⟩, created⟩
        · exact Or.inl ⟨List.forall_mem_cons.mpr ⟨here, apart⟩, same⟩
        · exact Or.inr ⟨⟨other, List.mem_cons_of_mem _ inside, named⟩, created⟩

variable [Engine]

/-- The tasks that an event creates. -/
inductive Creates (s : TaskExecutionProjectionV1) : RunOperationalPayload → JsString → Prop where
  | legacy (taskId title : JsString) : Creates s (.taskCreatedV1 taskId title) taskId
  | contract (contract : TaskContractV2) :
      Creates s (.execution (.taskCreatedV2 contract)) contract.taskId
  | adoption (taskId planDigest : JsString) (plan : TaskPlanV1) (adoption : PlanAdoptionV1)
      (contract : TaskContractV2) (stored : s.plans.get planDigest = some plan)
      (first : planAdopted s taskId = false) (derived : derivePlanAdoptionV1 plan = .ok adoption)
      (member : contract ∈ adoption.contracts) :
      Creates s (.execution (.taskPlanAdoptedV1 taskId planDigest)) contract.taskId

theorem execution_change {event : TaskExecutionEventV1} {sequence : Nat}
    (accepted : reduceTaskExecutionV1 s event sequence = .ok after) (id : JsString) :
    TaskChange s after (Creates s (.execution event.payload) id) id := by
  obtain ⟨-, accepted⟩ := check_ok_iff.mp accepted
  cases payload : event.payload <;> rw [payload] at accepted
  case taskCreatedV2 contract =>
    cases add_contract_change id accepted with
    | kept contract lifecycle => exact .kept contract lifecycle
    | created here fresh contract lifecycle => exact .created (here ▸ .contract _) fresh contract lifecycle
    | moved contract old new before unresolved now => exact .moved contract old new before unresolved now
  case taskActivatedV1 taskId =>
    obtain ⟨draft, rfl⟩ := activated_ok accepted
    by_cases here : taskId = id
    · subst here
      exact .moved rfl .draft .active draft (by simp) (by simp)
    · exact .kept rfl (s.lifecycles.get_set_other _ here)
  case taskResolvedV2 resolution clock =>
    obtain ⟨_, lifecycle, -, -, stored, unresolved, rfl⟩ := resolved_ok accepted
    by_cases here : resolution.taskId = id
    · subst here
      exact .moved rfl lifecycle (.resolved resolution.resolution) stored unresolved (by simp)
    · exact .kept rfl (s.lifecycles.get_set_other _ here)
  case taskPlanAdoptedV1 taskId planDigest =>
    obtain rfl | ⟨plan, adoption, grown, stored, -, first, -, derived, added, -, rfl⟩ :=
      adopted_ok accepted
    · exact .kept rfl rfl
    · rcases add_contracts_change id adoption.contracts added with
        ⟨_, contract, lifecycle⟩ | ⟨⟨contract, inside, rfl⟩, fresh, exists', lifecycle⟩
      · exact .kept contract lifecycle
      · exact .created (.adoption taskId planDigest plan adoption contract stored first derived inside)
          fresh exists' lifecycle
  case dependencyAddedV1 edge =>
    obtain ⟨-, -, -, rfl⟩ := dependency_added_ok accepted
    exact .kept rfl rfl
  case taskExecutionPreparedV1 prepared =>
    obtain ⟨-, -, -, -, -, -, _, _, -, rfl⟩ := prepared_ok accepted
    exact .kept rfl rfl
  case taskExecutionTransitionV1 attempt input =>
    obtain ⟨_, _, _, -, -, -, -, -, rfl⟩ := transition_ok accepted
    exact .kept rfl rfl
  case taskExecutionReceiptV1 attempt receipt =>
    obtain ⟨_, _, _, -, -, -, -, -, -, -, ⟨rfl, -⟩ | ⟨-, _, -, rfl⟩⟩ := receipt_ok accepted
    · exact .kept rfl rfl
    · exact .kept rfl rfl
  case taskExecutionAbortedV1 attempt reasonCode clock =>
    obtain ⟨_, _, -, -, -, -, rfl⟩ := aborted_ok accepted
    exact .kept rfl rfl
  case taskPlanProposedV1 plannerTaskId plan =>
    have frame := proposed_frame accepted
    exact .kept (by rw [frame.contracts]) (by rw [frame.lifecycles])
  case taskPlanRevisedV1 basePlanDigest plan =>
    have frame := revised_frame accepted
    exact .kept (by rw [frame.contracts]) (by rw [frame.lifecycles])
  case taskPlanRejectedV1 taskId plannerTaskId reasonCode =>
    have frame := rejected_frame accepted
    exact .kept (by rw [frame.contracts]) (by rw [frame.lifecycles])
  case taskWorkflowStartedV1 authorization =>
    obtain ⟨-, -, rfl⟩ := started_ok accepted
    exact .kept rfl rfl
  case taskWorkflowPlanBoundV1 workflowId planDigest graphDigest =>
    obtain ⟨_, -, -, -, -, rfl⟩ := plan_bound_ok accepted
    exact .kept rfl rfl
  case taskWorkflowStoppedV1 workflowId ended reasonCode =>
    obtain ⟨_, -, -, rfl⟩ := stopped_ok accepted
    exact .kept rfl rfl

end Changes

section Operations

-- A name that no object answers to is read and written as an own one.
theorem plain_name {Value Other : Type} {record : Record JsString Value} {key : JsString}
    (missing : memberOf record key = none) (other : Record JsString Other) :
    present other key = (other.get key).isSome ∧ ∀ value, assign other key value = other.set key value := by
  unfold memberOf at missing
  cases owned : record.get key with
  | some value => simp [owned] at missing
  | none =>
      have plain : inheritedNames.contains key = false := by
        rw [owned] at missing
        simpa using missing
      constructor
      · rw [present, plain, Bool.or_false]
      · intro value
        apply if_neg
        rintro ⟨rfl, _⟩
        exact absurd plain (by decide)

variable [Engine] {state after : RunOperationalState} {event : RunOperationalEvent}

/-- What an event does to the two views. -/
inductive TaskOperation (state after : RunOperationalState) (event : RunOperationalEvent) :
    RunOperationalPayload → Prop where
  | untouched (payload : RunOperationalPayload)
      (silent : ∀ id, ¬ Creates state.execution payload id)
      (execution : after.execution = state.execution)
      (tasks : after.tasks = state.tasks) (taskStates : after.taskStates = state.taskStates) :
      TaskOperation state after event payload
  | execution (payload : TaskExecutionPayloadV1)
      (accepted : reduceTaskExecutionV1 state.execution ⟨event.workspaceId, event.runId, payload⟩
        event.sequence = .ok after.execution)
      (tasks : after.tasks = taskViews after.execution)
      (taskStates : after.taskStates =
        spread state.taskStates (terminalLifecycles after.execution)) :
      TaskOperation state after event (.execution payload)
  | created (taskId title : JsString) (fresh : state.tasks.get taskId = none)
      (contracts : after.execution.contracts =
        state.execution.contracts.set taskId (legacyContract taskId title))
      (lifecycles : after.execution.lifecycles = state.execution.lifecycles.set taskId .draft)
      (tasks : after.tasks = state.tasks.set taskId ⟨title⟩)
      (taskStates : after.taskStates = state.taskStates) :
      TaskOperation state after event (.taskCreatedV1 taskId title)
  | resolved (taskId : JsString) (resolution : TaskResolution)
      (fresh : state.taskStates.get taskId = none)
      (contracts : after.execution.contracts = state.execution.contracts)
      (lifecycles : after.execution.lifecycles =
        if (state.execution.contracts.get taskId).isSome then
          state.execution.lifecycles.set taskId (.resolved resolution)
        else state.execution.lifecycles)
      (tasks : after.tasks = state.tasks)
      (taskStates : after.taskStates = state.taskStates.set taskId resolution) :
      TaskOperation state after event (.taskResolvedV1 taskId resolution)

theorem task_operation (reduced : reduceOperationalState (some state) event = .ok after) :
    TaskOperation state after event event.payload := by
  obtain ⟨_, stepped⟩ := operational_step reduced
  unfold reduceOperationalPayload at stepped
  cases kind : event.payload with
  | execution payload =>
      simp only [kind, bind_ok_iff, pure_ok_iff] at stepped
      obtain ⟨_, accepted, rfl⟩ := stepped
      exact .execution payload accepted rfl rfl
  | runCreatedV1 => simp [kind] at stepped
  | taskCreatedV1 taskId title =>
      simp only [kind, bind_ok_iff, ensure_ok_iff, pure_ok_iff] at stepped
      obtain ⟨_, fresh, rfl⟩ := stepped
      exact .created taskId title (Option.isNone_iff_eq_none.mp fresh) rfl rfl rfl rfl
  | taskResolvedV1 taskId resolution =>
      simp only [kind, bind_ok_iff, pure_ok_iff, unrecorded] at stepped
      obtain ⟨_, fresh, rfl⟩ := stepped
      split at fresh
      · next missing =>
          have contracts := (plain_name missing state.execution.contracts).1
          have lifecycles := (plain_name missing state.execution.lifecycles).2 (.resolved resolution)
          have fresh : state.taskStates.get taskId = none := read_none missing
          have written : (if present state.execution.contracts taskId = true then
              assign state.execution.lifecycles taskId (.resolved resolution)
            else state.execution.lifecycles) =
            if (state.execution.contracts.get taskId).isSome = true then
              state.execution.lifecycles.set taskId (.resolved resolution)
            else state.execution.lifecycles := by
            rw [contracts, lifecycles]
          exact .resolved taskId resolution fresh rfl written rfl rfl
      · cases fresh
      · cases fresh
  | proposalSubmittedV1 proposalId proposalDigest =>
      simp only [kind, bind_ok_iff, pure_ok_iff] at stepped
      obtain ⟨_, _, rfl⟩ := stepped
      exact .untouched _ nofun rfl rfl rfl
  | deltaAcceptedV1 proposalId proposalDigest =>
      simp only [kind, bind_ok_iff, pure_ok_iff] at stepped
      obtain ⟨_, _, _, _, rfl⟩ := stepped
      exact .untouched _ nofun rfl rfl rfl
  | admissionDecisionRecordedV1 proposalId proposalDigest decision provenanceDigest artifactDigest =>
      simp only [kind, bind_ok_iff] at stepped
      obtain ⟨existing, _, _, _, stepped⟩ := stepped
      split at stepped
      · simp only [bind_ok_iff, pure_ok_iff] at stepped
        obtain ⟨_, _, rfl⟩ := stepped
        exact .untouched _ nofun rfl rfl rfl
      · obtain rfl := (pure_ok_iff _ _).mp stepped
        exact .untouched _ nofun rfl rfl rfl
  | attemptReceiptRecordedV1 receiptId receiptDigest outcome =>
      simp only [kind, bind_ok_iff, pure_ok_iff] at stepped
      obtain ⟨_, _, rfl⟩ := stepped
      exact .untouched _ nofun rfl rfl rfl
  | forkCreatedV1 | contextManifestPublishedV1 =>
      simp only [kind, Except.ok.injEq] at stepped
      subst stepped
      exact .untouched _ nofun rfl rfl rfl

end Operations

section Views

variable [Engine] {state after : RunOperationalState} {event : RunOperationalEvent}

/-- Contracts and tasks have the same names, and only tasks have lifecycles. -/
structure SoundNames (state : RunOperationalState) : Prop where
  named : Named state.execution
  keys : ∀ id, id ∈ state.tasks.keys ↔ id ∈ state.execution.contracts.keys
  placed : ∀ id lifecycle, state.execution.lifecycles.get id = some lifecycle →
    id ∈ state.execution.contracts.keys

/-- A task with a contract shows the resolution of its lifecycle. -/
def ViewsAgree (state : RunOperationalState) : Prop :=
  ∀ id ∈ state.execution.contracts.keys, ∀ resolution,
    state.taskStates.get id = some resolution ↔
      state.execution.lifecycles.get id = some (.resolved resolution)

def StatesKept (state after : RunOperationalState) : Prop :=
  ∀ id resolution, state.taskStates.get id = some resolution →
    after.taskStates.get id = some resolution

def CreatesUnresolved (state : RunOperationalState) (event : RunOperationalEvent) : Prop :=
  ∀ id, Creates state.execution event.payload id → state.taskStates.get id = none

theorem lifecycles_placed (sound : SoundNames state) {payload : TaskExecutionPayloadV1}
    {execution : TaskExecutionProjectionV1} {lifecycle : TaskLifecycle} {id : JsString}
    (accepted : reduceTaskExecutionV1 state.execution ⟨event.workspaceId, event.runId, payload⟩
      event.sequence = .ok execution)
    (found : execution.lifecycles.get id = some lifecycle) : id ∈ execution.contracts.keys := by
  rw [Record.mem_keys_iff]
  cases execution_change accepted id with
  | kept contract same =>
      rw [contract]
      exact (Record.mem_keys_iff _ _).mp (sound.placed id lifecycle (same ▸ found))
  | created _ _ contract _ => exact Option.isSome_iff_exists.mp contract
  | moved contract old new before _ _ =>
      rw [contract]
      exact (Record.mem_keys_iff _ _).mp (sound.placed id old before)

theorem sound_names_step (sound : SoundNames state)
    (reduced : reduceOperationalState (some state) event = .ok after) : SoundNames after := by
  have operation := task_operation reduced
  generalize event.payload = payload at operation
  cases operation with
  | untouched _ silent execution tasks taskStates =>
      obtain ⟨named, keys, placed⟩ := sound
      constructor
      · rw [execution]
        exact named
      · rw [execution, tasks]
        exact keys
      · rw [execution]
        exact placed
  | execution payload accepted tasks taskStates =>
      have named : Named after.execution := named_step sound.named (graph_effect accepted)
      constructor
      · exact named
      · rw [tasks]
        exact fun id => view_keys named
      · exact fun id lifecycle found => lifecycles_placed sound accepted found
  | created taskId title fresh contracts lifecycles tasks taskStates =>
      constructor
      · intro id contract found
        rw [contracts, Record.get_set] at found
        split at found
        · next same =>
            obtain rfl := Option.some.inj found
            exact same
        · exact sound.named id contract found
      · intro id
        have before := sound.keys id
        rw [Record.mem_keys_iff, Record.mem_keys_iff] at before ⊢
        rw [tasks, contracts, Record.get_set, Record.get_set]
        split
        · simp
        · exact before
      · intro id lifecycle found
        rw [Record.mem_keys_iff, contracts, Record.get_set]
        rw [lifecycles, Record.get_set] at found
        split
        · simp
        · next other =>
            rw [if_neg other] at found
            exact (Record.mem_keys_iff _ _).mp (sound.placed id lifecycle found)
  | resolved taskId resolution fresh contracts lifecycles tasks taskStates =>
      constructor
      · intro id contract found
        exact sound.named id contract (contracts ▸ found)
      · rw [tasks, contracts]
        exact sound.keys
      · intro id lifecycle found
        rw [contracts]
        rw [lifecycles] at found
        split at found
        · next there =>
            rw [Record.get_set] at found
            split at found
            · next same =>
                exact (Record.mem_keys_iff _ _).mpr (same ▸ Option.isSome_iff_exists.mp there)
            · exact sound.placed id lifecycle found
        · exact sound.placed id lifecycle found

-- After an execution event the resolutions shown are those of the lifecycles.
theorem execution_views {payload : TaskExecutionPayloadV1} (sound : SoundNames state)
    (agree : ViewsAgree state)
    (unresolved : ∀ id, Creates state.execution (.execution payload) id →
      state.taskStates.get id = none)
    (accepted : reduceTaskExecutionV1 state.execution ⟨event.workspaceId, event.runId, payload⟩
      event.sequence = .ok after.execution)
    (taskStates : after.taskStates = spread state.taskStates (terminalLifecycles after.execution)) :
    ViewsAgree after ∧ StatesKept state after := by
  -- what the resolved lifecycle of a task says about its state before the event
  have before : ∀ id resolution, state.taskStates.get id = some resolution →
      id ∈ after.execution.contracts.keys →
      after.execution.lifecycles.get id = some (.resolved resolution) := by
    intro id resolution recorded inside
    cases execution_change accepted id with
    | kept contract lifecycle =>
        rw [Record.mem_keys_iff, contract, ← Record.mem_keys_iff] at inside
        rw [lifecycle]
        exact (agree id inside resolution).mp recorded
    | created made _ _ _ =>
        rw [unresolved id made] at recorded
        cases recorded
    | moved contract old new was open' _ =>
        have resolved := (agree id (sound.placed id old was) resolution).mp recorded
        exact absurd (Option.some.inj (was.symm.trans resolved)) (open' resolution)
  constructor
  · intro id inside resolution
    rw [taskStates]
    constructor
    · intro shown
      by_cases terminal : ∃ other, after.execution.lifecycles.get id = some (.resolved other)
      · obtain ⟨other, resolved⟩ := terminal
        rw [spread_resolved resolved] at shown
        obtain rfl := Option.some.inj shown
        exact resolved
      · rw [spread_unresolved (fun other resolved => terminal ⟨other, resolved⟩)] at shown
        exact before id resolution shown inside
    · exact fun resolved => spread_resolved resolved
  · intro id resolution recorded
    rw [taskStates]
    by_cases terminal : ∃ other, after.execution.lifecycles.get id = some (.resolved other)
    · obtain ⟨other, resolved⟩ := terminal
      have same := before id resolution recorded (lifecycles_placed sound accepted resolved)
      exact spread_resolved same
    · rw [spread_unresolved (fun other resolved => terminal ⟨other, resolved⟩)]
      exact recorded

-- One event keeps the views in agreement and every recorded resolution.
theorem views_step (sound : SoundNames state) (agree : ViewsAgree state)
    (unresolved : CreatesUnresolved state event)
    (reduced : reduceOperationalState (some state) event = .ok after) :
    ViewsAgree after ∧ StatesKept state after := by
  have operation := task_operation reduced
  unfold CreatesUnresolved at unresolved
  generalize event.payload = payload at operation unresolved
  cases operation with
  | untouched _ silent execution tasks taskStates =>
      constructor
      · rw [ViewsAgree, execution, taskStates]
        exact agree
      · rw [StatesKept, taskStates]
        exact fun id resolution recorded => recorded
  | execution payload accepted tasks taskStates =>
      exact execution_views sound agree unresolved accepted taskStates
  | created taskId title fresh contracts lifecycles tasks taskStates =>
      constructor
      · intro id inside resolution
        rw [lifecycles, taskStates, Record.get_set]
        split
        · next same =>
            rw [← same, unresolved taskId (.legacy taskId title)]
            simp
        · next other =>
            rw [Record.mem_keys_iff, contracts, Record.get_set_other _ _ other,
              ← Record.mem_keys_iff] at inside
            exact agree id inside resolution
      · rw [StatesKept, taskStates]
        exact fun id resolution recorded => recorded
  | resolved taskId resolution fresh contracts lifecycles tasks taskStates =>
      constructor
      · intro id inside other
        rw [contracts] at inside
        rw [taskStates, lifecycles, Record.get_set]
        by_cases same : taskId = id
        · subst same
          have there : (state.execution.contracts.get taskId).isSome = true :=
            Option.isSome_iff_exists.mpr ((Record.mem_keys_iff _ _).mp inside)
          simp [there]
        · rw [if_neg same, agree id inside other]
          split
          · rw [Record.get_set_other _ _ same]
          · exact Iff.rfl
      · intro id other recorded
        rw [taskStates, Record.get_set_other _ _ (by
          rintro rfl
          rw [fresh] at recorded
          cases recorded)]
        exact recorded

theorem adoption_drafts {s grown : TaskExecutionProjectionV1} {taskId planDigest : JsString}
    {plan : TaskPlanV1} {adoption : PlanAdoptionV1} {contract : TaskContractV2}
    (stored : s.plans.get planDigest = some plan) (first : planAdopted s taskId = false)
    (derived : derivePlanAdoptionV1 plan = .ok adoption) (member : contract ∈ adoption.contracts)
    (accepted : reduceTaskPlanAdoptedV1 s taskId planDigest = .ok grown) :
    (grown.contracts.get contract.taskId).isSome = true ∧
      grown.lifecycles.get contract.taskId = some .draft := by
  simp only [reduceTaskPlanAdoptedV1, bind_ok_iff, required_ok_iff, ensure_ok_iff] at accepted
  obtain ⟨found, there, _, sourced, rest⟩ := accepted
  obtain rfl := Option.some.inj (stored.symm.trans there)
  split at rest
  · next again =>
      have adopted : planAdopted s taskId = true := by
        refine List.any_eq_true.mpr ⟨plan, (Record.mem_values_iff _ _).mpr ⟨_, stored⟩, ?_⟩
        simp [sourced, again]
      rw [first] at adopted
      cases adopted
  · simp only [bind_ok_iff, pure_ok_iff] at rest
    obtain ⟨_, _, _, _, _, _, _, _, again, same, middle, added, _, _, rfl⟩ := rest
    obtain rfl := Except.ok.inj (derived.symm.trans same)
    rcases add_contracts_change contract.taskId _ added with ⟨apart, _⟩ | ⟨_, created⟩
    · exact absurd rfl (apart contract member)
    · exact created.2

-- A task created under a recorded resolution starts in disagreement with it.
theorem stale_disagrees {id : JsString} (creates : Creates state.execution event.payload id)
    {resolution : TaskResolution} (recorded : state.taskStates.get id = some resolution)
    (reduced : reduceOperationalState (some state) event = .ok after) : ¬ ViewsAgree after := by
  have operation := task_operation reduced
  generalize event.payload = payload at operation creates
  suffices drafted : id ∈ after.execution.contracts.keys ∧
      after.execution.lifecycles.get id = some .draft ∧
      after.taskStates.get id = some resolution by
    intro agree
    have resolved := (agree id drafted.1 resolution).mp drafted.2.2
    rw [drafted.2.1] at resolved
    cases resolved
  have spreads (draft : after.execution.lifecycles.get id = some .draft) :
      (spread state.taskStates (terminalLifecycles after.execution)).get id = some resolution := by
    rw [spread_unresolved (by simp [draft]), recorded]
  cases operation with
  | untouched _ silent => exact absurd creates (silent id)
  | resolved => cases creates
  | created taskId title fresh contracts lifecycles tasks taskStates =>
      cases creates
      refine ⟨(Record.mem_keys_iff _ _).mpr ?_, ?_, taskStates ▸ recorded⟩
      · simp [contracts]
      · simp [lifecycles]
  | execution payload accepted tasks taskStates =>
      have added : (after.execution.contracts.get id).isSome = true ∧
          after.execution.lifecycles.get id = some .draft := by
        obtain ⟨-, accepted⟩ := check_ok_iff.mp accepted
        cases creates with
        | contract contract =>
            obtain ⟨_, written⟩ := (add_contract_ok_iff contract).mp accepted
            rw [← written]
            simp
        | adoption taskId planDigest plan adoption contract stored first derived member =>
            exact adoption_drafts stored first derived member accepted
      refine ⟨(Record.mem_keys_iff _ _).mpr (Option.isSome_iff_exists.mp added.1), added.2, ?_⟩
      rw [taskStates]
      exact spreads added.2

end Views

section Runs

variable [Engine] {events : List RunOperationalEvent} {start final : Option RunOperationalState}
  {state : RunOperationalState}

theorem run_append_iff (front back : List RunOperationalEvent) :
    operationalRun start (front ++ back) = .ok final ↔ ∃ middle,
      operationalRun start front = .ok middle ∧ operationalRun middle back = .ok final :=
  foldlM_append_ok_iff _ front back start final

theorem run_concat_iff {front : List RunOperationalEvent} {event : RunOperationalEvent} :
    operationalRun start (front ++ [event]) = .ok (some state) ↔ ∃ middle,
      operationalRun start front = .ok middle ∧ reduceOperationalState middle event = .ok state := by
  simp only [run_append_iff, run_cons_iff, run_nil_iff, Option.some.injEq, exists_eq_right']

theorem run_continues (ran : operationalRun (some state) events = .ok final) :
    ∃ after, final = some after := by
  induction events generalizing state with
  | nil => exact ⟨state, run_nil_iff.mp ran⟩
  | cons event rest ih =>
      obtain ⟨middle, _, ran⟩ := run_cons_iff.mp ran
      exact ih ran

/-- The run creates no task whose resolution is already recorded. -/
def CreatesUnresolvedAlong (events : List RunOperationalEvent) : Prop :=
  EachAfter (fun front event => ∀ before, operationalRun none front = .ok (some before) →
    CreatesUnresolved before event) events

omit [Engine] in
theorem created_views (event : RunOperationalEvent) :
    SoundNames (createRun event) ∧ ViewsAgree (createRun event) := by
  constructor
  · constructor
    · intro id contract found
      cases found
    · exact fun id => Iff.rfl
    · intro id lifecycle found
      cases found
  · intro id inside
    cases inside

theorem names_sound (ran : operationalRun none events = .ok (some state)) : SoundNames state := by
  induction events using List.reverseRecOn generalizing state with
  | nil => simp at ran
  | append_singleton front event ih =>
      obtain ⟨middle, earlier, reduced⟩ := run_concat_iff.mp ran
      cases middle with
      | none =>
          obtain ⟨_, rfl⟩ := operational_genesis reduced
          exact (created_views event).1
      | some before => exact sound_names_step (ih earlier) reduced

theorem views_agree_along (along : CreatesUnresolvedAlong events)
    (ran : operationalRun none events = .ok (some state)) : ViewsAgree state := by
  induction events using List.reverseRecOn generalizing state with
  | nil => simp at ran
  | append_singleton front event ih =>
      obtain ⟨earlier, now⟩ := (each_after_concat_iff _ _ _).mp along
      obtain ⟨middle, first, reduced⟩ := run_concat_iff.mp ran
      cases middle with
      | none =>
          obtain ⟨_, rfl⟩ := operational_genesis reduced
          exact (created_views event).2
      | some before =>
          exact (views_step (names_sound first) (ih earlier first) (now before first) reduced).1

theorem states_kept_along {front back : List RunOperationalEvent} {after : RunOperationalState}
    (along : CreatesUnresolvedAlong (front ++ back))
    (earlier : operationalRun none front = .ok (some state))
    (later : operationalRun (some state) back = .ok (some after)) : StatesKept state after := by
  induction back using List.reverseRecOn generalizing after with
  | nil =>
      obtain rfl : after = state := by simpa using later
      exact fun id resolution recorded => recorded
  | append_singleton back event ih =>
      rw [← List.append_assoc] at along
      obtain ⟨before, now⟩ := (each_after_concat_iff _ _ _).mp along
      obtain ⟨middle, first, reduced⟩ := run_concat_iff.mp later
      obtain ⟨reached, rfl⟩ := run_continues first
      have ran := (run_append_iff front back).mpr ⟨_, earlier, first⟩
      have step := views_step (names_sound ran) (views_agree_along before ran) (now reached ran) reduced
      exact fun id resolution recorded => step.2 id resolution (ih before first id resolution recorded)

/-- The two views of the tasks, in a state that `final` continues. -/
structure TaskViewsAgree (state final : RunOperationalState) : Prop where
  keys : ∀ id, id ∈ state.tasks.keys ↔ id ∈ state.execution.contracts.keys
  agree : ∀ id ∈ state.execution.contracts.keys, ∀ resolution,
    state.taskStates.get id = some resolution ↔
      state.execution.lifecycles.get id = some (.resolved resolution)
  kept : ∀ id resolution, state.taskStates.get id = some resolution →
    final.taskStates.get id = some resolution

/-- The views agree in every state of the runs that create no task under a recorded
resolution, and in no others. -/
theorem task_views_agree_iff {final : RunOperationalState}
    (ran : operationalRun none events = .ok (some final)) :
    (∀ front back state, events = front ++ back → operationalRun none front = .ok (some state) →
      TaskViewsAgree state final) ↔ CreatesUnresolvedAlong events := by
  constructor
  · rintro views front event back rfl before reached id creates
    cases recorded : before.taskStates.get id with
    | none => rfl
    | some resolution =>
        rw [List.append_cons] at ran views
        obtain ⟨_, next, _⟩ := (run_append_iff (front ++ [event]) back).mp ran
        obtain ⟨_, first, last⟩ := (run_append_iff front [event]).mp next
        obtain rfl := Except.ok.inj (reached.symm.trans first)
        obtain ⟨after, reduced, same⟩ := run_cons_iff.mp last
        obtain rfl := run_nil_iff.mp same
        exact absurd (views (front ++ [event]) back after rfl next).agree
          (stale_disagrees creates recorded reduced)
  · rintro along front back state rfl reached
    obtain ⟨_, first, later⟩ := (run_append_iff front back).mp ran
    obtain rfl := Except.ok.inj (reached.symm.trans first)
    have earlier : CreatesUnresolvedAlong front := by
      rintro before event rest rfl
      exact along before event (rest ++ back) (by simp)
    exact ⟨(names_sound reached).keys, views_agree_along earlier reached,
      states_kept_along along reached later⟩

end Runs

section Recorded

attribute [local instance] recordedEngine

def taskEvent (sequence : Nat) (payload : RunOperationalPayload) : RunOperationalEvent :=
  ⟨sequence, js "w", js "r", payload⟩

/-- A resolution recorded before its task is created is shown beside a draft. -/
theorem stale_resolution_shown : ∃ state,
    operationalRun none [taskEvent 1 .runCreatedV1,
      taskEvent 2 (.taskResolvedV1 (js "t") .succeeded),
      taskEvent 3 (.taskCreatedV1 (js "t") (js "title"))] = .ok (some state) ∧
    js "t" ∈ state.execution.contracts.keys ∧
    state.taskStates.get (js "t") = some .succeeded ∧
    state.execution.lifecycles.get (js "t") = some .draft ∧ ¬ ViewsAgree state := by
  have stale : ∃ state, operationalRun none [taskEvent 1 .runCreatedV1,
      taskEvent 2 (.taskResolvedV1 (js "t") .succeeded),
      taskEvent 3 (.taskCreatedV1 (js "t") (js "title"))] = .ok (some state) ∧
      js "t" ∈ state.execution.contracts.keys ∧
      state.taskStates.get (js "t") = some .succeeded ∧
      state.execution.lifecycles.get (js "t") = some .draft :=
    ⟨_, rfl, by decide, rfl, rfl⟩
  obtain ⟨state, ran, inside, shown, draft⟩ := stale
  refine ⟨state, ran, inside, shown, draft, fun agree => ?_⟩
  have resolved := (agree _ inside .succeeded).mp shown
  rw [draft] at resolved
  cases resolved

def resolvedTask : List RunOperationalEvent :=
  [taskEvent 1 .runCreatedV1, taskEvent 2 (.taskCreatedV1 (js "t") (js "title")),
    taskEvent 3 (.taskResolvedV1 (js "t") .succeeded)]

/-- A task that is created and then resolved is shown as its lifecycle has it. -/
theorem resolved_task_agrees : ∃ final, operationalRun none resolvedTask = .ok (some final) ∧
    final.taskStates.get (js "t") = some .succeeded ∧ TaskViewsAgree final final := by
  have recorded : ∃ final, operationalRun none resolvedTask = .ok (some final) ∧
      final.taskStates.get (js "t") = some .succeeded := ⟨_, rfl, rfl⟩
  obtain ⟨final, ran, shown⟩ := recorded
  refine ⟨final, ran, shown, ?_⟩
  apply (task_views_agree_iff ran).mpr _ resolvedTask [] final (by simp) ran
  have first : CreatesUnresolvedAlong [] := each_after_nil _
  have second := (each_after_concat_iff _ [] (taskEvent 1 .runCreatedV1)).mpr
    ⟨first, fun before reached id creates => nomatch creates⟩
  have third := (each_after_concat_iff _ _ (taskEvent 2 (.taskCreatedV1 (js "t") (js "title")))).mpr
    ⟨second, fun before reached id creates => by
      obtain rfl := Option.some.inj (Except.ok.inj reached)
      rfl⟩
  exact (each_after_concat_iff _ _ (taskEvent 3 (.taskResolvedV1 (js "t") .succeeded))).mpr
    ⟨third, fun before reached id creates => nomatch creates⟩

end Recorded

end Horseness.TaskViews
