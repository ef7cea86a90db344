import Horseness.ClientRetries
import Horseness.ServiceRuns
import Horseness.TaskGraphs
import Horseness.AdmissionCommits
import Horseness.WorkspaceBootstrap

/-!
Histories of the whole program. Whatever an operation does to the store, it does by appends, recorded
answers and new runs, of events that only the task execution, the admissions and the creation of
runs put out. So the projections that the store holds are those that the task reducer reaches.
-/

namespace Horseness.ServiceHistories

open FallibleRuns Records ScriptText JsonValues PlainObjects ScriptEngine Canonical Cursors Tasks
  TaskPlans AttemptReceipts ExecutionEvents Execution ExecutionSteps EventPayloads EventChains
  Replay ReplaySteps Scheduling TaskViews Turns ExecutionStore ServiceViews ServiceCommands
  ServiceWorkflows ServiceRequests ServiceSteps ServiceRuns ClientRetries

section Writing

variable [Engine] {store after : Store} {current : AuthorityStateExpectationV1 → Bool}
  {runId commandId principalId : JsString} {request : AppendRequest}
  {events : List HashedEventEnvelopeV1} {stream longer : RunStream}

def ProgramPayload : RunEventPayloadV1 → Prop
  | .runCreatedV1 .. | .taskExecution _ => True
  | payload => AdmissionPayload payload

def ProgramEvent (item : HashedEventEnvelopeV1) : Prop :=
  ∀ payload, item.envelope.payload = .run payload → ProgramPayload payload

def OwnLogs (store : Store) : Prop :=
  ∀ runId stream, store.runs.get runId = some stream → ∀ item ∈ stream.events, ProgramEvent item

/-- By steps of the store, which keep the logs the program's own. -/
def Moved (store after : Store) : Prop := Later store after ∧ (OwnLogs store → OwnLogs after)

theorem moved_trans {first second third : Store} (one : Moved first second)
    (two : Moved second third) : Moved first third :=
  ⟨one.1.trans two.1, two.2 ∘ one.2⟩

theorem moved_refl (store : Store) : Moved store store := ⟨.refl, id⟩

theorem logs_written (own : OwnLogs store) (old : ∀ item ∈ stream.events, ProgramEvent item)
    (new : ∀ item ∈ events, ProgramEvent item) (grown : longer.events = stream.events ++ events) :
    ∀ other kept, (store.runs.set runId longer).get other = some kept →
      ∀ item ∈ kept.events, ProgramEvent item := by
  intro other kept found
  rw [Record.get_set] at found
  split at found
  · obtain rfl := Option.some.inj found
    rw [grown]
    exact fun item member => (List.mem_append.mp member).elim (old item) (new item)
  · exact own other kept found

/-- An append that is written extends the stream that it expected. -/
theorem append_writes
    (written : appendAtomic store current runId request events = .ok (some after)) :
    ∃ stream longer, store.runs.get runId = some stream ∧
      stream.head = some ⟨request.expectedSequence, request.expectedEnvelopeHash⟩ ∧
      longer.events = stream.events ++ events ∧ after = { store with
        runs := store.runs.set runId longer
        commands := store.commands ++ [⟨runId, request.commandId, .append request,
          .append request.clientRequestDigest longer.head⟩] } := by
  unfold appendAtomic at written
  split at written
  · simp only [bind_ok_iff, ensure_ok_iff, pure_ok_iff] at written
    obtain ⟨_, _, impossible⟩ := written
    cases impossible
  · simp only [writeAppend, bind_ok_iff, required_ok_iff, ensure_ok_iff, map_error_ok_iff,
      extend_ok_iff, pure_ok_iff] at written
    obtain ⟨_, _, longer, ⟨stream, found, _, expected, _, _, grown⟩, same⟩ := written
    exact ⟨stream, longer, found, expected, grown, (Option.some.inj same).symm⟩

theorem append_moved
    (written : appendAtomic store current runId request events = .ok (some after))
    (kinds : ∀ item ∈ events, ProgramEvent item) : Moved store after := by
  refine ⟨.single (.appended current runId request events written), fun own => ?_⟩
  obtain ⟨stream, longer, found, -, grown, rfl⟩ := append_writes written
  exact logs_written own (own runId stream found) kinds grown

theorem record_moved {requestDigest : JsString}
    {observed : Option (CompositeCursorV1 × AuthorityStateExpectationV1)} {result : CommandResult}
    (written : recordCommandResult store current runId commandId requestDigest observed result =
      .ok (some after)) : Moved store after := by
  refine ⟨.single (.recorded current runId commandId requestDigest observed result written), ?_⟩
  simp only [recordCommandResult, bind_ok_iff] at written
  obtain ⟨previous, _, written⟩ := written
  split at written
  · cases (pure_ok_iff _ _).mp written
  · simp only [bind_ok_iff, pure_ok_iff] at written
    obtain ⟨_, _, same⟩ := written
    obtain rfl := Option.some.inj same
    exact id

theorem sealed_payload {envelope : EventEnvelopeV1} {item : HashedEventEnvelopeV1}
    (sealed : sealEventEnvelope envelope = .ok item) : item.envelope.payload = envelope.payload := by
  simp only [sealEventEnvelope, bind_ok_iff, pure_ok_iff] at sealed
  obtain ⟨_, -, _, -, rfl⟩ := sealed
  rfl

/-- A created run has one event, and the store knew nothing of it. -/
theorem create_writes {ledger left : Ledger} {cursor : AbsentRunGenesisCursorV1}
    {initialDocument : JsValue}
    (answered : outcome (runCreate cursor initialDocument principalId commandId) ledger =
      (.ok (), left)) : left.store = ledger.store ∨ ∃ event stream request,
        ¬ Store.mentions ledger.store cursor.runId ∧ ProgramEvent event ∧ stream.events = [event] ∧
        left.store = { ledger.store with
          runs := ledger.store.runs.set cursor.runId stream
          commands := ledger.store.commands ++ [⟨cursor.runId, commandId,
            .genesis cursor request, .append none stream.head⟩] } := by
  simp only [runCreate, bind_answers_iff, ask_answers_iff, stored_answers_iff] at answered
  obtain ⟨event, _, ⟨made, rfl⟩, store, _, ⟨rfl, rfl⟩, answered⟩ := answered
  split at answered
  · obtain ⟨-, rfl⟩ := check_answers_iff.mp answered
    exact Or.inl rfl
  · simp only [bind_answers_iff, ask_answers_iff, check_answers_iff, ensure_ok_iff, commit_answers_iff]
      at answered
    obtain ⟨_, _, ⟨_, rfl⟩, _, _, ⟨unknown, rfl⟩, _, _, ⟨_, rfl⟩, stream, _, ⟨begun, rfl⟩, rfl⟩ := answered
    refine Or.inr ⟨event, stream, event.envelopeHash, unknown, ?_, ?_, rfl⟩
    · intro payload same
      rw [sealed_payload made] at same
      exact DomainEventPayloadV1.run.inj same ▸ trivial
    · unfold beginStream at begun
      split at begun
      · obtain rfl := Except.ok.inj begun
        rfl
      · cases begun

theorem sealed_kinds {workspaceId : JsString}
    (payloads : List RunEventPayloadV1) (kinds : ∀ payload ∈ payloads, ProgramPayload payload) :
    ∀ (index sequence : Nat) (prior : JsString) (events : List HashedEventEnvelopeV1),
      sealEvents workspaceId runId commandId principalId index sequence prior payloads = .ok events →
      ∀ item ∈ events, ProgramEvent item := by
  induction payloads with
  | nil =>
      intro index sequence prior events done
      obtain rfl := Except.ok.inj done
      exact fun item member => absurd member List.not_mem_nil
  | cons payload rest ih =>
      intro index sequence prior events done
      simp only [sealEvents, bind_ok_iff, pure_ok_iff] at done
      obtain ⟨eventId, -, event, sealed, later, more, rfl⟩ := done
      rw [List.forall_mem_cons] at kinds ⊢
      refine ⟨?_, ih kinds.2 _ _ _ _ more⟩
      intro own same
      rw [sealed_payload sealed] at same
      exact DomainEventPayloadV1.run.inj same ▸ kinds.1

end Writing

section Sections

variable [Engine] {Result Other : Type} (w : Surroundings)

/-- However the section ends, it has moved the store by steps of the store. -/
def Moves (turn : Section Result) : Prop :=
  Keeps (fun ledger after => Moved ledger.store after.store) (fun _ => True) turn fun _ _ => True

instance : Std.Refl fun ledger after : Ledger => Moved ledger.store after.store :=
  ⟨fun ledger => moved_refl ledger.store⟩

instance : IsTrans Ledger fun ledger after => Moved ledger.store after.store :=
  ⟨fun _ _ _ => moved_trans⟩

theorem moves_pure (result : Result) : Moves (pure result) := keeps_pure fun _ _ => trivial

theorem moves_check (checked : Except Failure Result) : Moves (check checked) :=
  keeps_check fun _ _ _ _ => trivial

theorem moves_ask (checked : Except DomainError Result) : Moves (ask checked) := moves_check _

theorem moves_bind {first : Section Result} {next : Result → Section Other} (one : Moves first)
    (two : ∀ result, Moves (next result)) : Moves (first >>= next) := keeps_bind one two

theorem moves_catch {turn : Section Result} {handler : Failure → Section Result}
    (tried : Moves turn) (handled : ∀ failure, Moves (handler failure)) :
    Moves (tryCatch turn handler) := keeps_catch tried (fun _ _ => trivial) handled

theorem moves_throw (failure : Failure) : Moves (throw failure : Section Result) := moves_check _

theorem moves_read : Moves stored := keeps_still (fun _ => rfl) fun _ _ _ _ => trivial

theorem moves_viewed (runId : JsString) : Moves (viewed runId) :=
  moves_bind moves_read fun _ => moves_ask _

theorem moves_ite {condition : Prop} [Decidable condition] {yes no : Section Result}
    (one : Moves yes) (two : Moves no) : Moves (if condition then yes else no) := by
  split
  · exact one
  · exact two

theorem moves_each {Item : Type} {turn : Item → Section Unit} (each : ∀ item, Moves (turn item)) :
    (items : List Item) → Moves (items.forM turn)
  | [] => moves_pure ()
  | item :: rest => moves_bind (each item) fun _ => moves_each each rest

-- What is committed was made of the store that the section read.
theorem moves_stored {next : Store → Section Result}
    (commits : ∀ store, Keeps (fun ledger after => Moved ledger.store after.store)
      (fun ledger => ledger.store = store) (next store) fun _ _ => True) :
    Moves (stored >>= next) :=
  keeps_bind (m := fun store ledger => ledger.store = store)
    (keeps_still (fun _ => rfl) fun _ _ _ answered =>
      (stored_answers_iff.mp (Prod.ext answered rfl)).1) commits

theorem Moves.weaken {turn : Section Result} {before : Ledger → Prop} (moves : Moves turn) :
    Keeps (fun ledger after => Moved ledger.store after.store) before turn fun _ _ => True :=
  fun ledger _ => moves ledger trivial

theorem moves_emit (emission : Emission) : Moves (emit emission) :=
  keeps_modify fun ledger _ => ⟨moved_refl ledger.store, trivial⟩

theorem moves_commit {store next : Store} (moved : Moved store next) :
    Keeps (fun ledger after => Moved ledger.store after.store) (fun ledger => ledger.store = store)
      (commit next) fun _ _ => True := by
  refine keeps_modify fun ledger same => ⟨?_, trivial⟩
  subst same
  exact moved

def Still (turn : Section Result) : Prop :=
  ∀ ledger failure, (outcome turn ledger).1 = .error failure → (outcome turn ledger).2 = ledger

theorem still_bind {first : Section Result} {next : Result → Section Other}
    (reads : ∀ ledger, (outcome first ledger).2 = ledger) (rest : ∀ result, Still (next result)) :
    Still (first >>= next) := by
  intro ledger failure failed
  have same := reads ledger
  rw [outcome_bind] at failed ⊢
  cases shape : outcome first ledger with
  | mk answer middle =>
      rw [shape] at failed same
      obtain rfl : middle = ledger := same
      cases answer with
      | error code => rfl
      | ok result => exact rest result middle failure failed

end Sections

section Operations

variable [Engine] {Result : Type} (w : Surroundings)

theorem moves_append (view : ExecutionView) (payloads : List RunEventPayloadV1)
    (command : AppendCommand) (kinds : ∀ payload ∈ payloads, ProgramPayload payload) :
    Moves (append w view payloads command) := by
  unfold append
  refine keeps_bind (m := fun events _ => ∀ item ∈ events, ProgramEvent item)
    (keeps_check fun _ events _ sealed => ?_) fun events ledger known => ?_
  · exact sealed_kinds payloads kinds _ _ _ _ ((map_error_ok_iff _ _ _).mp sealed)
  · refine (?_ : Moves _) ledger trivial
    refine moves_bind (moves_ask _) fun last => moves_bind (moves_ask _) fun _ =>
      moves_bind (moves_check _) fun _ => moves_stored fun store => ?_
    split
    · refine Moves.weaken ?_
      split
      · exact moves_bind (moves_emit _) fun _ => moves_throw _
      · exact moves_throw _
    · exact (moves_pure _).weaken
    · next written =>
        exact keeps_bind (moves_commit (append_moved written known)) fun _ => moves_pure _

theorem execution_kinds (view : ExecutionView) (payloads : List TaskExecutionPayloadV1) :
    ∀ payload ∈ payloads.map (execution view), ProgramPayload payload := by
  intro payload member
  obtain ⟨_, -, rfl⟩ := List.mem_map.mp member
  exact trivial

theorem moves_event (view : ExecutionView) (payload : TaskExecutionPayloadV1)
    (command : AppendCommand) : Moves (append w view [execution view payload] command) :=
  moves_append w view _ command (execution_kinds view [payload])

theorem moves_two (view : ExecutionView) (one two : TaskExecutionPayloadV1) (command : AppendCommand) :
    Moves (append w view [execution view one, execution view two] command) :=
  moves_append w view _ command (execution_kinds view [one, two])

theorem moves_three (view : ExecutionView) (one two three : TaskExecutionPayloadV1)
    (command : AppendCommand) :
    Moves (append w view [execution view one, execution view two, execution view three] command) :=
  moves_append w view _ command (execution_kinds view [one, two, three])

theorem moves_noop (view : ExecutionView) (input : Mutation)
    (expectation : AuthorityStateExpectationV1) : Moves (commitNoop w view input expectation) := by
  refine moves_stored fun store => ?_
  refine keeps_bind (m := fun next ledger => ledger.store = store ∧
    recordCommandResult store w.current view.cursor.runId input.operationId input.requestDigest
      (some (view.cursor, expectation)) (.append (some input.requestDigest)
        (some ⟨view.cursor.runSequence, view.cursor.runEnvelopeHash⟩)) = .ok next)
    (keeps_check fun _ _ same checked => ⟨same, checked⟩) fun next ledger known => ?_
  obtain ⟨same, written⟩ := known
  cases next with
  | none => exact moves_pure _ ledger trivial
  | some after =>
      exact keeps_bind (moves_commit (record_moved written)) (fun _ => moves_pure _) ledger same

theorem moves_create (cursor : AbsentRunGenesisCursorV1) (initialDocument : JsValue)
    (principalId commandId : JsString) :
    Moves (runCreate cursor initialDocument principalId commandId) := by
  intro ledger _
  refine ⟨?_, fun _ _ => trivial⟩
  have still : Still (runCreate cursor initialDocument principalId commandId) := by
    refine still_bind (fun _ => rfl) fun event => still_bind (fun _ => rfl) fun store => ?_
    split
    · exact fun _ _ _ => rfl
    · exact still_bind (fun _ => rfl) fun _ => still_bind (fun _ => rfl) fun _ =>
        still_bind (fun _ => rfl) fun _ => still_bind (fun _ => rfl) fun _ => nofun
  cases shape : outcome (runCreate cursor initialDocument principalId commandId) ledger with
  | mk answer after =>
      cases answer with
      | error failure =>
          have same := still ledger failure (by rw [shape])
          rw [shape] at same
          exact same ▸ moved_refl _
      | ok done =>
          refine ⟨.single (.created cursor initialDocument principalId commandId shape), fun own => ?_⟩
          rcases create_writes shape with same | ⟨event, stream, request, -, known, events, same⟩
          · exact same ▸ own
          · rw [same]
            intro other kept found
            rw [Record.get_set] at found
            split at found
            · obtain rfl := Option.some.inj found
              exact events ▸ List.forall_mem_singleton.mpr known
            · exact own other kept found

theorem moves_resolve (runId taskId : JsString) (cancelled : Bool) :
    Moves (resolveTaskResult w runId taskId cancelled) := by
  refine moves_bind (moves_viewed _) fun view => ?_
  split
  · exact moves_pure _
  · refine moves_bind (moves_ask _) fun attempts => moves_bind (moves_ask _) fun _ =>
      moves_bind (moves_ask _) fun resolution => ?_
    cases resolution with
    | none => exact moves_pure _
    | some resolution =>
        exact moves_bind (moves_each (fun _ => moves_check _) _) fun _ =>
          moves_bind (moves_event w _ _ _) fun _ => moves_pure _

theorem moves_retain (process : Process) (taskId : JsString)
    (authorization : TaskWorkflowAuthorizationV1) (view : ExecutionView) :
    Moves (prepare.prepareOrRetain w process authorization taskId view) := by
  refine moves_bind (moves_ask _) fun attempts => ?_
  split
  · exact moves_ask _
  · unfold prepareFirst
    repeat' with_reducible first
      | exact moves_ask _ | exact moves_check _ | exact moves_pure _ | exact moves_event w _ _ _
      | apply moves_bind | intro _

theorem moves_task (input : TaskCreation) : Moves (taskCreate w input) := by
  unfold taskCreate
  refine moves_bind (moves_check _) fun _ => moves_bind (moves_ask _) fun _ =>
    moves_bind (moves_check _) fun _ => moves_bind (moves_viewed _) fun view =>
    moves_bind (moves_check _) fun _ => moves_bind (moves_ask _) fun eventId => ?_
  refine keeps_bind (m := fun event _ => ProgramEvent event)
    (keeps_check fun _ event _ sealed => ?_) fun event ledger known => ?_
  · intro payload same
    rw [sealed_payload ((map_error_ok_iff _ _ _).mp sealed)] at same
    exact DomainEventPayloadV1.run.inj same ▸ trivial
  · refine (moves_stored fun store => ?_) ledger trivial
    refine keeps_bind (m := fun next ledger => ledger.store = store ∧
      ∀ after, next = some after → Moved store after)
      (keeps_check fun _ next same written => ⟨same, ?_⟩) fun next ledger given => ?_
    · rintro after rfl
      exact append_moved written (List.forall_mem_singleton.mpr known)
    · cases next with
      | none => exact moves_pure () ledger trivial
      | some after => exact moves_commit (given.2 after rfl) ledger given.1

/-- Every operation is made of checks and reads, of appends and of recorded answers. -/
theorem operation_moves {turn : Section Result} (operation : Operation Result turn) : Moves turn := by
  cases operation
  case runCreate => exact moves_create _ _ _ _
  case taskCreate w input => exact moves_task w input
  case pump w runId =>
    refine moves_bind (moves_viewed _) fun _ => moves_bind (moves_each (fun entry => ?_) _) fun _ =>
      moves_bind (moves_viewed _) fun _ => moves_pure _
    exact moves_bind (moves_ask _) fun attempts => moves_ite (moves_resolve w _ _ _) (moves_pure ())
  case attempt w view payload about command => exact moves_event w view payload command
  all_goals
    simp only [completeStart, adopt, revisePlan, cancelTask, recoveredMutationCursor, workflowRound,
      startAutomaticPlanner, finishPlan, prepare, plannedRound, adoptAutomaticPlan, failedRound,
      stopWorkflow, submitReceipt, transition]
    repeat' with_reducible first
      | exact moves_ask _ | exact moves_check _ | exact moves_viewed _ | exact moves_pure _
      | exact moves_read | exact moves_throw _ | exact moves_noop _ _ _ _
      | exact moves_retain _ _ _ _ _ | exact moves_resolve _ _ _ _ | exact moves_event _ _ _ _
      | exact moves_append _ _ _ _ (execution_kinds _ _)
      | exact moves_two _ _ _ _ _ | exact moves_three _ _ _ _ _ _
      | apply moves_catch | apply moves_bind | apply moves_ite | intro _ | split

theorem service_moved {store after : Store} (step : ServiceStep store after) : Moved store after := by
  cases step with
  | operated turn operation ledger => exact (operation_moves operation ledger trivial).1
  | admitted current runId request events filled kinds written =>
      refine append_moved written fun item member payload same => ?_
      have kind := kinds item member payload same
      cases payload <;> first | exact trivial | exact kind
  | recorded current runId commandId requestDigest observed result written =>
      exact record_moved written
  | beside _ workspace verified consumed issuances =>
      exact ⟨.single (.beside store workspace consumed issuances), id⟩

theorem history_moved {store after : Store} (run : Relation.ReflTransGen ServiceStep store after) :
    Moved store after := by
  induction run with
  | refl => exact moved_refl store
  | tail _ step ih => exact moved_trans ih (service_moved step)

end Operations

section Projections

variable [Engine] {before after : ReplayResult} {item : HashedEventEnvelopeV1}

-- An event of the program is one of the task reducer, or leaves its projection alone.
theorem continues_reaches (continues : Continues before item after) (own : ProgramEvent item) :
    Reaches executionStep (fun _ _ => True) before.operational.execution
      after.operational.execution := by
  obtain ⟨payload, read, reduced⟩ := continues.payload
  have legacy : (∀ taskId title, payload ≠ .taskCreatedV1 taskId title) ∧
      ∀ taskId resolution, payload ≠ .taskResolvedV1 taskId resolution := by
    cases stored : item.envelope.payload with
    | workspace event =>
        rw [stored] at read
        cases read
    | run event =>
        have kind := own event stored
        rw [stored] at read
        cases event <;> first
          | exact absurd kind id
          | (simp only [operationalPayload, bind_ok_iff, pure_ok_iff] at read; grind)
  cases task_operation reduced with
  | untouched _ silent execution tasks taskStates => exact execution ▸ .start
  | execution payload accepted tasks taskStates => exact .next (_, _) .start trivial accepted
  | created taskId title => exact absurd rfl (legacy.1 taskId title)
  | resolved taskId resolution => exact absurd rfl (legacy.2 taskId resolution)

theorem stream_reachable {stream : RunStream} (own : ∀ item ∈ stream.events, ProgramEvent item) :
    Reachable stream.replay.operational.execution := by
  refine replay_induction (motive := fun events result => (∀ item ∈ events, ProgramEvent item) →
    Reachable result.operational.execution) ?_ ?_ stream.replayed own
  · intro item result begins _
    rw [begins.operational]
    exact .start
  · intro front item before after _ continues ih own
    exact reaches_trans (ih fun other member => own other (List.mem_append_left _ member))
      (continues_reaches continues (own item (by simp)))

theorem stream_reaches {stream longer : RunStream} {added : List HashedEventEnvelopeV1}
    (grown : longer.events = stream.events ++ added) (own : ∀ item ∈ added, ProgramEvent item) :
    Reaches executionStep (fun _ _ => True) stream.replay.operational.execution
      longer.replay.operational.execution := by
  have replayed := longer.replayed
  rw [grown] at replayed
  generalize longer.replay = result at replayed ⊢
  clear grown
  induction added using List.reverseRecOn generalizing result with
  | nil =>
      rw [List.append_nil] at replayed
      obtain rfl := Except.ok.inj (stream.replayed.symm.trans replayed)
      exact .start
  | append_singleton added item ih =>
      rw [← List.append_assoc] at replayed
      have filled : stream.events ++ added ≠ [] :=
        fun empty => stream_filled stream (List.append_eq_nil_iff.mp empty).1
      obtain ⟨before, earlier, continues⟩ := replay_front filled replayed
      exact reaches_trans (ih (fun other member => own other (List.mem_append_left _ member)) before
        earlier) (continues_reaches continues (own item (by simp)))

end Projections

section Records

variable [Engine] {s after : TaskExecutionProjectionV1}

/-- What is recorded and not taken back: contracts, attempts and the joins they were prepared on,
receipts, plans, resolutions, and how workflows ended. -/
structure Lasting (s later : TaskExecutionProjectionV1) : Prop where
  contracts : ContractsKept s later
  joins : JoinsKept s later
  receipts : ∀ key r, s.receipts.get key = some r → later.receipts.get key = some r
  plans : PlansKept s later
  resolved : ∀ id resolution, s.lifecycles.get id = some (.resolved resolution) →
    later.lifecycles.get id = some (.resolved resolution)
  ended : ∀ id item, s.workflows.get id = some item → item.state ≠ .running →
    later.workflows.get id = some item

omit [Engine] in
theorem Lasting.refl (s : TaskExecutionProjectionV1) : Lasting s s :=
  ⟨fun _ _ found => found, .refl s, fun _ _ found => found, plans_same rfl rfl,
    fun _ _ found => found, fun _ _ found _ => found⟩

omit [Engine] in
theorem Lasting.trans {middle : TaskExecutionProjectionV1} (one : Lasting s middle)
    (two : Lasting middle after) : Lasting s after where
  contracts id contract found := two.contracts id contract (one.contracts id contract found)
  joins := one.joins.trans two.joins
  receipts key r found := two.receipts key r (one.receipts key r found)
  plans := one.plans.trans two.plans
  resolved id resolution found := two.resolved id resolution (one.resolved id resolution found)
  ended id item found past := two.ended id item (one.ended id item found past) past

def WorkflowWritten (s after : TaskExecutionProjectionV1) : Prop :=
  ∃ key record, after.workflows = s.workflows.set key record ∧
    ((s.workflows.get key = none ∧ record.authorization.workflowId = key) ∨
      ∃ old, s.workflows.get key = some old ∧ old.state = .running ∧
        record.authorization.workflowId = old.authorization.workflowId)

/-- What an event does to the receipts and the workflows. -/
structure RecordsStep (s after : TaskExecutionProjectionV1) : Prop where
  receipts : ∀ key r, s.receipts.get key = some r → after.receipts.get key = some r
  workflows : after.workflows = s.workflows ∨ WorkflowWritten s after

omit [Engine] in
theorem records_same (receipts : after.receipts = s.receipts) (workflows : after.workflows = s.workflows) :
    RecordsStep s after := ⟨fun _ _ found => receipts ▸ found, Or.inl workflows⟩

theorem records_step {event : TaskExecutionEventV1} {sequence : Nat}
    (accepted : reduceTaskExecutionV1 s event sequence = .ok after) : RecordsStep s after := by
  have framed (frame : SamePlanFrame s after) : RecordsStep s after :=
    records_same frame.receipts frame.workflows
  obtain ⟨-, accepted⟩ := check_ok_iff.mp accepted
  cases payload : event.payload <;> rw [payload] at accepted
  case taskWorkflowStartedV1 authorization =>
    obtain ⟨fresh, -, rfl⟩ := started_ok accepted
    exact ⟨fun _ _ found => found, Or.inr ⟨_, _, rfl, Or.inl ⟨absent_get fresh, rfl⟩⟩⟩
  case taskWorkflowPlanBoundV1 workflowId planDigest graphDigest =>
    obtain ⟨old, stored, running, -, -, rfl⟩ := plan_bound_ok accepted
    exact ⟨fun _ _ found => found, Or.inr ⟨_, _, rfl, Or.inr ⟨old, stored, running, rfl⟩⟩⟩
  case taskWorkflowStoppedV1 workflowId ended reasonCode =>
    obtain ⟨old, stored, running, rfl⟩ := stopped_ok accepted
    exact ⟨fun _ _ found => found, Or.inr ⟨_, _, rfl, Or.inr ⟨old, stored, running, rfl⟩⟩⟩
  case taskExecutionReceiptV1 attempt receipt =>
    obtain ⟨_, _, _, -, -, -, -, -, -, -, ⟨rfl, -⟩ | ⟨unused, _, -, rfl⟩⟩ := receipt_ok accepted
    · exact records_same rfl rfl
    · refine ⟨fun key r found => (Record.get_set_other _ _ ?_).trans found, Or.inl rfl⟩
      rintro rfl
      exact Option.some_ne_none r (found.symm.trans unused)
  case taskPlanProposedV1 plannerTaskId plan => exact framed (proposed_frame accepted)
  case taskPlanRevisedV1 basePlanDigest plan => exact framed (revised_frame accepted)
  case taskPlanRejectedV1 taskId plannerTaskId reasonCode => exact framed (rejected_frame accepted)
  case taskPlanAdoptedV1 taskId planDigest =>
    obtain rfl | ⟨_, _, _, -, -, -, -, -, added, -, rfl⟩ := adopted_ok accepted
    · exact records_same rfl rfl
    · exact records_same (add_contracts_frame _ added).receipts (add_contracts_fresh _ added).2.1
  case taskCreatedV2 contract =>
    obtain ⟨-, rfl⟩ := (add_contract_ok_iff contract).mp accepted
    exact records_same rfl rfl
  case taskActivatedV1 taskId =>
    obtain ⟨-, rfl⟩ := activated_ok accepted
    exact records_same rfl rfl
  case dependencyAddedV1 edge =>
    obtain ⟨-, -, -, rfl⟩ := dependency_added_ok accepted
    exact records_same rfl rfl
  case taskExecutionPreparedV1 prepared =>
    obtain ⟨-, -, -, -, -, -, _, _, -, rfl⟩ := prepared_ok accepted
    exact records_same rfl rfl
  case taskExecutionTransitionV1 attempt input =>
    obtain ⟨_, _, _, -, -, -, -, -, rfl⟩ := transition_ok accepted
    exact records_same rfl rfl
  case taskExecutionAbortedV1 attempt reasonCode clock =>
    obtain ⟨_, _, -, -, -, -, rfl⟩ := aborted_ok accepted
    exact records_same rfl rfl
  case taskResolvedV2 resolution clock =>
    obtain ⟨_, _, -, -, -, -, rfl⟩ := resolved_ok accepted
    exact records_same rfl rfl

def Keyed (s : TaskExecutionProjectionV1) : Prop :=
  ∀ id item, s.workflows.get id = some item → item.authorization.workflowId = id

omit [Engine] in
theorem keyed_step (keyed : Keyed s) (written : after.workflows = s.workflows ∨ WorkflowWritten s after) :
    Keyed after := by
  intro id item found
  rcases written with same | ⟨key, record, same, cases'⟩
  · exact keyed id item (same ▸ found)
  · rw [same, Record.get_set] at found
    split at found
    · next hit =>
        obtain rfl := Option.some.inj found
        rcases cases' with ⟨-, named⟩ | ⟨old, stored, -, kept⟩
        · exact hit ▸ named
        · exact kept.trans (hit ▸ keyed key old stored)
    · exact keyed id item found

omit [Engine] in
theorem ended_step (written : after.workflows = s.workflows ∨ WorkflowWritten s after) {id : JsString}
    {item : WorkflowRecord} (found : s.workflows.get id = some item) (past : item.state ≠ .running) :
    after.workflows.get id = some item := by
  rcases written with same | ⟨key, record, same, cases'⟩
  · exact same ▸ found
  · rw [same, Record.get_set_other, found]
    rintro rfl
    rcases cases' with ⟨missing, -⟩ | ⟨old, stored, running, -⟩
    · exact Option.some_ne_none item (found.symm.trans missing)
    · exact past (Option.some.inj (stored.symm.trans found) ▸ running)

theorem lasting_step (scheduled : Scheduled s) {event : TaskExecutionEventV1} {sequence : Nat}
    (accepted : reduceTaskExecutionV1 s event sequence = .ok after) : Lasting s after where
  contracts := (TaskGraphs.graph_grows (graph_effect accepted)).1
  joins := joins_kept_step scheduled accepted
  receipts := (records_step accepted).receipts
  plans := plans_step accepted
  resolved _ resolution found := by
    obtain ⟨next, stored, -, past⟩ := lifecycle_step scheduled accepted found
    exact past resolution rfl ▸ stored
  ended _ _ found past := ended_step (records_step accepted).workflows found past

theorem keyed_reachable (reached : Reachable s) : Keyed s :=
  reaches_invariant Keyed (by simp [Keyed, emptyTaskExecutionProjectionV1])
    (fun _ _ _ _ keyed _ accepted => keyed_step keyed (records_step accepted).workflows) reached

theorem lasting_run (reached : Reachable s)
    (run : Reaches executionStep (fun _ _ => True) s after) : Lasting s after := by
  refine (reaches_invariant (fun later => Scheduled later ∧ Lasting s later)
    ⟨scheduled_reachable reached, .refl s⟩ ?_ run).2
  rintro before input after - ⟨scheduled, lasting⟩ - accepted
  exact ⟨scheduled_step scheduled accepted, lasting.trans (lasting_step scheduled accepted)⟩

end Records

section Commands

/-- Where the events start that a command wrote, and the head that it answered. -/
def wrote : CommandRecord → Option (Nat × RunHead)
  | ⟨_, _, .append request, .append _ (some head)⟩ => some (request.expectedSequence, head)
  | ⟨_, _, .genesis _ _, .append _ (some head)⟩ => some (0, head)
  | _ => none

/-- The commands wrote the first events of a log, in their order and each where the one before
ended, and every head that was answered is in the log. -/
inductive Wrote (events : List HashedEventEnvelopeV1) : Nat → List CommandRecord → Prop
  | start : Wrote events 0 []
  | beside {count : Nat} {records : List CommandRecord} (record : CommandRecord)
      (before : Wrote events count records) (nothing : wrote record = none) :
      Wrote events count (records ++ [record])
  | next {count : Nat} {records : List CommandRecord} (record : CommandRecord) (head : RunHead)
      (before : Wrote events count records) (written : wrote record = some (count, head))
      (after : count ≤ head.sequence) (inside : head.sequence ≤ events.length)
      (answered : (events.take head.sequence).getLast?.map headOf = some head) :
      Wrote events head.sequence (records ++ [record])

theorem wrote_grown {events : List HashedEventEnvelopeV1} {count : Nat} {records : List CommandRecord}
    (written : Wrote events count records) (added : List HashedEventEnvelopeV1) :
    Wrote (events ++ added) count records := by
  induction written with
  | start => exact .start
  | beside record _ nothing ih => exact .beside record ih nothing
  | next record head _ written after inside answered ih =>
      refine .next record head ih written after (by rw [List.length_append]; omega) ?_
      rw [List.take_append_of_le_length inside]
      exact answered

def Writes (number : Nat) (record : CommandRecord) : Prop :=
  ∃ start head, wrote record = some (start, head) ∧ start < number ∧ number ≤ head.sequence

/-- One of the commands, and no other, wrote the event of this number. -/
def OneWrote (number : Nat) (records : List CommandRecord) : Prop :=
  ∃ front record back, records = front ++ record :: back ∧ Writes number record ∧
    ∀ other ∈ front ++ back, ¬ Writes number other

theorem one_wrote_kept {number : Nat} {records : List CommandRecord} {last : CommandRecord}
    (one : OneWrote number records) (silent : ¬ Writes number last) :
    OneWrote number (records ++ [last]) := by
  obtain ⟨front, record, back, rfl, writes, alone⟩ := one
  refine ⟨front, record, back ++ [last], by simp, writes, ?_⟩
  rw [← List.append_assoc, List.forall_mem_append]
  exact ⟨alone, List.forall_mem_singleton.mpr silent⟩

theorem wrote_once {events : List HashedEventEnvelopeV1} {count : Nat} {records : List CommandRecord}
    (written : Wrote events count records) :
    (∀ record ∈ records, ∀ number, Writes number record → number ≤ count) ∧
      ∀ number, 0 < number → number ≤ count → OneWrote number records := by
  induction written with
  | start => exact ⟨by simp, fun number positive none => by omega⟩
  | beside last before nothing ih =>
      have silent (number : Nat) : ¬ Writes number last := by simp [Writes, nothing]
      refine ⟨List.forall_mem_append.mpr ⟨ih.1, ?_⟩, fun number positive small =>
        one_wrote_kept (ih.2 number positive small) (silent number)⟩
      exact List.forall_mem_singleton.mpr fun number writes => absurd writes (silent number)
  | @next count records last head before written after inside answered ih =>
      have last_writes (number : Nat) : Writes number last ↔ count < number ∧ number ≤ head.sequence := by
        simp [Writes, written]
      refine ⟨List.forall_mem_append.mpr ⟨?_, ?_⟩, fun number positive small => ?_⟩
      · exact fun record member number writes => (ih.1 record member number writes).trans after
      · exact List.forall_mem_singleton.mpr fun number writes => ((last_writes number).mp writes).2
      · by_cases low : number ≤ count
        · refine one_wrote_kept (ih.2 number positive low) fun writes => ?_
          exact absurd ((last_writes number).mp writes).1 (by omega)
        · refine ⟨records, last, [], rfl, (last_writes number).mpr ⟨by omega, small⟩, ?_⟩
          intro other member writes
          rw [List.append_nil] at member
          exact low (ih.1 other member number writes)

variable [Engine]

/-- The events of a run, of which there are none before it is created. -/
def logOf (store : Store) (runId : JsString) : List HashedEventEnvelopeV1 :=
  ((store.runs.get runId).map RunStream.events).getD []

def commandsOf (store : Store) (runId : JsString) : List CommandRecord :=
  store.commands.filter fun record => record.runId = runId

/-- The commands that are recorded of a run wrote the whole of its log. -/
def Accounted (store : Store) : Prop :=
  ∀ runId, Wrote (logOf store runId) (logOf store runId).length (commandsOf store runId)

theorem head_number {stream : RunStream} {head : RunHead} (last : stream.head = some head) :
    head.sequence = stream.events.length := by
  obtain ⟨item, ends, rfl⟩ := Option.map_eq_some_iff.mp last
  obtain ⟨verified, -⟩ := replay_ok_iff.mp stream.replayed
  exact AdmissionCommits.last_number (AppendLog.verified_chained verified) ends

theorem step_accounted {store after : Store} (accounted : Accounted store)
    (step : StoreStep store after) : Accounted after := by
  -- a command that wrote nothing leaves every log
  have noted (record : CommandRecord) (nothing : wrote record = none) (runs : after.runs = store.runs)
      (commands : after.commands = store.commands ++ [record]) : Accounted after := by
    intro runId
    simp only [logOf, commandsOf, runs, commands, List.filter_append, List.filter_cons,
      List.filter_nil]
    split
    · exact .beside record (accounted runId) nothing
    · rw [List.append_nil]
      exact accounted runId
  -- a command that wrote to a run extends its log
  have extended (runId : JsString) (stream : RunStream) (added : List HashedEventEnvelopeV1)
      (record : CommandRecord) (head : RunHead) (own : record.runId = runId)
      (grown : stream.events = logOf store runId ++ added) (ends : stream.head = some head)
      (written : wrote record = some ((logOf store runId).length, head))
      (runs : after.runs = store.runs.set runId stream)
      (commands : after.commands = store.commands ++ [record]) : Accounted after := by
    intro other
    by_cases same : runId = other
    · subst same
      have number := head_number ends
      have log : logOf after runId = stream.events := by
        rw [logOf, runs, Record.get_set_same]
        rfl
      have listed : commandsOf after runId = commandsOf store runId ++ [record] := by
        simp [commandsOf, commands, own]
      rw [log, listed, ← number]
      refine .next record head (grown ▸ wrote_grown (accounted runId) added) written ?_ number.le ?_
      · rw [number, grown, List.length_append]
        exact Nat.le_add_right _ _
      · rw [number, List.take_length]
        exact ends
    · have log : logOf after other = logOf store other := by
        rw [logOf, runs, Record.get_set_other _ _ same]
        rfl
      have listed : commandsOf after other = commandsOf store other := by
        simp [commandsOf, commands, own, same]
      rw [log, listed]
      exact accounted other
  cases step with
  | appended current runId request events written =>
      obtain ⟨stream, longer, found, expected, grown, rfl⟩ := append_writes written
      have log : logOf store runId = stream.events := by rw [logOf, found]; rfl
      have ends : longer.head = some (headOf (longer.events.getLast (stream_filled longer))) := by
        rw [RunStream.head, List.getLast?_eq_some_getLast (stream_filled longer)]
        rfl
      refine extended runId longer events _ _ rfl (log ▸ grown) ends ?_ rfl rfl
      rw [ends, log, ← head_number expected]
      rfl
  | recorded current runId commandId requestDigest observed result written =>
      simp only [recordCommandResult, bind_ok_iff] at written
      obtain ⟨previous, _, written⟩ := written
      split at written
      · cases (pure_ok_iff _ _).mp written
      · simp only [bind_ok_iff, pure_ok_iff] at written
        obtain ⟨_, _, same⟩ := written
        obtain rfl := Option.some.inj same
        exact noted _ rfl rfl rfl
  | @created ledger _ cursor initialDocument principalId commandId answered =>
      rcases create_writes answered with same | ⟨event, stream, request, unknown, -, events, same⟩
      · exact same ▸ accounted
      · have missing : logOf ledger.store cursor.runId = [] := by
          cases found : ledger.store.runs.get cursor.runId with
          | none => rw [logOf, found]; rfl
          | some old => exact absurd (Or.inl (by rw [found]; rfl)) unknown
        refine extended cursor.runId stream [event] ⟨cursor.runId, commandId,
          .genesis cursor request, .append none stream.head⟩ (headOf event) rfl ?_ ?_ ?_ (by rw [same])
          (by rw [same])
        · rw [missing, events]
          rfl
        · rw [RunStream.head, events]
          rfl
        · rw [missing, RunStream.head, events]
          rfl
  | beside _ workspace consumed issuances => exact accounted

end Commands

section Histories

variable [Engine] {store after : Store}

theorem reached_own (reached : Reached store) : OwnLogs store := by
  obtain ⟨start, ⟨empty, -⟩, run⟩ := reached
  refine (history_moved run).2 fun runId stream found => ?_
  rw [empty] at found
  cases found

-- The store holds what the task reducer reaches, and later what it reaches from there.
theorem stream_later (reached : Reached store) (run : Relation.ReflTransGen ServiceStep store after)
    {runId : JsString} {stream : RunStream} (found : store.runs.get runId = some stream) :
    ∃ longer, after.runs.get runId = some longer ∧ stream.events <+: longer.events ∧
      Reachable longer.replay.operational.execution ∧
      Lasting stream.replay.operational.execution longer.replay.operational.execution := by
  have own := reached_own reached
  have moved := history_moved run
  obtain ⟨longer, added, there, grown⟩ := (later_extends moved.1).runs runId stream found
  have known := moved.2 own runId longer there
  refine ⟨longer, there, ⟨added, grown.symm⟩, stream_reachable known,
    lasting_run (stream_reachable (own runId stream found)) (stream_reaches grown fun item member => ?_)⟩
  exact known item (grown ▸ List.mem_append_right _ member)

/-- Nothing that a run's log records of its tasks is lost or changed by whatever the program does
next. -/
theorem records_last (reached : Reached store) (run : Relation.ReflTransGen ServiceStep store after) :
    ∀ runId stream, store.runs.get runId = some stream →
      ∃ longer, after.runs.get runId = some longer ∧ stream.events <+: longer.events ∧
        Lasting stream.replay.operational.execution longer.replay.operational.execution := by
  intro runId stream found
  obtain ⟨longer, there, grown, -, lasting⟩ := stream_later reached run found
  exact ⟨longer, there, grown, lasting⟩

/-- Every event of a run was written by one of its recorded commands, and the commands wrote
the log one after another. -/
theorem commands_wrote_logs (reached : Reached store) (runId : JsString) :
    Wrote (logOf store runId) (logOf store runId).length (commandsOf store runId) ∧
      ∀ number, 0 < number → number ≤ (logOf store runId).length →
        OneWrote number (commandsOf store runId) := by
  obtain ⟨start, ⟨empty, none, -⟩, run⟩ := reached
  have accounted : Accounted store := by
    have begun : Accounted start := by
      intro other
      rw [logOf, commandsOf, empty, none]
      exact .start
    have later := (history_moved run).1
    clear run
    induction later with
    | refl => exact begun
    | tail _ step ih => exact step_accounted ih step
  exact ⟨accounted runId, (wrote_once (accounted runId)).2⟩

end Histories

section Ended

variable [Engine] {store after : Store} {ledger : Ledger} {runId workflowId : JsString}
  {view : ExecutionView} {item : WorkflowRecord}

theorem authority_refused (w : Surroundings) {workspaceId : JsString} {a : TaskWorkflowAuthorizationV1}
    (found : view.state.workflows.get a.workflowId = some item) (past : item.state ≠ .running) :
    workflowAuthority w workspaceId view a = .error .workflowStopped := by
  unfold workflowAuthority
  rw [found]
  simp [required, ensure, past, bind, Except.bind]

/-- Driving the workflow does nothing to this ledger: a round is refused, and neither a finished
planner nor a failure has anything written. -/
structure Inert (ledger : Ledger) (runId workflowId : JsString) : Prop where
  round : ∀ w process view a, viewOf ledger.store runId = .ok view → a.workflowId = workflowId →
    outcome (workflowRound w process runId view a) ledger = (.error (.domain .workflowStopped), ledger)
  planned : ∀ w plannerId, (outcome (plannedRound w runId workflowId plannerId) ledger).2 = ledger
  failed : ∀ w stopping sessionsOpen failure,
    (outcome (failedRound w stopping sessionsOpen runId workflowId failure) ledger).2 = ledger

theorem ended_inert {stream : RunStream} (stored : ledger.store.runs.get runId = some stream)
    (keyed : Keyed stream.replay.operational.execution)
    (ended : stream.replay.operational.execution.workflows.get workflowId = some item)
    (past : item.state ≠ .running) : Inert ledger runId workflowId := by
  have known {view : ExecutionView} (seen : viewOf ledger.store runId = .ok view) :
      view.state.workflows.get workflowId = some item := by
    obtain ⟨there, -, -, -, same, -⟩ := view_stored seen
    obtain rfl := Option.some.inj (stored.symm.trans there)
    exact same ▸ ended
  have looked {Result : Type} {next : ExecutionView → Section Result}
      (rest : ∀ view, viewOf ledger.store runId = .ok view → (outcome (next view) ledger).2 = ledger) :
      (outcome (viewed runId >>= next) ledger).2 = ledger := by
    rw [outcome_bind, show outcome (viewed runId) ledger =
      ((viewOf ledger.store runId).mapError .domain, ledger) from rfl]
    cases seen : viewOf ledger.store runId with
    | error code => rfl
    | ok view => exact rest view seen
  refine ⟨?_, ?_, ?_⟩
  · rintro w process view a seen rfl
    rw [workflowRound, outcome_bind, ask, authority_refused w (known seen) past]
    rfl
  · refine fun w plannerId => looked fun view _ => ?_
    rw [outcome_bind, outcome_check]
    split
    · next answered =>
        obtain ⟨-, rfl⟩ := Prod.mk.inj answered
        refine looked fun view seen => ?_
        rw [known seen, outcome_bind, show outcome (ask (required (some item) .workflowStopped)) _ =
          (Except.ok item, _) from rfl]
        dsimp only
        rw [outcome_bind, ask, authority_refused w ((keyed workflowId item ended).symm ▸ known seen) past]
        rfl
    · next refused => exact (Prod.mk.inj refused).2.symm
  · intro w stopping sessionsOpen failure
    rw [failedRound]
    split
    · rfl
    · refine looked fun view seen => ?_
      rw [known seen]
      dsimp only
      rw [if_neg past]
      rfl

/-- A workflow that has ended stays as it ended, and whatever happens to the store, driving it does
nothing any more. -/
theorem ended_workflows_inert (reached : Reached store)
    (run : Relation.ReflTransGen ServiceStep store ledger.store) :
    ∀ runId stream workflowId item, store.runs.get runId = some stream →
      stream.replay.operational.execution.workflows.get workflowId = some item →
      item.state ≠ .running → (∃ longer, ledger.store.runs.get runId = some longer ∧
        longer.replay.operational.execution.workflows.get workflowId = some item) ∧
        Inert ledger runId workflowId := by
  intro runId stream workflowId item found ended past
  obtain ⟨longer, there, -, reachable, lasting⟩ := stream_later reached run found
  have still := lasting.ended workflowId item ended past
  exact ⟨⟨longer, there, still⟩, ended_inert there (keyed_reachable reachable) still past⟩

end Ended

section Driven

open RecordedRuns PinnedPolicies WorkspaceBootstrap

attribute [local instance] shortEngine

def driverSurroundings : Surroundings :=
  { steadySurroundings with
    observe := fun grantDigest => some ⟨⟨js "u", .operator, js "p", js "w", none, none, none, none, none,
      none, [.taskDispatch], secondLater, grantDigest⟩, ⟨js "grant", 1, js "s"⟩⟩
    checkPolicy := fun _ _ _ => .ok ⟨js "d", js "t", js "q"⟩ }

def foundedHead : Except DomainError WorkspaceHead := do
  let event ← createWorkspaceGenesis (js "w") (js "u") (js "g") (js "m") (js "d")
    (js "b")
  let state ← deterministicWorkspaceReplay [event]
  return ⟨event.envelope.sequence, event.envelopeHash, [event.envelope.eventId], state⟩

def founded (head : WorkspaceHead) : Ledger := ⟨⟨js "w", head, .empty, [], [], .empty⟩, []⟩

def opened (head : WorkspaceHead) : Ledger :=
  (outcome (runCreate ⟨js "w", head.sequence, head.envelopeHash, head.sequence - 1, js "r"⟩ (object [])
    (js "u") (js "c")) (founded head)).2

def tasked (head : WorkspaceHead) : Ledger :=
  (outcome (taskCreate driverSurroundings ⟨js "o1", cursorOf (opened head) (js "r"), js "u",
    sampleTask (js "t")⟩) (opened head)).2

def driven (head : WorkspaceHead) : Ledger :=
  (outcome (completeStart driverSurroundings false ⟨.dispatch, js "o2", js "d",
      cursorOf (tasked head) (js "r"), js "t", ⟨js "u", js "g"⟩, .pi, none, none, false, none⟩
    (sampleTask (js "t")) sampleProfile none) (tasked head)).2

def drivenId : JsString :=
  match workflowIdOf (js "w") (js "r") (js "o2") with
  | .ok workflowId => workflowId
  | .error _ => []

def stopped (head : WorkspaceHead) : Ledger :=
  (outcome (failedRound driverSurroundings false false (js "r") drivenId (.domain .taskNotReady))
    (driven head)).2

-- The workflow was started, and stopped for its failure.
instance stopped_computed : Fact (endsIn (fun head => endsIn (fun view =>
      view.state.workflows.get drivenId |>.any fun item => item.state != .running)
    (viewOf (stopped head).store (js "r"))) foundedHead = true) := ⟨by decide +kernel⟩

theorem ledger_step {Result : Type} {turn : Section Result} {ledger after : Ledger}
    (operation : Operation Result turn) (same : after = (outcome turn ledger).2) :
    ServiceStep ledger.store after.store := same ▸ .operated turn operation ledger

theorem stopped_reached {head : WorkspaceHead} (made : foundedHead = .ok head) :
    Reached (tasked head).store ∧
      Relation.ReflTransGen ServiceStep (tasked head).store (stopped head).store := by
  have unused : Unused (founded head).store := by
    simp only [foundedHead, bind_ok_iff, pure_ok_iff] at made
    obtain ⟨event, -, state, replayed, rfl⟩ := made
    exact ⟨rfl, rfl, [], event, replayed, rfl, rfl⟩
  exact ⟨⟨(founded head).store, unused, .tail (.single (ledger_step (.runCreate _ _ _ _) rfl))
      (ledger_step (.taskCreate _ _) rfl)⟩,
    .tail (.single (ledger_step (.startWorkflow _ _ _ _ _ _) rfl))
      (ledger_step (.failedRound _ _ _ _ _ _) rfl)⟩

theorem stopped_stored : ∃ head stream item, foundedHead = .ok head ∧
    (stopped head).store.runs.get (js "r") = some stream ∧
    stream.replay.operational.execution.workflows.get drivenId = some item ∧
    item.state ≠ .running := by
  obtain ⟨head, made, seen⟩ := ends_in_exists stopped_computed.out
  obtain ⟨view, shown, ended⟩ := ends_in_exists seen
  obtain ⟨item, found, past⟩ := (Option.any_eq_true _ _).mp ended
  obtain ⟨stored, -, -, -, same, -⟩ := view_stored shown
  exact ⟨head, view.stream, item, made, stored, same ▸ found, by simpa using past⟩

theorem records_last_stopped : ∃ head, foundedHead = .ok head ∧
    ∀ runId stream, (tasked head).store.runs.get runId = some stream →
      ∃ longer, (stopped head).store.runs.get runId = some longer ∧
        stream.events <+: longer.events ∧
        Lasting stream.replay.operational.execution longer.replay.operational.execution := by
  obtain ⟨head, _, _, made, -⟩ := stopped_stored
  obtain ⟨reached, run⟩ := stopped_reached made
  exact ⟨head, made, records_last reached run⟩

theorem commands_wrote_logs_stopped : ∃ head stream, foundedHead = .ok head ∧
    (stopped head).store.runs.get (js "r") = some stream ∧
    OneWrote 1 (commandsOf (stopped head).store (js "r")) := by
  obtain ⟨head, stream, _, made, stored, -⟩ := stopped_stored
  obtain ⟨⟨start, unused, before⟩, run⟩ := stopped_reached made
  refine ⟨head, stream, made, stored,
    (commands_wrote_logs ⟨start, unused, before.trans run⟩ (js "r")).2 1 Nat.one_pos ?_⟩
  rw [logOf, stored]
  exact List.length_pos_iff.mpr (stream_filled stream)

theorem ended_workflows_inert_stopped : ∃ head, foundedHead = .ok head ∧
    Inert (stopped head) (js "r") drivenId := by
  obtain ⟨head, stream, item, made, stored, ended, past⟩ := stopped_stored
  obtain ⟨⟨start, unused, before⟩, run⟩ := stopped_reached made
  exact ⟨head, made, (ended_workflows_inert ⟨start, unused, before.trans run⟩ .refl (js "r") stream
    drivenId item stored ended past).2⟩

end Driven

end Horseness.ServiceHistories
