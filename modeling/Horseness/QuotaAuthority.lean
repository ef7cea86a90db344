import Horseness.AdmissionService
import Horseness.ServiceCommands

/-!
The policy and the quota that the execution service asks for before it goes on with a task,
read from the authority's tables, and the service's own appends to a run beside them.
-/

namespace Horseness.QuotaAuthority

open FallibleRuns ScriptText JsonValues ScriptEngine Canonical Cursors EventChains EventPayloads
  Replay Execution PolicyDocuments PolicyEvaluation AuthorityLog AppendLog AuthoritySnapshots Turns

open DispatchAuthority (property)
open Delta (encodePointerToken)
open AdmissionService (inDomain)
open ExecutionStore (Failure AuthorityStateExpectationV1)
open ServiceCommands (sealEvents isoTime)

section Views

variable [Engine]

structure ExecutionView where
  cursor : CompositeCursorV1
  runEvents : List HashedEventEnvelopeV1
  canonical : CanonicalDocument
  state : TaskExecutionProjectionV1
  workspace : WorkspaceState

def view (workspaceId runId : JsString) (state : Authority) : Except StoreError ExecutionView := do
  let workspaceEvents ← authenticatedRows state (.workspace workspaceId)
  let runEvents ← authenticatedRows state (.run workspaceId runId)
  let w ← required workspaceEvents.getLast? (.domain .taskNotFound)
  let r ← required runEvents.getLast? (.domain .taskNotFound)
  let replay ← inDomain (deterministicReplay runEvents)
  let workspace ← inDomain (deterministicWorkspaceReplay workspaceEvents)
  return {
    cursor := ⟨workspaceId, w.envelope.sequence, w.envelopeHash, w.envelope.sequence - 1, runId,
      r.envelope.sequence, r.envelopeHash, r.envelope.sequence - 1⟩
    runEvents := runEvents
    canonical := replay.canonical
    state := replay.operational.execution
    workspace := workspace }

/-- One call of `append`. -/
structure AppendCall where
  payloads : List RunEventPayloadV1
  commandId : JsString
  principalId : JsString
  expectation : Option AuthorityStateExpectationV1
  publications : List ArtifactRecord
  clientRequestDigest : Option JsString

-- all that is published belongs to the last event
def publication (last : HashedEventEnvelopeV1) (record : ArtifactRecord) : ArtifactPublication :=
  ⟨record, [⟨js "event", last.envelope.eventId, false⟩], []⟩

/-- The request of an append on the head that was viewed, and the cursor that it leads to. -/
def appendRequest (view : ExecutionView) (call : AppendCall) :
    Except StoreError (StoreRequest × CompositeCursorV1) := do
  let cursor := view.cursor
  let events ← inDomain (sealEvents cursor.workspaceId cursor.runId call.commandId call.principalId
    0 (cursor.runSequence + 1) cursor.runEnvelopeHash call.payloads)
  let last ← required events.getLast? (.domain .executionInvalid)
  let _ ← inDomain (deterministicReplay (view.runEvents ++ events))
  let request : AtomicAppendRequest :=
    { commandId := call.commandId
      workspace := none
      run := some ⟨.run, cursor.workspaceId, cursor.runId, cursor.runSequence,
        some cursor.runEnvelopeHash, events⟩
      runGenesis := none
      workspaceObservationCursor := some ⟨cursor.workspaceId, cursor.workspaceSequence,
        cursor.workspaceEnvelopeHash, cursor.workspaceContextEpoch⟩
      authorityStateExpectations := call.expectation.map fun expectation => [expectation]
      clientRequestDigest := call.clientRequestDigest }
  let published : PublishAndAppendRequest :=
    { request with
      artifacts := call.publications.map (publication last)
      requiredArtifactDigests := (call.publications.map ArtifactRecord.digest).eraseDups
      projections := []
      snapshots := [] }
  let next : CompositeCursorV1 :=
    { cursor with
      runSequence := last.envelope.sequence
      runEnvelopeHash := last.envelopeHash
      runContextEpoch := last.envelope.sequence - 1 }
  return (if call.publications = [] then .append request else .publish published, next)

def append (around : Surroundings) (view : ExecutionView) (call : AppendCall) (state : Authority) :
    Except StoreError CompositeCursorV1 × Authority :=
  match appendRequest view call with
  | .error failure => (.error failure, state)
  | .ok (request, cursor) =>
      let (answer, after) := serve around request state
      (answer.map fun _ => cursor, after)

end Views

section Policy

def truthy : JsValue → Bool
  | .null => false
  | .bool value => value
  | .num (.finite value) => value ≠ 0
  | .num (.infinite _) => true
  | .num _ => false
  | .str text => text ≠ []
  | .arr _ | .obj _ _ => true

def latestSnapshot (state : Authority) (key : StreamKey) (projectionName : String) :
    Option SnapshotRow :=
  ((state.snapshots.filter fun row => row.key = key ∧ row.projectionName = js projectionName ∧
    row.projectionVersion = js "1").insertionSort fun left right =>
      right.sequence ≤ left.sequence).head?

variable [Engine] (state : Authority) (view : ExecutionView)

def ExecutionView.run (view : ExecutionView) : StreamKey :=
  .run view.cursor.workspaceId view.cursor.runId

def domain {Result : Type} (checked : Except DomainError Result) : Except Failure Result :=
  checked.mapError .domain

/-- The policy of the run's latest admission, which must be the active one. -/
def policy : Except DomainError PolicySlotV1 :=
  if view.workspace.activePolicyDigest = noPolicyDigest then .ok .noPolicy
  else do
    let snapshot ← required (latestSnapshot state view.run "admission-current")
      .policyAuthorityUnavailable
    ensure (∃ event ∈ view.runEvents, event.envelope.sequence = snapshot.sequence ∧
      event.envelopeHash = snapshot.envelopeHash) .policyAuthorityUnavailable
    let fields ← match snapshot.state with
      | .obj _ _ => .ok snapshot.state
      | _ => .error .policyAuthorityUnavailable
    let current ← required ((property "currentPolicy" fields).bind readPolicySlot)
      .policyDocumentInvalid
    parsePolicySlotV1 current
    let digest ← policySlotDigest current
    ensure (digest = view.workspace.activePolicyDigest) .policyAuthorityUnavailable
    return current

def authorityTime (clock : JsString) : Except Failure JsString := do
  let time ← isoTime (Engine.dateParse clock)
  return time.dropLast.dropLast.dropLast.dropLast.dropLast ++ js "Z"

/-- What is evaluated before a task goes on. -/
structure PolicyCheck where
  clock : JsString
  taskId : JsString
  intentDigest : JsString
  pinnedPolicy : Option PolicySlotV1

def acceptedPolicy (check : PolicyCheck) : Except Failure PolicySlotV1 := do
  let current ← domain (policy state view)
  let authorityTime ← authorityTime check.clock
  let evaluated ← domain (evaluateExecutionPolicy {
    intentDigest := check.intentDigest
    action := js "task.dispatch"
    paths := [js "/tasks/" ++ encodePointerToken check.taskId]
    version := js "1"
    pinnedPolicy := check.pinnedPolicy.getD current
    currentPolicy := current
    evidence := []
    evaluationClock := ⟨authorityTime, .composite view.cursor⟩ })
  ensure (evaluated.result = .accepted) (.domain .policyDenied)
  return current

/-- A policy with the digest of the quota, as the snapshot has it. -/
structure PolicySelection where
  policy : PolicySlotV1
  quotaDigest : Option JsValue

def recordedQuota : Except Failure (Option JsValue) := do
  let unavailable := Failure.domain .quotaAuthorityUnavailable
  let snapshot ← required (latestSnapshot state view.run "admission-current") unavailable
  ensure (snapshot.sequence = view.cursor.runSequence ∧
    snapshot.envelopeHash = view.cursor.runEnvelopeHash) unavailable
  let observed ← required ((property "evaluationObservationCursor" snapshot.state).filter
    (truthy ·)) unavailable
  let same ← domain (sameJson observed view.cursor.toJson)
  ensure (same = true) unavailable
  let quota ← required ((property "quota" snapshot.state).filter (truthy ·)) unavailable
  ensure ((property "available" quota).any truthy = true) (.domain .quotaDenied)
  return property "digest" quota

def checkPolicy (check : PolicyCheck) : Except Failure PolicySelection := do
  let current ← acceptedPolicy state view check
  if view.workspace.quotas.keys ≠ [] then do
    let quotaDigest ← recordedQuota state view
    return ⟨current, quotaDigest⟩
  else do
    let quotaDigest ← domain (domainDigest (js "horseness.serial-execution-quota.v1")
      (object [("workspaceId", .str view.cursor.workspaceId), ("limit", natural 1),
        ("runId", .str view.cursor.runId), ("observationCursor", view.cursor.toJson)]))
    return ⟨current, some (.str quotaDigest)⟩

end Policy

section Snapshots

variable [Engine] {around : Surroundings} {state after : Authority}

def Unpictured {Item : Type} (step : Authority → Item → Except StoreError Authority) : Prop :=
  ∀ state item after, step state item = .ok after → after.snapshots = state.snapshots

omit [Engine] in
theorem fold_unpictured {Item : Type} {step : Authority → Item → Except StoreError Authority}
    {items : List Item} (unpictured : Unpictured step) (folded : items.foldlM step state = .ok after) :
    after.snapshots = state.snapshots := by
  induction items generalizing state with
  | nil =>
      rw [List.foldlM_nil, pure_ok_iff] at folded
      rw [folded]
  | cons item rest ih =>
      rcases (foldlM_cons_ok_iff _ _ _ _ _).mp folded with ⟨middle, first, later⟩
      rw [ih later, unpictured state item middle first]

theorem write_unpictured {request : AppendRequest} {head : AppendHead}
    (written : writeAppend state request = .ok (head, after)) : after.snapshots = state.snapshots := by
  rcases opened_streams state request.key with ⟨streams, opened, _⟩
  simp only [writeAppend, bind_ok_iff, pure_ok_iff, Prod.mk.injEq, opened] at written
  rcases written with ⟨_, _, _, _, inserted, filled, _, _, _, _, _, _, _, rfl⟩
  rw [inserted_rows filled]
  rfl

omit [Engine] in
theorem register_unpictured : Unpictured (register around) := by
  intro state record after registered
  simp only [register, bind_ok_iff] at registered
  rcases registered with ⟨_, _, registered⟩
  split at registered
  · simp only [bind_ok_iff, pure_ok_iff] at registered
    rcases registered with ⟨_, _, rfl⟩
    rfl
  · rw [pure_ok_iff] at registered
    rw [← registered]

omit [Engine] in
theorem owners_unpictured {workspaceId : JsString} : Unpictured (addOwners around workspaceId) := by
  intro state publication after written
  have references : Unpictured (addReference around workspaceId publication.record.digest) := by
    intro state reference after written
    simp only [addReference, bind_ok_iff, pure_ok_iff] at written
    rcases written with ⟨_, _, _, _, rfl⟩
    rfl
  have pins : Unpictured (addPin around publication.record.digest) := by
    intro state pin after written
    simp only [addPin, bind_ok_iff, pure_ok_iff] at written
    rcases written with ⟨_, _, rfl⟩
    rfl
  simp only [addOwners, bind_ok_iff] at written
  rcases written with ⟨middle, referenced, pinned⟩
  rw [fold_unpictured pins pinned, fold_unpictured references referenced]

theorem command_unpictured {key : CommandKey} {digest : JsString} {result : JsValue}
    (inserted : insertCommand state key digest result = .ok after) :
    after.snapshots = state.snapshots := by
  simp only [insertCommand, bind_ok_iff, pure_ok_iff] at inserted
  rcases inserted with ⟨_, _, rfl⟩
  rfl

/-- The service's request adds the events of its run and writes no snapshot. -/
inductive Requests (key : StreamKey) (commandId : JsString) (events : List HashedEventEnvelopeV1) :
    StoreRequest → Prop
  | append (request : AtomicAppendRequest) (run : AppendRequest)
      (named : request.commandId = commandId) (alone : request.workspace = none)
      (older : request.runGenesis = none) (own : request.run = some run) (keyed : run.key = key)
      (added : run.events = events) : Requests key commandId events (.append request)
  | publish (request : PublishAndAppendRequest) (run : AppendRequest)
      (named : request.commandId = commandId) (alone : request.workspace = none)
      (older : request.runGenesis = none) (own : request.run = some run) (keyed : run.key = key)
      (added : run.events = events) (unpictured : request.snapshots = [])
      (unprojected : request.projections = []) : Requests key commandId events (.publish request)

theorem request_requests {view : ExecutionView} {call : AppendCall} {request : StoreRequest}
    {cursor : CompositeCursorV1} (made : appendRequest view call = .ok (request, cursor)) :
    ∃ events, events ≠ [] ∧ Requests view.run call.commandId events request := by
  simp only [appendRequest, bind_ok_iff, pure_ok_iff, required_ok_iff, Prod.mk.injEq] at made
  rcases made with ⟨events, _, last, ends, _, _, rfl, _⟩
  refine ⟨events, fun empty => ?_, ?_⟩
  · rw [empty] at ends
    cases ends
  · split
    · exact .append _ _ rfl rfl rfl rfl rfl rfl
    · exact .publish _ _ rfl rfl rfl rfl rfl rfl rfl rfl

/-- What a request of the service has done once it is answered: it was recorded already, or its
events are added now. -/
inductive Appended (state : Authority) (key : StreamKey) (commandId : JsString) (after : Authority) :
    Prop
  | repeated (prior : CommandRow)
      (found : state.command ⟨key.workspaceId, .run, key.streamId, commandId⟩ = some prior)
      (same : after = state)
  | committed (events : List HashedEventEnvelopeV1) (row : CommandRow) (some_added : events ≠ [])
      (fresh : state.command ⟨key.workspaceId, .run, key.streamId, commandId⟩ = none)
      (extended : Extends state (events.map (EventRow.mk key)) [row] after)
      (snapshots : after.snapshots = state.snapshots)

omit [Engine] in
theorem scope_own {request : AtomicAppendRequest} {run : AppendRequest} {workspaceId : JsString}
    (named : requestWorkspace request = .ok workspaceId) (alone : request.workspace = none)
    (older : request.runGenesis = none) (own : request.run = some run) :
    commandScope request workspaceId =
      ⟨run.key.workspaceId, .run, run.key.streamId, request.commandId⟩ := by
  simp only [requestWorkspace, alone, older, own, bind_ok_iff, required_ok_iff, pure_ok_iff] at named
  rcases named with ⟨found, first, _, _, rfl⟩
  have same : run.workspaceId = found := by simpa using first
  simp only [commandScope, own]
  rw [← same]
  rfl

theorem part_unpictured {run : AppendRequest} {head : Option AppendHead}
    (written : writePart writeAppend state (some run) = .ok (head, after)) :
    after.snapshots = state.snapshots := by
  simp only [writePart, bind_ok_iff, pure_ok_iff, Prod.mk.injEq] at written
  rcases written with ⟨⟨_, next⟩, wrote, _, rfl⟩
  exact write_unpictured wrote

omit [Engine] in
theorem part_absent {Part : Type} {write : Authority → Part → Except StoreError (AppendHead × Authority)}
    {head : Option AppendHead} (written : writePart write state none = .ok (head, after)) :
    after = state := by
  simp only [writePart, Except.ok.injEq, Prod.mk.injEq] at written
  exact written.2.symm

theorem append_unpictured {request : AtomicAppendRequest} {run : AppendRequest} {answer : JsValue}
    (alone : request.workspace = none) (older : request.runGenesis = none)
    (own : request.run = some run)
    (accepted : appendAtomic around request state = .ok (answer, after)) :
    after.snapshots = state.snapshots := by
  simp only [appendAtomic, bind_ok_iff] at accepted
  rcases accepted with ⟨_, _, _, _, _, _, _, _, _, _, _, _, accepted⟩
  split at accepted
  · simp only [bind_ok_iff, pure_ok_iff, Prod.mk.injEq] at accepted
    rcases accepted with ⟨_, _, _, _, _, rfl⟩
    rfl
  · simp only [bind_ok_iff, pure_ok_iff, Prod.mk.injEq, alone, older, own] at accepted
    rcases accepted with ⟨_, _, ⟨_, first⟩, workspace, ⟨_, second⟩, written, ⟨_, third⟩, genesis,
      last, inserted, _, rfl⟩
    rw [command_unpictured inserted, part_absent genesis, part_unpictured written,
      part_absent workspace]

theorem publish_unpictured {request : PublishAndAppendRequest} {run : AppendRequest}
    {answer : JsValue} (alone : request.workspace = none) (own : request.run = some run)
    (unpictured : request.snapshots = []) (unprojected : request.projections = [])
    (accepted : publishAndAppendAtomic around request state = .ok (answer, after)) :
    after.snapshots = state.snapshots := by
  simp only [publishAndAppendAtomic, bind_ok_iff] at accepted
  rcases accepted with ⟨_, _, _, _, _, _, accepted⟩
  split at accepted
  · simp only [bind_ok_iff, pure_ok_iff, Prod.mk.injEq] at accepted
    rcases accepted with ⟨_, _, _, rfl⟩
    rfl
  · simp only [bind_ok_iff, pure_ok_iff, Prod.mk.injEq, alone, own, unpictured, unprojected,
      List.foldlM_nil] at accepted
    rcases accepted with ⟨_, _, _, _, _, _, registered, catalogued, ⟨_, first⟩, workspace,
      ⟨_, second⟩, written, owned, referenced, _, _, _, rfl, _, rfl, last, inserted, _, rfl⟩
    rw [command_unpictured inserted, fold_unpictured owners_unpictured referenced,
      part_unpictured written, part_absent workspace, fold_unpictured register_unpictured catalogued]

theorem accepted_appended {request : AtomicAppendRequest} {run : AppendRequest}
    {workspaceId digest : JsString} {answer : JsValue} (some_added : run.events ≠ [])
    (named : requestWorkspace request = .ok workspaceId) (alone : request.workspace = none)
    (older : request.runGenesis = none) (own : request.run = some run)
    (accepted : Accepted state (requestRows request) (commandScope request workspaceId) digest answer
      after) (snapshots : after.snapshots = state.snapshots) :
    Appended state run.key request.commandId after := by
  rw [scope_own named alone older own] at accepted
  have rows : requestRows request = run.events.map (EventRow.mk run.key) := by
    simp [requestRows, appendRows, alone, older, own]
  rcases accepted with ⟨⟨prior, found, _⟩, same⟩ | ⟨fresh, extended⟩
  · exact .repeated prior found same
  · rw [rows] at extended
    exact .committed _ _ some_added fresh extended snapshots

theorem served_appended {key : StreamKey} {commandId : JsString} {events : List HashedEventEnvelopeV1}
    {request : StoreRequest} {answer : Option JsValue} (some_added : events ≠ [])
    (requests : Requests key commandId events request)
    (served : serve around request state = (.ok answer, after)) :
    Appended state key commandId after := by
  have performed := serve_ok_iff.mp served
  cases requests with
  | append request run named alone older own keyed added =>
      simp only [perform, bind_ok_iff, pure_ok_iff, Prod.mk.injEq] at performed
      rcases performed with ⟨⟨value, next⟩, accepted, rfl, rfl⟩
      rcases append_accepted accepted with ⟨workspaceId, digest, found, _, effect⟩
      subst named keyed added
      exact accepted_appended some_added found alone older own effect
        (append_unpictured alone older own accepted)
  | publish request run named alone older own keyed added unpictured unprojected =>
      simp only [perform, bind_ok_iff, pure_ok_iff, Prod.mk.injEq] at performed
      rcases performed with ⟨⟨value, next⟩, accepted, rfl, rfl⟩
      rcases publish_accepted accepted with ⟨workspaceId, digest, found, _, effect⟩
      subst named keyed added
      exact accepted_appended some_added (admissible_named found) alone older own effect
        (publish_unpictured alone own unpictured unprojected accepted)

end Snapshots

section Refusals

theorem unicode_refused {text : JsString} {failure : DomainError}
    (refused : assertValidUnicode text = .error failure) : failure ≠ .quotaAuthorityUnavailable := by
  unfold assertValidUnicode ensure at refused
  split at refused <;> cases refused
  decide

mutual

theorem assert_refused : ∀ (value : JsValue) {failure : DomainError},
    assertJson value = .error failure → failure ≠ .quotaAuthorityUnavailable
  | .null, _, refused | .bool _, _, refused | .num (.finite _), _, refused
  | .num .negativeZero, _, refused => by cases refused
  | .num .nan, _, refused | .num (.infinite _), _, refused | .obj .foreign _, _, refused => by
      cases refused
      decide
  | .str _, _, refused => unicode_refused refused
  | .arr items, _, refused => items_refused items refused
  | .obj .object fields, _, refused | .obj .null fields, _, refused => fields_refused fields refused
termination_by structural value => value

theorem items_refused : ∀ (items : List JsValue) {failure : DomainError},
    assertItems items = .error failure → failure ≠ .quotaAuthorityUnavailable
  | [], _, refused => by cases refused
  | item :: rest, _, refused => by
      unfold assertItems at refused
      cases first : assertJson item with
      | error found =>
          rw [first] at refused
          cases refused
          exact assert_refused item first
      | ok _ =>
          rw [first] at refused
          exact items_refused rest refused
termination_by structural items => items

theorem fields_refused : ∀ (fields : List (JsString × JsValue)) {failure : DomainError},
    assertFields fields = .error failure → failure ≠ .quotaAuthorityUnavailable
  | [], _, refused => by cases refused
  | (name, value) :: rest, _, refused => by
      unfold assertFields at refused
      cases named : assertValidUnicode name with
      | error found =>
          rw [named] at refused
          cases refused
          exact unicode_refused named
      | ok _ =>
          rw [named, ok_bind] at refused
          cases first : assertJson value with
          | error found =>
              rw [first] at refused
              cases refused
              exact assert_refused value first
          | ok _ =>
              rw [first] at refused
              exact fields_refused rest refused
termination_by structural fields => fields

end

variable [Engine]

theorem digest_refused {domain : JsString} {value : JsValue} {failure : DomainError}
    (refused : domainDigest domain value = .error failure) :
    failure ≠ .quotaAuthorityUnavailable := by
  unfold domainDigest canonicalJson at refused
  cases asserted : assertJson value with
  | error found =>
      rw [asserted] at refused
      cases refused
      exact assert_refused value asserted
  | ok _ =>
      rw [asserted] at refused
      cases refused

end Refusals

section Runs

variable [Engine] {workspaceId runId : JsString} {state after : Authority}

/-- One call of `append`; it is committed where it is accepted under a command that the run has
no record of. -/
structure Appending where
  call : AppendCall
  committed : Bool

def appending (around : Surroundings) (seen : ExecutionView) (call : AppendCall)
    (state : Authority) : Appending :=
  let accepted := match (append around seen call state).1 with
    | .ok _ => true
    | .error _ => false
  ⟨call, accepted && (state.command
    ⟨seen.cursor.workspaceId, .run, seen.cursor.runId, call.commandId⟩).isNone⟩

/-- The service appends to the run, with a view of it that need not be the last. -/
def ServiceStep (workspaceId runId : JsString) (state : Authority) (labels : List Appending)
    (after : Authority) : Prop :=
  ∃ around seen call, seen.run = .run workspaceId runId ∧
    labels = [appending around seen call state] ∧ after = (append around seen call state).2

/-- What the service's appends to a run have left of a state. -/
structure Behind (workspaceId runId : JsString) (state : Authority) (labels : List Appending)
    (after : Authority) : Prop where
  snapshots : after.snapshots = state.snapshots
  workspace : authenticatedRows after (.workspace workspaceId) =
    authenticatedRows state (.workspace workspaceId)
  authentic : Authentic after (.run workspaceId runId)
  run : ∃ added, after.rows (.run workspaceId runId) = state.rows (.run workspaceId runId) ++ added ∧
    (added = [] ↔ ∀ label ∈ labels, label.committed = false)

theorem append_effect (around : Surroundings) (seen : ExecutionView) (call : AppendCall)
    (state : Authority) :
    ((append around seen call state).2 = state ∧ (appending around seen call state).committed = false) ∨
      ∃ events row, events ≠ [] ∧ (appending around seen call state).committed = true ∧
        Extends state (events.map (EventRow.mk seen.run)) [row] (append around seen call state).2 ∧
        (append around seen call state).2.snapshots = state.snapshots := by
  cases made : appendRequest seen call with
  | error failure =>
      have shape : append around seen call state = (.error failure, state) := by
        simp only [append, made]
      simp only [appending, shape]
      exact .inl ⟨trivial, rfl⟩
  | ok answered =>
      rcases answered with ⟨request, cursor⟩
      rcases request_requests made with ⟨events, some_added, requests⟩
      rcases served : serve around request state with ⟨answer, after⟩
      have shape : append around seen call state = (answer.map fun _ => cursor, after) := by
        simp only [append, made, served]
      simp only [appending, shape]
      cases answer with
      | error failure =>
          have same := serve_refused (congrArg Prod.fst served)
          rw [served] at same
          exact .inl ⟨same, rfl⟩
      | ok answer =>
          cases served_appended some_added requests served with
          | repeated prior found same =>
              have known : state.command ⟨seen.cursor.workspaceId, .run, seen.cursor.runId,
                call.commandId⟩ = some prior := found
              exact .inl ⟨same, by rw [known]; rfl⟩
          | committed events row some_added fresh extended snapshots =>
              have unknown : state.command ⟨seen.cursor.workspaceId, .run, seen.cursor.runId,
                call.commandId⟩ = none := fresh
              exact .inr ⟨events, row, some_added, by rw [unknown]; rfl, extended, snapshots⟩

theorem append_behind {labels : List Appending} (authentic : Authentic state (.run workspaceId runId))
    (stepped : ServiceStep workspaceId runId state labels after) :
    Behind workspaceId runId state labels after := by
  rcases stepped with ⟨around, seen, call, own, rfl, rfl⟩
  rcases append_effect around seen call state with
    ⟨same, refused⟩ | ⟨events, row, some_added, committed, extended, snapshots⟩
  · rw [same]
    exact ⟨rfl, rfl, authentic, [], by simp, by simp [refused]⟩
  · rw [own] at extended
    rcases authentic with ⟨rows, authenticated⟩
    rcases rows_extended (authenticated_safe authenticated).1 extended with ⟨added, rows, all⟩
    have other : ∀ row ∈ events.map (EventRow.mk (.run workspaceId runId)),
        row.key ≠ .workspace workspaceId := by
      intro row member
      rcases List.mem_map.mp member with ⟨event, _, rfl⟩
      exact fun same => nomatch congrArg StreamKey.streamKind same
    refine ⟨snapshots, authenticated_congr (extended.others _ other)
      (rows_append extended.events other), extends_authentic extended ⟨_, authenticated⟩, added, rows,
      ?_⟩
    simp only [List.mem_singleton, forall_eq, committed, Bool.true_eq_false, iff_false]
    intro none_added
    rw [none_added] at all
    rcases List.exists_mem_of_ne_nil events some_added with ⟨event, member⟩
    have listed := all.symm.subset (List.mem_map.mpr ⟨⟨_, event⟩,
      List.mem_filter.mpr ⟨List.mem_map_of_mem member, by simp⟩, rfl⟩)
    cases listed

theorem run_behind {labels : List Appending} (authentic : Authentic state (.run workspaceId runId))
    (run : Runs (ServiceStep workspaceId runId) state labels after) :
    Behind workspaceId runId state labels after := by
  induction run with
  | start => exact ⟨rfl, rfl, authentic, [], by simp, by simp⟩
  | step before stepped ih =>
      have later := append_behind ih.authentic stepped
      rcases ih.run with ⟨first, one, none_first⟩
      rcases later.run with ⟨second, two, none_second⟩
      refine ⟨later.snapshots.trans ih.snapshots, later.workspace.trans ih.workspace, later.authentic,
        first ++ second, by rw [two, one, List.append_assoc], ?_⟩
      rw [List.append_eq_nil_iff, none_first, none_second, List.forall_mem_append]

/-- What a view says of the state that it is of. -/
structure ViewOf (workspaceId runId : JsString) (state : Authority) (seen : ExecutionView) : Prop where
  workspace : ∃ events, authenticatedRows state (.workspace workspaceId) = .ok events ∧
    deterministicWorkspaceReplay events = .ok seen.workspace
  authentic : authenticatedRows state (.run workspaceId runId) =
    .ok (state.rows (.run workspaceId runId))
  events : seen.runEvents = state.rows (.run workspaceId runId)
  number : seen.cursor.runSequence = (state.rows (.run workspaceId runId)).length
  own : seen.run = .run workspaceId runId

theorem view_rows {seen : ExecutionView} (viewed : view workspaceId runId state = .ok seen) :
    ViewOf workspaceId runId state seen := by
  simp only [view, bind_ok_iff, required_ok_iff, inDomain, map_error_ok_iff, pure_ok_iff] at viewed
  rcases viewed with ⟨workspaceEvents, workspace, runEvents, run, w, _, r, ends, replay, _, projected,
    replayed, rfl⟩
  rcases authenticated_safe run with ⟨safe, rfl⟩
  refine ⟨⟨workspaceEvents, workspace, replayed⟩, run, rfl, ?_, rfl⟩
  rcases List.getLast?_eq_some_iff.mp ends with ⟨front, shape⟩
  rw [shape, List.length_append, List.length_singleton]
  exact (safe_chained safe front r [] shape).1

theorem view_congr (workspace : authenticatedRows after (.workspace workspaceId) =
      authenticatedRows state (.workspace workspaceId))
    (run : authenticatedRows after (.run workspaceId runId) =
      authenticatedRows state (.run workspaceId runId)) :
    view workspaceId runId after = view workspaceId runId state := by
  simp only [view, workspace, run]

variable {before now : ExecutionView} {labels : List Appending} {first later : PolicyCheck}
  {selection : PolicySelection} {current : PolicySlotV1}

theorem recorded_at_head {digest : Option JsValue} (recorded : recordedQuota state before = .ok digest) :
    ∃ snapshot, latestSnapshot state before.run "admission-current" = some snapshot ∧
      snapshot.sequence = before.cursor.runSequence := by
  simp only [recordedQuota, bind_ok_iff, required_ok_iff, ensure_ok_iff] at recorded
  rcases recorded with ⟨snapshot, latest, _, ⟨headed, _⟩, _⟩
  exact ⟨snapshot, latest, headed⟩

theorem appended_unavailable {snapshot : SnapshotRow}
    (latest : latestSnapshot after now.run "admission-current" = some snapshot)
    (behind : snapshot.sequence ≠ now.cursor.runSequence) :
    recordedQuota after now = .error (.domain .quotaAuthorityUnavailable) := by
  simp only [recordedQuota, latest, required, ok_bind, ensure, behind, false_and, if_false]
  rfl

theorem check_quota (still : acceptedPolicy after now later = .ok current)
    (recorded : now.workspace.quotas.keys ≠ []) :
    checkPolicy after now later = (recordedQuota after now).map fun digest => ⟨current, digest⟩ := by
  simp only [checkPolicy, still, ok_bind, recorded, ne_eq, not_false_eq_true, if_true]
  cases recordedQuota after now <;> rfl

theorem check_serial (still : acceptedPolicy after now later = .ok current)
    (free : now.workspace.quotas.keys = []) :
    checkPolicy after now later ≠ .error (.domain .quotaAuthorityUnavailable) := by
  simp only [checkPolicy, still, ok_bind, free, ne_eq, not_true_eq_false, if_false]
  intro refused
  cases digested : domainDigest (js "horseness.serial-execution-quota.v1")
      (object [("workspaceId", .str now.cursor.workspaceId), ("limit", natural 1),
        ("runId", .str now.cursor.runId), ("observationCursor", now.cursor.toJson)]) with
  | ok digest =>
      rw [digested] at refused
      cases refused
  | error failure =>
      rw [digested] at refused
      injection refused with thrown
      injection thrown with same
      exact digest_refused digested same

theorem accepted_quota (accepted : checkPolicy state before first = .ok selection)
    (recorded : before.workspace.quotas.keys ≠ []) :
    ∃ digest, recordedQuota state before = .ok digest := by
  simp only [checkPolicy, recorded, bind_ok_iff, ne_eq, not_false_eq_true, if_true] at accepted
  rcases accepted with ⟨_, _, digest, found, _⟩
  exact ⟨digest, found⟩

theorem behind_workspace (behind : Behind workspaceId runId state labels after)
    (seen : ViewOf workspaceId runId state before) (next : ViewOf workspaceId runId after now) :
    now.workspace = before.workspace := by
  rcases seen.workspace with ⟨events, found, replayed⟩
  rcases next.workspace with ⟨others, again, repeated⟩
  rw [behind.workspace, found] at again
  rw [← Except.ok.inj again, replayed] at repeated
  exact (Except.ok.inj repeated).symm

theorem behind_latest (behind : Behind workspaceId runId state labels after)
    (seen : ViewOf workspaceId runId state before) (next : ViewOf workspaceId runId after now)
    (name : String) : latestSnapshot after now.run name = latestSnapshot state before.run name := by
  simp only [latestSnapshot, behind.snapshots, seen.own, next.own]

theorem quota_lost (run : Runs (ServiceStep workspaceId runId) state labels after)
    (viewed : view workspaceId runId state = .ok before)
    (next : view workspaceId runId after = .ok now)
    (accepted : checkPolicy state before first = .ok selection)
    (still : acceptedPolicy after now later = .ok current)
    (quotas : before.workspace.quotas.keys ≠ [])
    (committed : ¬ ∀ label ∈ labels, label.committed = false) :
    checkPolicy after now later = .error (.domain .quotaAuthorityUnavailable) := by
  have seen := view_rows viewed
  have view := view_rows next
  have behind := run_behind ⟨_, seen.authentic⟩ run
  rcases behind.run with ⟨added, rows, none_added⟩
  have recorded : now.workspace.quotas.keys ≠ [] := by rwa [behind_workspace behind seen view]
  rcases accepted_quota accepted quotas with ⟨digest, stood⟩
  rcases recorded_at_head stood with ⟨snapshot, latest, headed⟩
  have longer := List.length_pos_iff.mpr fun empty => committed (none_added.mp empty)
  have moved : snapshot.sequence ≠ now.cursor.runSequence := by
    rw [headed, seen.number, view.number, rows, List.length_append]
    omega
  rw [check_quota still recorded,
    appended_unavailable ((behind_latest behind seen view _).trans latest) moved]
  rfl

theorem quota_kept (run : Runs (ServiceStep workspaceId runId) state labels after)
    (viewed : view workspaceId runId state = .ok before)
    (next : view workspaceId runId after = .ok now)
    (accepted : checkPolicy state before first = .ok selection)
    (still : acceptedPolicy after now later = .ok current)
    (quotas : before.workspace.quotas.keys ≠ [])
    (nothing : ∀ label ∈ labels, label.committed = false) :
    checkPolicy after now later ≠ .error (.domain .quotaAuthorityUnavailable) := by
  have seen := view_rows viewed
  have behind := run_behind ⟨_, seen.authentic⟩ run
  rcases behind.run with ⟨added, rows, none_added⟩
  rw [none_added.mpr nothing, List.append_nil] at rows
  rcases behind.authentic with ⟨found, stands⟩
  have read : authenticatedRows after (.run workspaceId runId) =
      authenticatedRows state (.run workspaceId runId) := by
    rw [stands, seen.authentic, (authenticated_safe stands).2, rows]
  rw [view_congr behind.workspace read, viewed] at next
  obtain rfl := Except.ok.inj next
  rcases accepted_quota accepted quotas with ⟨digest, stood⟩
  have kept : recordedQuota after before = .ok digest := by
    rw [← stood]
    simp only [recordedQuota, latestSnapshot, behind.snapshots]
  rw [check_quota still quotas, kept]
  intro same
  cases same

end Runs

section Recorded

-- the whole second is a time as well
@[reducible] def quotaEngine : Engine :=
  { RecordedRuns.shortEngine with
    dateParse := fun text =>
      if text = js "2026-01-01T00:00:00Z" then some 1767225600000
      else RecordedRuns.recordedTimes.lookup text }

attribute [local instance] quotaEngine

def chained (kind : StreamKind) (streamId : String) (sequence : Nat) (prior : Option JsString)
    (payload : DomainEventPayloadV1) : HashedEventEnvelopeV1 :=
  let envelope : EventEnvelopeV1 :=
    { streamKind := kind
      workspaceId := js "w"
      streamId := js streamId
      sequence := sequence
      eventId := js streamId ++ js ":" ++ decimal sequence
      eventType := payload.eventType
      principalId := js "u"
      causationId := js "c"
      correlationId := js "c"
      idempotencyKey := js streamId ++ js ":" ++ decimal sequence
      priorEnvelopeHash := prior
      payloadHash := []
      payload := payload }
  finalOf ⟨envelope, []⟩ (sealEventEnvelope envelope)

def workspaceCreated : HashedEventEnvelopeV1 :=
  chained .workspace "w" 1 none (.workspace
    (.workspaceCreatedV1 (js "w") (js "u") (js "g") (js "m") noPolicyDigest))

def runCreated : HashedEventEnvelopeV1 :=
  chained .run "r" 1 none (.run (.runCreatedV1 (js "w") (js "r") (object [])))

def taskCreated : HashedEventEnvelopeV1 :=
  chained .run "r" 2 (some runCreated.envelopeHash) (.run (.taskExecution
    ⟨js "w", js "r", .taskCreatedV2 (RecordedRuns.sampleTask (js "t"))⟩))

def admissionRecorded : HashedEventEnvelopeV1 :=
  chained .workspace "w" 2 (some workspaceCreated.envelopeHash) (.workspace
    (.workspaceAdmissionRecordedV1 (js "w") (js "p") (js "e") .accepted (js "q") (js "d") .yes))

def admittedCursor : CompositeCursorV1 :=
  ⟨js "w", 2, admissionRecorded.envelopeHash, 1, js "r", 2, taskCreated.envelopeHash, 1⟩

def createWorkspace : StoreRequest :=
  .append { DispatchAuthority.emptyAppend "c1" with
    workspace := some ⟨.workspace, js "w", js "w", 0, none, [workspaceCreated]⟩ }

def createRun : StoreRequest :=
  .append { DispatchAuthority.emptyAppend "c2" with
    runGenesis := some ⟨⟨js "w", 1, workspaceCreated.envelopeHash, 0, js "r"⟩, runCreated⟩ }

def createTask : StoreRequest :=
  .append { DispatchAuthority.emptyAppend "c3" with
    run := some ⟨.run, js "w", js "r", 1, some runCreated.envelopeHash, [taskCreated]⟩ }

def recordAdmission : StoreRequest :=
  .publish { DispatchAuthority.emptyAppend "c4" with
    workspace := some ⟨.workspace, js "w", js "w", 1, some workspaceCreated.envelopeHash,
      [admissionRecorded]⟩
    artifacts := []
    requiredArtifactDigests := []
    projections := []
    snapshots := [⟨js "w", .run, js "r", 2, taskCreated.envelopeHash, js "admission-current", js "1",
      object [("schemaVersion", .str (js "1")), ("evaluationObservationCursor", admittedCursor.toJson),
        ("currentPolicy", noPolicyJson),
        ("quota", object [("id", .str (js "q")), ("digest", .str (js "d")),
          ("available", .bool true)])]⟩] }

def admittedAuthority : Authority :=
  (serve openSession recordAdmission (serve openSession createTask (serve openSession createRun
    (serve openSession createWorkspace Authority.fresh).2).2).2).2

def dispatchCheck : PolicyCheck := ⟨RecordedRuns.startOfYear, js "t", js "i", none⟩

def activation : AppendCall :=
  { payloads := [.taskExecution ⟨js "w", js "r", .taskActivatedV1 (js "t")⟩]
    commandId := js "activate"
    principalId := js "u"
    expectation := none
    publications := []
    clientRequestDigest := none }

def activated (seen : ExecutionView) : Authority :=
  (append openSession seen activation admittedAuthority).2

instance admitted_accepted : Fact (endsIn (fun seen =>
      endsIn (fun _ => true) (checkPolicy admittedAuthority seen dispatchCheck) &&
      !seen.workspace.quotas.keys.isEmpty &&
      (appending openSession seen activation admittedAuthority).committed &&
      endsIn (fun now => endsIn (fun _ => true) (acceptedPolicy (activated seen) now dispatchCheck))
        (view (js "w") (js "r") (activated seen)))
    (view (js "w") (js "r") admittedAuthority) = true) := ⟨by decide +kernel⟩

theorem activation_step (seen : ExecutionView) (own : seen.run = .run (js "w") (js "r")) :
    Runs (ServiceStep (js "w") (js "r")) admittedAuthority
      [appending openSession seen activation admittedAuthority] (activated seen) :=
  Runs.start.step ⟨openSession, seen, activation, own, rfl, rfl⟩

end Recorded

end Horseness.QuotaAuthority
