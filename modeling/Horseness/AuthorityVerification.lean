import Horseness.QuotaLedger
import Horseness.AppendLog

/-!
The loops that verify a stored authority and an imported one. Each of them replays a
workspace stream with a list of event kinds of its own. Errors are given by their texts.
-/

namespace Horseness.AuthorityVerification

open FallibleRuns ScriptText ScriptEngine Canonical EventPayloads EventChains Replay ReplaySteps
  ReplayIdentity RecordedRuns CanonicalHistory QuotaLedger AuthorityLog
open ExecutionStore (DomainError.text)

section Loops

variable [Engine]

def recoveredPayload : DomainEventPayloadV1 → Except JsString WorkspaceOperationalPayload
  | .workspace (.workspaceCreatedV1 _ authorityPrincipalId initialGrantDigest
      authorityConsumptionMarker activePolicyDigest) =>
      .ok (.workspaceCreatedV1 authorityPrincipalId initialGrantDigest authorityConsumptionMarker
        activePolicyDigest)
  | .workspace (.policyReferenceChangedV1 _ activePolicyDigest) =>
      .ok (.policyReferenceChangedV1 activePolicyDigest)
  | .workspace (.workspaceAdmissionRecordedV1 ..) | .run _ =>
      .error (js "workspace stream contains run event")

/-- One round of the loop: `reduceWorkspaceState(state, { ...payload, sequence })`. -/
def recoverEvent (state : Option WorkspaceState) (item : HashedEventEnvelopeV1) :
    Except JsString (Option WorkspaceState) := do
  let payload := item.envelope.payload
  (parseDomainEventPayloadV1 payload).mapError DomainError.text
  let event ← recoveredPayload payload
  let next ← (reduceWorkspaceState state ⟨item.envelope.sequence,
    DomainEventPayloadV1.workspaceId payload, event⟩).mapError DomainError.text
  return some next

def recoverWorkspace (events : List HashedEventEnvelopeV1) :
    Except JsString (Option WorkspaceState) := events.foldlM recoverEvent none

def importedPayload : DomainEventPayloadV1 → Except JsString WorkspaceOperationalPayload
  | .workspace (.workspaceCreatedV1 _ authorityPrincipalId initialGrantDigest
      authorityConsumptionMarker activePolicyDigest) =>
      .ok (.workspaceCreatedV1 authorityPrincipalId initialGrantDigest authorityConsumptionMarker
        activePolicyDigest)
  | .workspace (.policyReferenceChangedV1 _ activePolicyDigest) =>
      .ok (.policyReferenceChangedV1 activePolicyDigest)
  | .workspace (.workspaceAdmissionRecordedV1 ..) =>
      .error (js "unsupported workspace replay event: WorkspaceAdmissionRecordedV1")
  | .run payload =>
      .error (js "unsupported workspace replay event: " ++ payload.eventType)

def importEvent (state : Option WorkspaceState) (item : HashedEventEnvelopeV1) :
    Except JsString (Option WorkspaceState) := do
  let payload := item.envelope.payload
  let event ← importedPayload payload
  let next ← (reduceWorkspaceState state ⟨item.envelope.sequence,
    DomainEventPayloadV1.workspaceId payload, event⟩).mapError DomainError.text
  return some next

def importWorkspace (events : List HashedEventEnvelopeV1) :
    Except JsString (Option WorkspaceState) := events.foldlM importEvent none

def replayStream (workspace : List HashedEventEnvelopeV1 → Except JsString (Option WorkspaceState))
    (kind : StreamKind) (events : List HashedEventEnvelopeV1) : Except JsString Unit :=
  match kind with
  | .run => do
      let _ ← (deterministicReplay events).mapError DomainError.text
  | .workspace => do
      let _ ← workspace events

def verifySemanticReplay (state : Authority) : Except JsString Unit :=
  state.streams.keys.forM fun key =>
    replayStream importWorkspace key.streamKind (state.rows key)

def labelled (label : String) (text : JsString) : JsString := js label ++ text

def rowsInOrder (key : StreamKey) (events : List HashedEventEnvelopeV1) : Except JsString Unit :=
  events.zipIdx.forM fun (event, index) => do
    ensure (event.envelope.workspaceId = key.workspaceId ∧
      event.envelope.streamKind = key.streamKind ∧ event.envelope.streamId = key.streamId)
      (js "event stream identity mismatch")
    ensure (event.envelope.sequence = index + 1) (js "event row/envelope divergence")

def verifyStream (state : Authority) (key : StreamKey) (head : StreamRow) : Except JsString Unit := do
  let events := state.rows key
  ensure (events ≠ []) (js "empty " ++ key.streamKind.text ++ js " stream row")
  (rowsInOrder key events).mapError (labelled "raw event-chain verification failed: ")
  (verifyEventChain events).mapError fun code =>
    labelled "raw event-chain verification failed: " (DomainError.text code)
  ensure (events.length = head.headSequence ∧
    events.getLast?.map HashedEventEnvelopeV1.envelopeHash = head.headHash)
    (js "stream head mismatch")
  (replayStream recoverWorkspace key.streamKind events).mapError
    (labelled "semantic event replay failed: ")
  ensure (key.streamKind = .workspace → key.streamId = key.workspaceId)
    (js "workspace stream identity mismatch")

/-- `verifyAuthority`, without the artifact files. -/
def verifyAuthority (state : Authority) : Except JsString Unit := do
  state.streams.entries.forM fun (key, head) => verifyStream state key head
  state.streams.keys.forM fun key =>
    ensure (key.streamKind = .run → (state.streams.get (.workspace key.workspaceId)).isSome = true)
      (js "orphan run authority " ++ key.workspaceId ++ js "/" ++ key.streamId)

end Loops

section Agreement

variable [Engine] {events : List HashedEventEnvelopeV1} {item : HashedEventEnvelopeV1}
  {state next : Option WorkspaceState}

def isAdmissionRecord : DomainEventPayloadV1 → Bool
  | .workspace (.workspaceAdmissionRecordedV1 ..) => true
  | _ => false

omit [Engine] in
-- What the replay reads of an event, the loops read as well unless it records an admission.
theorem payload_read {payload : DomainEventPayloadV1} {event : WorkspaceOperationalPayload}
    (read : workspacePayload payload = .ok event) (other : isAdmissionRecord payload = false) :
    recoveredPayload payload = .ok event ∧ importedPayload payload = .ok event := by
  cases payload with
  | run payload => cases read
  | workspace payload =>
      cases payload with
      | workspaceCreatedV1 =>
          simp only [workspacePayload, check_ok_iff, pure_ok_iff] at read
          rcases read with ⟨_, rfl⟩
          exact ⟨rfl, rfl⟩
      | policyReferenceChangedV1 =>
          simp only [workspacePayload, check_ok_iff, pure_ok_iff] at read
          rcases read with ⟨_, rfl⟩
          exact ⟨rfl, rfl⟩
      | workspaceAdmissionRecordedV1 => cases other

theorem event_replayed (parsed : parseDomainEventPayloadV1 item.envelope.payload = .ok ())
    (other : isAdmissionRecord item.envelope.payload = false)
    (replayed : replayWorkspaceEvent state item = .ok next) :
    recoverEvent state item = .ok next ∧ importEvent state item = .ok next := by
  simp only [replayWorkspaceEvent, bind_ok_iff, ensure_ok_iff, pure_ok_iff] at replayed
  rcases replayed with ⟨_, _, _, _, _, same, event, read, after, reduced, rfl⟩
  rcases payload_read read other with ⟨recovered, imported⟩
  rw [← same] at reduced
  simp only [recoverEvent, importEvent, bind_ok_iff, map_error_ok_iff, pure_ok_iff]
  exact ⟨⟨(), parsed, event, recovered, after, reduced, rfl⟩, event, imported, after, reduced, rfl⟩

-- Both loops refuse a record of an admission, in whatever state they are.
theorem admission_refused (admission : isAdmissionRecord item.envelope.payload = true) :
    (∀ after, recoverEvent state item ≠ .ok after) ∧ ∀ after, importEvent state item ≠ .ok after := by
  have refused : (∀ event, recoveredPayload item.envelope.payload ≠ .ok event) ∧
      ∀ event, importedPayload item.envelope.payload ≠ .ok event := by
    cases shape : item.envelope.payload with
    | run payload => simp [shape, isAdmissionRecord] at admission
    | workspace payload =>
        cases payload with
        | workspaceCreatedV1 => simp [shape, isAdmissionRecord] at admission
        | policyReferenceChangedV1 => simp [shape, isAdmissionRecord] at admission
        | workspaceAdmissionRecordedV1 => exact ⟨nofun, nofun⟩
  constructor
  · intro after accepted
    simp only [recoverEvent, bind_ok_iff] at accepted
    rcases accepted with ⟨_, _, event, read, _⟩
    exact refused.1 event read
  · intro after accepted
    simp only [importEvent, bind_ok_iff] at accepted
    rcases accepted with ⟨event, read, _⟩
    exact refused.2 event read

-- The loops follow the replay through events that record no admission.
theorem loops_follow
    (parsed : ∀ item ∈ events, parseDomainEventPayloadV1 item.envelope.payload = .ok ())
    (other : ∀ item ∈ events, isAdmissionRecord item.envelope.payload = false)
    (folded : events.foldlM replayWorkspaceEvent state = .ok next) :
    events.foldlM recoverEvent state = .ok next ∧ events.foldlM importEvent state = .ok next := by
  induction events generalizing state with
  | nil =>
      rw [List.foldlM_nil, pure_ok_iff] at folded
      subst folded
      exact ⟨rfl, rfl⟩
  | cons item rest ih =>
      rcases (foldlM_cons_ok_iff _ _ _ _ _).mp folded with ⟨middle, first, later⟩
      have both := event_replayed (parsed item List.mem_cons_self) (other item List.mem_cons_self) first
      have tail := ih (fun item member => parsed item (List.mem_cons_of_mem _ member))
        (fun item member => other item (List.mem_cons_of_mem _ member)) later
      exact ⟨(foldlM_cons_ok_iff _ _ _ _ _).mpr ⟨middle, both.1, tail.1⟩,
        (foldlM_cons_ok_iff _ _ _ _ _).mpr ⟨middle, both.2, tail.2⟩⟩

theorem workspace_replay_ok_iff {result : WorkspaceState} :
    deterministicWorkspaceReplay events = .ok result ↔ verifyEventChain events = .ok () ∧
      (∃ first, events.head? = some first ∧ first.envelope.streamKind = .workspace) ∧
      events.foldlM replayWorkspaceEvent none = .ok (some result) := by
  simp only [deterministicWorkspaceReplay, bind_ok_iff, required_ok_iff, ensure_ok_iff]
  constructor
  · rintro ⟨_, verified, first, head, _, kind, _, folded, rfl⟩
    exact ⟨verified, ⟨first, head, kind⟩, folded⟩
  · rintro ⟨verified, ⟨first, head, kind⟩, folded⟩
    exact ⟨(), verified, first, head, (), kind, _, folded, rfl⟩

/-- The verifications agree with the replay of a workspace on the chains without records of
admissions, and on no other. -/
theorem verifications_agree_iff {result : WorkspaceState}
    (replayed : deterministicWorkspaceReplay events = .ok result) :
    (recoverWorkspace events = .ok (some result) ∧ importWorkspace events = .ok (some result)) ↔
      ∀ item ∈ events, isAdmissionRecord item.envelope.payload = false := by
  rcases workspace_replay_ok_iff.mp replayed with ⟨verified, _, folded⟩
  constructor
  · rintro ⟨recovered, _⟩ item member
    by_contra admission
    rcases foldlM_member recovered item member with ⟨before, after, accepted⟩
    exact (admission_refused (by simpa using admission)).1 after accepted
  · intro other
    exact loops_follow (fun item member => (verified_member verified item member).1) other folded

end Agreement

section Served

open Records JsonValues Turns AppendLog

variable [Engine] {around : Surroundings} {state after : Authority} {labels emitted : List Served}
  {key : StreamKey} {head : StreamRow} {added : List EventRow} {recorded : List CommandRow}

/-- A workspace stream is named by its workspace, and a run has the stream of its workspace. -/
def Housed (state : Authority) (key : StreamKey) : Prop :=
  (key.streamKind = .workspace → key.streamId = key.workspaceId) ∧
    (key.streamKind = .run → (state.streams.get (.workspace key.workspaceId)).isSome = true)

def Owned (state : Authority) : Prop :=
  ∀ key, (state.streams.get key).isSome = true → Housed state key

theorem extends_owned (owned : Owned state) (extended : Extends state added recorded after)
    (housed : ∀ row ∈ added, Housed state row.key) : Owned after := by
  intro key present
  have before : Housed state key := by
    by_cases touched : ∃ row ∈ added, row.key = key
    · rcases touched with ⟨row, member, rfl⟩
      exact housed row member
    · rw [extended.others key fun row member same => touched ⟨row, member, same⟩] at present
      exact owned key present
  exact ⟨before.1, fun kind => rows_kept extended (before.2 kind)⟩

-- Past the start of a stream, a write finds the stream; at the start, its events are checked.
theorem append_housed {append : AppendRequest} {head : AppendHead} (owned : Owned state)
    (written : writeAppend state append = .ok (head, after))
    (later : append.streamKind = .run → append.expectedSequence ≠ 0) : Housed state append.key := by
  simp only [writeAppend, bind_ok_iff, ensure_ok_iff] at written
  rcases written with ⟨_, valid, _, ⟨place, _⟩, _⟩
  simp only [validateAppend, bind_ok_iff, ensure_ok_iff] at valid
  rcases valid with ⟨_, filled, _, _, checks⟩
  have checked : ∃ last, append.events.foldlM (validateEvent append)
      ⟨append.expectedSequence, append.expectedEnvelopeHash⟩ = .ok last := by
    split at checks
    · simp only [bind_ok_iff] at checks
      rcases checks with ⟨_, _, _, _, last, folded, _⟩
      exact ⟨last, folded⟩
    · simp only [bind_ok_iff] at checks
      rcases checks with ⟨_, _, last, folded, _⟩
      exact ⟨last, folded⟩
  rcases checked with ⟨last, folded⟩
  constructor
  · intro kind
    obtain ⟨event, member⟩ := List.exists_mem_of_ne_nil _ filled
    rcases foldlM_member folded event member with ⟨_, _, checked⟩
    simp only [validateEvent, bind_ok_iff, ensure_ok_iff] at checked
    rcases checked with ⟨_, _, _, named, _⟩
    exact named kind
  · intro kind
    refine (owned append.key ?_).2 kind
    cases found : state.streams.get append.key with
    | none => exact absurd (by simpa [found] using place.symm) (later kind)
    | some row => rfl

theorem genesis_housed {genesis : RunGenesisAppendRequest} {head : AppendHead}
    (written : writeRunGenesis around state genesis = .ok (head, after)) :
    ∀ row ∈ genesisRows genesis, Housed state row.key := by
  simp only [writeRunGenesis, bind_ok_iff, required_ok_iff] at written
  rcases written with ⟨_, _, workspace, found, _⟩
  intro row member
  obtain rfl := List.mem_singleton.mp member
  exact ⟨by rintro ⟨⟩, fun _ => congrArg Option.isSome found⟩

theorem part_owned {Part : Type} {write : Authority → Part → Except StoreError (AppendHead × Authority)}
    {rows : Part → List EventRow} {part : Option Part} {head : Option AppendHead} (owned : Owned state)
    (adds : Adds write rows) (housed : ∀ item ∈ part, ∀ head after,
      write state item = .ok (head, after) → ∀ row ∈ rows item, Housed state row.key)
    (written : writePart write state part = .ok (head, after)) : Owned after := by
  cases part with
  | none =>
      simp only [writePart, Except.ok.injEq, Prod.mk.injEq] at written
      exact written.2 ▸ owned
  | some item =>
      simp only [writePart, bind_ok_iff, pure_ok_iff, Prod.mk.injEq] at written
      rcases written with ⟨⟨found, next⟩, wrote, -, rfl⟩
      exact extends_owned owned (adds _ _ _ _ wrote) (housed item rfl _ _ wrote)

theorem append_owned {part : Option AppendRequest} {head : Option AppendHead} (owned : Owned state)
    (later : ∀ append ∈ part, append.streamKind = .run → append.expectedSequence ≠ 0)
    (written : writePart writeAppend state part = .ok (head, after)) : Owned after := by
  refine part_owned owned appends_extend (fun append member _ _ wrote row listed => ?_) written
  rcases List.mem_map.mp listed with ⟨event, _, rfl⟩
  exact append_housed owned wrote (later append member)

omit [Engine] in
theorem kinds_later {request : AtomicAppendRequest}
    (kinds : appendKinds request = .ok ()) : ∀ append ∈ request.workspace,
      append.streamKind = .run → append.expectedSequence ≠ 0 := by
  simp only [appendKinds, check_ok_iff, ensure_ok_iff] at kinds
  intro append member kind
  rw [kinds.1 append member] at kind
  cases kind

theorem perform_owned {request : StoreRequest} {answer : Option JsValue} (owned : Owned state)
    (performed : perform around state request = .ok (answer, after)) : Owned after := by
  have beside : ∀ {state after recorded}, Owned state → Extends state [] recorded after →
      Owned after := fun owned extended => extends_owned owned extended (by simp)
  cases request with
  | append request =>
      simp only [perform, appendAtomic, bind_ok_iff, ensure_ok_iff, pure_ok_iff,
        Prod.mk.injEq] at performed
      rcases performed with ⟨⟨_, _⟩, ⟨_, _, _, later, _, _, _, kinds, _, _, _, _, accepted⟩, -, rfl⟩
      split at accepted
      · simp only [bind_ok_iff, pure_ok_iff, Prod.mk.injEq] at accepted
        rcases accepted with ⟨_, _, _, _, -, rfl⟩
        exact owned
      · simp only [bind_ok_iff, pure_ok_iff, Prod.mk.injEq] at accepted
        rcases accepted with ⟨_, _, ⟨_, _⟩, workspace, ⟨_, _⟩, run, ⟨_, _⟩, genesis, _, inserted, -, rfl⟩
        have first := append_owned owned (kinds_later kinds) workspace
        have second := append_owned first (fun append member _ => later append member) run
        have third := part_owned second genesis_extend (fun _ _ _ _ => genesis_housed) genesis
        exact beside third (command_extends inserted)
  | publish request =>
      simp only [perform, publishAndAppendAtomic, bind_ok_iff, pure_ok_iff, Prod.mk.injEq] at performed
      rcases performed with ⟨⟨_, _⟩, ⟨_, _, _, admissible, _, _, accepted⟩, -, rfl⟩
      simp only [publicationAdmissible, bind_ok_iff, ensure_ok_iff] at admissible
      rcases admissible with ⟨_, _, _, _, _, _, _, _, _, later, _, kinds, _⟩
      split at accepted
      · simp only [bind_ok_iff, pure_ok_iff, Prod.mk.injEq] at accepted
        rcases accepted with ⟨_, _, -, rfl⟩
        exact owned
      · simp only [bind_ok_iff, pure_ok_iff, Prod.mk.injEq] at accepted
        rcases accepted with ⟨_, _, _, _, _, _, _, catalogued, ⟨_, _⟩, workspace, ⟨_, _⟩, run, _,
          referenced, _, _, _, moved, _, pictures, _, inserted, -, rfl⟩
        have before := beside owned (fold_beside register_beside catalogued)
        have first := append_owned before (kinds_later kinds) workspace
        have second := append_owned first (fun append member _ => later append member) run
        exact beside (beside (beside (beside second (fold_beside owners_beside referenced))
          (fold_beside projection_beside moved)) (fold_beside snapshot_beside pictures))
          (command_extends inserted)
  | command input result =>
      rcases execution_accepted performed with
        ⟨_, _, _, _, rfl⟩ | ⟨_, _, _, commits⟩ | ⟨_, _, _, rfl⟩
      · exact owned
      · exact beside owned commits.extended
      · exact owned

theorem owned_history (run : Runs LogStep Authority.fresh labels state) : Owned state := by
  refine runs_invariant (fun _ state => Owned state) (fun key present => by cases present) ?_ run
  rintro _ state _ _ _ owned ⟨around, request, rfl, -⟩
  unfold serve
  split
  · next performed => exact perform_owned owned performed
  · exact owned

def verifyReplay (state : Authority) (key : StreamKey) : Except JsString Unit :=
  (replayStream recoverWorkspace key.streamKind (state.rows key)).mapError
    (labelled "semantic event replay failed: ")

omit [Engine] in
theorem safe_numbered (safe : StreamSafe state key) (found : state.streams.get key = some head) :
    rowsInOrder key (state.rows key) = .ok () := by
  cases safe with
  | absent noRow _ => rw [noRow] at found; cases found
  | headed row last _ ends number hash chained own =>
      refine (forM_ok_iff _ _ _).mpr ?_
      rintro ⟨event, place⟩ member
      obtain ⟨small, here⟩ := List.mem_zipIdx' member
      have number := chained_number chained small
      rw [← here] at number
      simp only [bind_ok_iff, ensure_ok_iff]
      exact ⟨(), own event (here ▸ List.getElem_mem small), number⟩

theorem authentic_verified (authentic : Authentic state key) (housed : Housed state key)
    (found : state.streams.get key = some head) :
    verifyStream state key head = verifyReplay state key := by
  rcases authentic with ⟨rows, authenticated⟩
  obtain ⟨safe, rfl⟩ := authenticated_safe authenticated
  have ordered := safe_numbered safe found
  cases safe with
  | absent noRow _ => rw [found] at noRow; cases noRow
  | headed row last present ends number hash _ _ =>
      obtain rfl : row = head := Option.some.inj (present.symm.trans found)
      have verified : verifyEventChain (state.rows key) = .ok () := by
        simp only [authenticatedRows, found, bind_ok_iff, map_error_ok_iff] at authenticated
        obtain ⟨_, _, _, _, _, _, _, verified, _⟩ := authenticated
        exact verified
      have filled : state.rows key ≠ [] := fun empty => by simp [empty] at ends
      simp only [verifyStream, verifyReplay, ordered, verified, ends, number, hash,
        ensure_true _ filled, ensure_true _ housed.1, Option.map_some, and_self]
      cases (replayStream recoverWorkspace key.streamKind (state.rows key)) <;> rfl

omit [Engine] in
theorem forM_agree {Item Failure : Type} {items : List Item} {left right : Item → Except Failure Unit}
    (agree : ∀ item ∈ items, left item = right item) : forM items left = forM items right := by
  induction items with
  | nil => rfl
  | cons item rest ih =>
      rw [List.forM_cons, List.forM_cons, agree item List.mem_cons_self,
        ih fun item member => agree item (List.mem_cons_of_mem _ member)]

/-- On an authority that requests wrote, whatever they were, the checks of rows, heads and owners
all pass: the verification is the replay of its streams. -/
theorem served_verification (run : Runs LogStep Authority.fresh labels state) :
    verifyAuthority state = state.streams.keys.forM (verifyReplay state) := by
  have owned := owned_history run
  have streams : (state.streams.entries.forM fun (key, head) => verifyStream state key head) =
      state.streams.keys.forM (verifyReplay state) := by
    simp only [Record.keys, List.forM_eq_forM, List.forM_map]
    apply forM_agree
    rintro ⟨key, head⟩ member
    have found := (Record.mem_entries_iff state.streams key head).mp member
    exact authentic_verified ((log_history run).authentic key) (owned key (by rw [found]; rfl)) found
  have housed : (state.streams.keys.forM fun key =>
      ensure (key.streamKind = .run → (state.streams.get (.workspace key.workspaceId)).isSome = true)
        (js "orphan run authority " ++ key.workspaceId ++ js "/" ++ key.streamId)) = .ok () := by
    refine (forM_ok_iff _ _ _).mpr fun key member => (ensure_ok_iff _ _ _).mpr ?_
    obtain ⟨head, found⟩ := (Record.mem_keys_iff _ _).mp member
    exact (owned key (by rw [found]; rfl)).2
  rw [verifyAuthority, streams, housed]
  cases state.streams.keys.forM (verifyReplay state) <;> rfl

end Served

section Recorded

def verificationDigests : List (Nat × JsString) :=
  [(5255095637123649113, js "592749a8f202ab1ab0c69caa04dc979610429b2010482bf5e367e8c3709d3cf1"),
    (7202208118882661983, js "b48923debafe354688d0654c27afa617b6fb1d8d19a0e73b795e2f79abf3aacb"),
    (5681416091440857426, js "638ed4d9b44681391494e042f346575d120957081be3ee280a610b9d5ee3b8bd"),
    (16893627154476505681, js "ea24abca59dfd51ca866f2ffe46280cf63aed405b314ce2bf317f8855c120514"),
    (5918039202959084574, js "dc368012f2845787f91b8664fd3369c8fcb9ba9e4362f4726eefbe5cab70ee03"),
    (10488734434443426897, js "3d82438a620d98086acb92628c987e88ed45944f1b4803b2ecd41c66f408fde8")]

@[reducible] def verificationEngine : Engine :=
  { recordedEngine with
    sha256Hex := fun text => (verificationDigests.lookup (fingerprint text)).getD (122 :: text) }

attribute [local instance] verificationEngine

def recordedWorkspace : DomainEventPayloadV1 :=
  .workspace (.workspaceCreatedV1 (js "w") (js "u") (js "g") (js "m") (js "d"))

def policyChain : List HashedEventEnvelopeV1 :=
  sealedChain .workspace [recordedWorkspace, .workspace (.policyReferenceChangedV1 (js "w") (js "e"))]

theorem policy_chain_verified : ∃ result, deterministicWorkspaceReplay policyChain = .ok result ∧
    recoverWorkspace policyChain = .ok (some result) ∧
    importWorkspace policyChain = .ok (some result) := by
  have accepted : endsIn (fun _ => policyChain.all fun item =>
      !isAdmissionRecord item.envelope.payload) (deterministicWorkspaceReplay policyChain) = true := by
    decide +kernel
  obtain ⟨result, ran, plain⟩ := ends_in_exists accepted
  exact ⟨result, ran, (verifications_agree_iff ran).mpr fun item member => by
    simpa using List.all_eq_true.mp plain item member⟩

def quarantineChain : List HashedEventEnvelopeV1 :=
  sealedChain .workspace [recordedWorkspace, recordedDecision "d1" .quarantined .no]

/-- The workspace replays, and both verifications refuse it. -/
theorem admission_stops_verification :
    ∃ result, deterministicWorkspaceReplay quarantineChain = .ok result ∧
      recoverWorkspace quarantineChain = .error (js "workspace stream contains run event") ∧
      importWorkspace quarantineChain = .error
        (js "unsupported workspace replay event: WorkspaceAdmissionRecordedV1") := by
  have checked : endsIn (fun _ => failsWith (js "workspace stream contains run event")
        (recoverWorkspace quarantineChain) &&
      failsWith (js "unsupported workspace replay event: WorkspaceAdmissionRecordedV1")
        (importWorkspace quarantineChain)) (deterministicWorkspaceReplay quarantineChain) = true := by
    decide +kernel
  obtain ⟨result, ran, refused⟩ := ends_in_exists checked
  rw [Bool.and_eq_true] at refused
  exact ⟨result, ran, fails_with_eq refused.1, fails_with_eq refused.2⟩

def foundedRequest : StoreRequest :=
  .append ⟨js "c", some ⟨.workspace, js "w", js "w", 0, none,
    sealedChain .workspace [recordedWorkspace]⟩, none, none, none, none, none⟩

def foundedAuthority : Authority := (serve AppendLog.openSession foundedRequest Authority.fresh).2

/-- The creation of a workspace is served, and what it wrote verifies. -/
theorem served_verification_founded : foundedAuthority.events.length = 1 ∧
    verifyAuthority foundedAuthority =
      foundedAuthority.streams.keys.forM (verifyReplay foundedAuthority) :=
  ⟨by decide +kernel,
    served_verification (Turns.Runs.step .start ⟨AppendLog.openSession, foundedRequest, rfl, rfl⟩)⟩

end Recorded

end Horseness.AuthorityVerification
