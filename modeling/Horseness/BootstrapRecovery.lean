import Horseness.WorkspaceBootstrap
import Horseness.IdealDigests

/-!
What an initialization leaves wherever its process stops, and which of the retries after it
succeed. A founded workspace has one genesis and one grant, whoever retries; the ceremony takes
up nothing that a stopped one has left.
-/

namespace Horseness.BootstrapRecovery

open FallibleRuns CrashScripts Records ScriptText JsonValues ScriptEngine Canonical Cursors
  EventPayloads EventChains ReplayIdentity RecordedRuns IdealDigests AuthorityLog ServiceViews
  GrantStore PolicyDocuments WellFormedText WorkspaceBootstrap

section Foundations

variable [Engine] {config : DaemonConfigV1} {draw : Draw}

/-- What `randomUUID`, `randomBytes`, the clock and the configuration answer with. -/
structure Usable (config : DaemonConfigV1) (draw : Draw) : Prop where
  workspace : config.workspaceId ≠ [] ∧ validUnicode config.workspaceId = true
  identity : validUnicode config.osIdentity = true
  user : validUnicode config.userName = true
  authority : draw.authorityId ≠ []
  secret : draw.authoritySecret.length = 32
  capability : draw.capabilityId ≠ [] ∧ validUnicode draw.capabilityId = true
  principal : validUnicode draw.principalId = true
  grant : validUnicode draw.grantId = true
  clock : Engine.dateParse (Engine.toISOString draw.consumedAt) = some draw.consumedAt
  expiry : Engine.dateParse (Engine.toISOString (draw.consumedAt + grantLifetime)) =
    some (draw.consumedAt + grantLifetime)
  printed : validUnicode (Engine.toISOString (draw.consumedAt + grantLifetime)) = true

/-- The first event of a workspace, sealed. -/
structure Genesis (workspaceId : JsString) (event : HashedEventEnvelopeV1) : Prop where
  kind : event.envelope.streamKind = .workspace
  workspace : event.envelope.workspaceId = workspaceId
  stream : event.envelope.streamId = workspaceId
  sequence : event.envelope.sequence = 1
  prior : event.envelope.priorEnvelopeHash = none
  texts : ∀ text ∈ envelopeTexts event.envelope, text ≠ []
  created : event.envelope.eventType = js "WorkspaceCreatedV1"
  parsed : parseDomainEventPayloadV1 event.envelope.payload = .ok ()
  identity : payloadIdentity event.envelope
  hashed : domainDigest (js "horseness.event-payload.v1") event.envelope.payload.toJson =
    .ok event.envelope.payloadHash
  whole : domainDigest (js "horseness.event-envelope.v1") event.envelope.toJson =
    .ok event.envelopeHash

section Genesis

variable {workspaceId principalId grantDigest marker policy commandId : JsString}
  {event : HashedEventEnvelopeV1}

theorem created_genesis (sealed : createWorkspaceGenesis workspaceId principalId grantDigest marker
      policy commandId = .ok event)
    (named : ∀ text ∈ [workspaceId, principalId, grantDigest, marker, policy, commandId],
      text ≠ []) : Genesis workspaceId event := by
  simp only [createWorkspaceGenesis, sealEventEnvelope, bind_ok_iff, pure_ok_iff] at sealed
  obtain ⟨payloadHash, hashed, envelopeHash, whole, rfl⟩ := sealed
  simp only [List.forall_mem_cons] at named
  obtain ⟨workspace, principal, grant, marked, pinned, command, -⟩ := named
  constructor
  case texts =>
    simp only [envelopeTexts, genesisEnvelope, List.forall_mem_cons]
    exact ⟨List.append_ne_nil_of_left_ne_nil command _, by decide, principal, command, command,
      command, by simp⟩
  case parsed =>
    rw [genesisEnvelope, parseDomainEventPayloadV1, parseWorkspaceEventPayloadV1,
      List.forM_eq_forM, forM_ok_iff]
    simp only [payloadText, nonEmpty, ensure_ok_iff, List.forall_mem_cons]
    exact ⟨workspace, principal, grant, marked, pinned, by simp⟩
  case identity => exact ⟨rfl, rfl, rfl⟩
  case hashed => exact hashed
  case whole => exact whole
  all_goals rfl

theorem genesis_verified (genesis : Genesis workspaceId event) :
    verifyEventChain [event] = .ok () := by
  have texts : (envelopeTexts event.envelope).forM (nonEmpty · .eventEnvelopeInvalid) = .ok () := by
    rw [List.forM_eq_forM, forM_ok_iff]
    exact fun text member => ensure_true _ (genesis.texts text member)
  have step : verifyEvent event.envelope ⟨0, none⟩ event = .ok ⟨1, some event.envelopeHash⟩ := by
    simp [verifyEvent, ensure, texts, genesis.sequence, genesis.prior, genesis.hashed, genesis.whole,
      genesis.parsed, genesis.identity.1, Except.mapError, show 1 ≤ maxSafeInteger by decide]
  simp [verifyEventChain, required, ensure, step, genesis.kind, genesis.stream, genesis.workspace,
    genesis.created, genesis.prior, genesis.sequence, genesisType]

def foundedLog (workspaceId : JsString) (event : HashedEventEnvelopeV1) : Authority :=
  { Authority.fresh with
    streams := (∅ : Record StreamKey StreamRow).set (.workspace workspaceId) ⟨0, none, 0⟩ |>.set
      (.workspace workspaceId) ⟨1, some event.envelopeHash, 0⟩
    events := [⟨.workspace workspaceId, event⟩] }

theorem founded_rows (genesis : Genesis workspaceId event) {log : Authority}
    (streams : log.streams = (foundedLog workspaceId event).streams)
    (events : log.events = (foundedLog workspaceId event).events) :
    authenticatedRows log (.workspace workspaceId) = .ok [event] := by
  have rows : log.rows (.workspace workspaceId) = [event] := by
    simp [Authority.rows, events, foundedLog]
  have head : log.streams.get (.workspace workspaceId) = some ⟨1, some event.envelopeHash, 0⟩ := by
    rw [streams, foundedLog, Record.get_set_same]
  simp only [authenticatedRows, head, rows]
  simp [ensure, required, genesis_verified genesis, genesis.kind, genesis.workspace, genesis.stream,
    genesis.sequence, genesis.prior, StreamKey.workspace, Except.mapError]

-- The genesis of a workspace is written to an empty log, and stands there alone.
theorem genesis_written (genesis : Genesis workspaceId event) :
    writeAppend Authority.fresh ⟨.workspace, workspaceId, workspaceId, 0, none, [event]⟩ =
      .ok (⟨1, event.envelopeHash⟩, foundedLog workspaceId event) := by
  have rows : authenticatedRows (foundedLog workspaceId event) (.workspace workspaceId) =
      .ok [event] := founded_rows genesis rfl rfl
  have step : validateEvent ⟨.workspace, workspaceId, workspaceId, 0, none, [event]⟩ ⟨0, none⟩ event =
      .ok ⟨1, some event.envelopeHash⟩ := by
    simp [validateEvent, ensure, genesis.kind, genesis.workspace, genesis.stream, genesis.sequence,
      genesis.prior, genesis.parsed, genesis.identity, genesis.hashed, genesis.whole, Except.mapError]
  have validated : validateAppend ⟨.workspace, workspaceId, workspaceId, 0, none, [event]⟩ =
      .ok () := by
    simp [validateAppend, ensure, step, genesis_verified genesis, Except.mapError]
  have inserted : insertEvent (.workspace workspaceId)
      (Authority.fresh.openStream (.workspace workspaceId)) event =
        .ok { (Authority.fresh.openStream (.workspace workspaceId)) with
          events := [⟨.workspace workspaceId, event⟩] } := rfl
  have key : AppendRequest.key ⟨.workspace, workspaceId, workspaceId, 0, none, [event]⟩ =
      .workspace workspaceId := rfl
  have head : Authority.fresh.streams.get (.workspace workspaceId) = none := rfl
  have moved : ({ (Authority.fresh.openStream (.workspace workspaceId)) with
      events := [⟨.workspace workspaceId, event⟩] } : Authority).setStream (.workspace workspaceId)
        ⟨1, some event.envelopeHash, 0⟩ = foundedLog workspaceId event := rfl
  simp [writeAppend, validated, key, head, ensure, inserted, required, genesis.sequence, moved, rows]

end Genesis

section Values

omit [Engine] in
theorem methods_valid : ∀ item ∈ authorityMethods.map ProtocolMethodV1.text,
    validUnicode item = true := by decide +kernel

variable {principalId expiresAt : JsString}

theorem grant_core_valid (usable : Usable config draw) (principal : validUnicode principalId = true)
    (expires : validUnicode expiresAt = true) :
    assertJson (object (coreFields (authorityGrantCore config principalId expiresAt))) = .ok () := by
  refine object_valid (by rfl) ?_
  simp only [coreFields, authorityGrantCore, List.map_cons, List.forall_mem_cons, assert_str_ok_iff,
    nullable, null_valid, principal, expires, usable.workspace.2, usable.identity,
    texts_valid methods_valid, PrincipalRole.text, true_and]
  exact ⟨by decide, by decide, nofun⟩

theorem marker_valid (usable : Usable config draw) :
    assertJson (object [("capabilityId", .str draw.capabilityId),
      ("workspaceId", .str config.workspaceId), ("osIdentity", .str config.osIdentity)]) = .ok () := by
  refine object_valid (by rfl) ?_
  simp only [List.map_cons, List.forall_mem_cons, assert_str_ok_iff, usable.capability.2,
    usable.workspace.2, usable.identity, true_and]
  exact nofun

omit [Engine] in
theorem payload_valid {workspaceId principalId grantDigest marker policy : JsString}
    (texts : ∀ text ∈ [workspaceId, principalId, grantDigest, marker, policy],
      validUnicode text = true) :
    assertJson (DomainEventPayloadV1.workspace (.workspaceCreatedV1 workspaceId principalId
      grantDigest marker policy)).toJson = .ok () := by
  simp only [List.forall_mem_cons] at texts
  obtain ⟨workspace, principal, grant, marked, pinned, -⟩ := texts
  refine object_valid (by rfl) ?_
  simp only [workspaceFields, List.map_cons, List.forall_mem_cons, assert_str_ok_iff, workspace,
    principal, grant, marked, pinned, true_and]
  exact ⟨(by decide : validUnicode (js "WorkspaceCreatedV1") = true), nofun⟩

omit [Engine] in
theorem hashed_event_valid {event : HashedEventEnvelopeV1}
    (whole : assertJson event.envelope.toJson = .ok ())
    (hash : validUnicode event.envelopeHash = true) :
    assertJson (HashedEventEnvelopeV1.toJson event) = .ok () := by
  refine object_valid (by rfl) ?_
  simp only [List.map_cons, List.forall_mem_cons, assert_str_ok_iff, whole, hash, true_and]
  exact nofun

end Values

section Commits

variable {principalId : JsString}

-- The genesis of a workspace can be sealed, and its JSON is acceptable.
theorem genesis_made (law : Hexadecimal Engine.sha256Hex)
    {workspaceId grantDigest marker policy commandId : JsString}
    (texts : ∀ text ∈ [workspaceId, principalId, grantDigest, marker, policy, commandId],
      text ≠ [] ∧ validUnicode text = true) :
    ∃ event, createWorkspaceGenesis workspaceId principalId grantDigest marker policy commandId =
        .ok event ∧ Genesis workspaceId event ∧
      assertJson (HashedEventEnvelopeV1.toJson event) = .ok () ∧
      validUnicode event.envelopeHash = true ∧ event.envelope.causationId = commandId := by
  have named := texts
  simp only [List.forall_mem_cons] at texts
  obtain ⟨workspace, principal, grant, marked, pinned, command, -⟩ := texts
  have spelled : ∀ text ∈ [workspaceId, principalId, grantDigest, marker, policy],
      validUnicode text = true := by
    simp only [List.forall_mem_cons, workspace.2, principal.2, grant.2, marked.2, pinned.2, true_and]
    exact nofun
  have payload := payload_valid spelled
  obtain ⟨payloadHash, hashed, -, printed⟩ := digest_made law (js "horseness.event-payload.v1") payload
  have envelope : assertJson { genesisEnvelope workspaceId principalId grantDigest marker policy
      commandId with payloadHash := payloadHash }.toJson = .ok () := by
    refine object_valid (by rfl) ?_
    simp only [genesisEnvelope, List.map_cons, List.forall_mem_cons, assert_str_ok_iff, nullable,
      null_valid, natural_valid, payload, workspace.2, principal.2, command.2, printed, true_and]
    exact ⟨by decide, by decide, valid_append command.2 (by decide), by decide, nofun⟩
  obtain ⟨hash, whole, -, sound⟩ := digest_made law (js "horseness.event-envelope.v1") envelope
  have sealed : createWorkspaceGenesis workspaceId principalId grantDigest marker policy commandId =
      .ok ⟨{ genesisEnvelope workspaceId principalId grantDigest marker policy commandId with
        payloadHash := payloadHash }, hash⟩ :=
    bind_ok_iff.mpr ⟨payloadHash, hashed, bind_ok_iff.mpr ⟨hash, whole, rfl⟩⟩
  exact ⟨_, sealed, created_genesis sealed fun text member => (named text member).1,
    hashed_event_valid envelope sound, sound, rfl⟩

variable {grantDigest : JsString}

def foundedGrant (config : DaemonConfigV1) (draw : Draw) (principalId grantDigest : JsString) :
    AuthenticatedGrantV1 :=
  { authorityGrantCore config principalId
      (Engine.toISOString (draw.consumedAt + grantLifetime)) with grantDigest := grantDigest }

theorem state_valid (usable : Usable config draw) (principal : validUnicode principalId = true)
    (grant : validUnicode grantDigest = true) :
    assertJson (initialState (js "grant:" ++ draw.grantId)
      (foundedGrant config draw principalId grantDigest) false).toJson = .ok () := by
  have reference : validUnicode (js "grant:" ++ draw.grantId) = true :=
    valid_append (by decide) usable.grant
  have stored : assertJson (StoredGrantV1.toJson ⟨foundedGrant config draw principalId grantDigest,
      false, js "grant:" ++ draw.grantId, none⟩) = .ok () := by
    refine object_valid (by rfl) ?_
    simp only [coreFields, foundedGrant, authorityGrantCore, StoredGrantV1.digest, List.map_append,
      List.map_cons, List.forall_mem_append, List.forall_mem_cons, assert_str_ok_iff, nullable,
      null_valid, principal, grant, reference, usable.printed, usable.workspace.2, usable.identity,
      texts_valid methods_valid, PrincipalRole.text, true_and]
    exact ⟨⟨by decide, by decide, nofun⟩, rfl, nofun⟩
  rw [GrantAuthorityStateV1.toJson, assert_obj_ok_iff]
  refine ⟨by decide, fun entry member => ?_⟩
  simp only [initialState, Option.toList_none, List.map_nil, List.append_nil, List.mem_cons,
    List.not_mem_nil, or_false] at member
  rcases member with rfl | rfl
  · exact ⟨by decide, (assert_str_ok_iff _ ()).mpr (by decide)⟩
  · refine ⟨(by decide : validUnicode (js "grants") = true), (assert_arr_ok_iff _ ()).mpr ?_⟩
    rw [List.map_cons, List.forall_mem_cons]
    exact ⟨stored, nofun⟩

/-- What the transaction of the ceremony leaves on a database without the workspace. -/
structure Founded (config : DaemonConfigV1) (reference : JsString) (store : AuthorityStore) :
    Prop where
  genesis : ∃ event, Genesis config.workspaceId event ∧
    authenticatedRows store.log (.workspace config.workspaceId) = .ok [event]
  grant : ∃ row grant expiry, store.authorityStates = [row] ∧
    row.workspaceId = config.workspaceId ∧ row.stateKind = grantAuthorityStateKind ∧
    row.state = initialState reference grant false ∧ grantDigestOf grant = .ok grant.grantDigest ∧
    grant.peerIdentity = config.osIdentity ∧ Engine.dateParse grant.expiresAt = some expiry

theorem bootstrap_committed (law : Hexadecimal Engine.sha256Hex) {commandId : JsString}
    {workspaceId stateDigest : JsString} {event : HashedEventEnvelopeV1}
    {state : GrantAuthorityStateV1} (genesis : Genesis workspaceId event)
    (named : validUnicode commandId = true ∧ validUnicode workspaceId = true)
    (acceptable : assertJson (HashedEventEnvelopeV1.toJson event) = .ok ())
    (hash : validUnicode event.envelopeHash = true)
    (valid : assertJson state.toJson = .ok ())
    (digested : authorityStateDigest state = .ok stateDigest)
    (digits : validUnicode stateDigest = true) :
    ∃ answer commands, bootstrapWorkspaceAuthorityAtomic ⟨commandId,
      ⟨.workspace, workspaceId, workspaceId, 0, none, [event]⟩,
      ⟨workspaceId, grantAuthorityStateKind, 1, stateDigest, state⟩⟩ .fresh = .ok (answer,
        ⟨{ foundedLog workspaceId event with commands := commands },
          [⟨workspaceId, grantAuthorityStateKind, 1, stateDigest, state, commandId⟩]⟩) := by
  have append : assertJson (AppendRequest.toJson
      ⟨.workspace, workspaceId, workspaceId, 0, none, [event]⟩) = .ok () := by
    refine object_valid (by rfl) ?_
    simp only [List.map_cons, List.forall_mem_cons, assert_str_ok_iff, nullable, null_valid,
      natural_valid, named.2, assert_arr_ok_iff, acceptable, List.map_nil, true_and]
    exact ⟨by decide, by simp, by simp⟩
  have authority : assertJson (WorkspaceAuthorityState.toJson
      ⟨workspaceId, grantAuthorityStateKind, 1, stateDigest, state⟩) = .ok () := by
    refine object_valid (by rfl) ?_
    simp only [List.map_cons, List.forall_mem_cons, assert_str_ok_iff, natural_valid, named.2, valid,
      digits, true_and]
    exact ⟨by decide, by decide, by simp⟩
  have request : assertJson (BootstrapWorkspaceAuthorityRequestV1.toJson ⟨commandId,
      ⟨.workspace, workspaceId, workspaceId, 0, none, [event]⟩,
      ⟨workspaceId, grantAuthorityStateKind, 1, stateDigest, state⟩⟩) = .ok () := by
    refine object_valid (by rfl) ?_
    simp only [List.map_cons, List.forall_mem_cons, assert_str_ok_iff, named.1, append, authority,
      true_and]
    simp
  have result : assertJson (AppendResult.toJson
      ⟨commandId, some ⟨1, event.envelopeHash⟩, none, none⟩) = .ok () := by
    have head : assertJson (AppendHead.toJson ⟨1, event.envelopeHash⟩) = .ok () := by
      refine object_valid (by rfl) ?_
      simp only [List.map_cons, List.forall_mem_cons, assert_str_ok_iff, natural_valid, hash,
        true_and]
      simp
    refine object_valid (by rfl) ?_
    simp only [AuthorityLog.optional, List.append_nil, List.cons_append, List.nil_append, List.map_cons,
      List.forall_mem_cons, assert_str_ok_iff, named.1, head, true_and]
    exact ⟨rfl, by simp⟩
  obtain ⟨digest, requested, -⟩ := digest_made law
    (js "horseness.workspace-authority-bootstrap.v1") request
  have written := genesis_written genesis
  have kind : grantAuthorityStateKind ≠ [] := by decide
  obtain ⟨commands, inserted⟩ : ∃ commands, insertCommand (foundedLog workspaceId event)
      ⟨workspaceId, .workspace, workspaceId, commandId⟩ digest (AppendResult.toJson
        ⟨commandId, some ⟨1, event.envelopeHash⟩, none, none⟩) =
          .ok { foundedLog workspaceId event with commands := commands } := by
    have cloned := (clone_ok_iff _ _).mpr ⟨result, rfl⟩
    exact ⟨_, by simp only [insertCommand, cloned, Except.mapError, ok_bind]; rfl⟩
  have unused : ∀ key, AuthorityStore.fresh.log.command key = none := fun _ => rfl
  simp only [bootstrapWorkspaceAuthorityAtomic, unused, digested, requested, Except.mapError, ok_bind]
  refine ⟨AppendResult.toJson ⟨commandId, some ⟨1, event.envelopeHash⟩, none, none⟩, commands, ?_⟩
  simp only [bind_ok_iff, ensure_ok_iff, pure_ok_iff]
  exact ⟨(), ⟨trivial, trivial, rfl, trivial, trivial, kind⟩, (), trivial, (), List.forall_mem_nil _,
    _, written, _, inserted, rfl⟩

theorem foundation_made (law : Hexadecimal Engine.sha256Hex) (usable : Usable config draw)
    (principal : principalId ≠ [] ∧ validUnicode principalId = true) :
    ∃ request result answer store,
      foundation config draw (newCapability config draw principalId) = .ok (request, result) ∧
      bootstrapWorkspaceAuthorityAtomic request .fresh = .ok (answer, store) ∧
      Founded config result.grantReference store ∧
      ∀ row ∈ store.authorityStates, ∀ stored ∈ row.state.grants,
        ∃ expiry ∈ Engine.dateParse stored.grant.expiresAt, draw.consumedAt < expiry := by
  obtain ⟨grantDigest, granted, filled, printed⟩ := digest_made law (js "horseness.daemon-grant.v1")
    (grant_core_valid usable principal.2 usable.printed)
  obtain ⟨marker, marked, marking, marks⟩ := digest_made law
    (js "horseness.bootstrap-consumption.v1") (marker_valid usable)
  have command : validUnicode (js "bootstrap:" ++ draw.capabilityId) = true :=
    valid_append (by decide) usable.capability.2
  have texts : ∀ text ∈ [config.workspaceId, principalId, grantDigest, marker, noPolicyDigest,
      js "bootstrap:" ++ draw.capabilityId], text ≠ [] ∧ validUnicode text = true := by
    simp only [List.forall_mem_cons]
    exact ⟨usable.workspace, principal, ⟨filled, printed⟩, ⟨marking, marks⟩,
      ⟨(law _).1, (hexadecimal_sound law _).2⟩,
      ⟨List.append_ne_nil_of_right_ne_nil _ usable.capability.1, command⟩, nofun⟩
  obtain ⟨event, sealed, genesis, acceptable, hash, caused⟩ := genesis_made law texts
  have state := state_valid usable principal.2 printed
  obtain ⟨stateDigest, digested, -, digits⟩ := digest_made law
    (js "horseness.workspace-authority-state.v1") state
  have founding : foundation config draw (newCapability config draw principalId) = .ok
      (⟨event.envelope.causationId, ⟨.workspace, config.workspaceId, config.workspaceId, 0, none,
        [event]⟩, ⟨config.workspaceId, grantAuthorityStateKind, 1, stateDigest, initialState
          (js "grant:" ++ draw.grantId) (foundedGrant config draw principalId grantDigest) false⟩⟩,
        ⟨config.workspaceId, principalId, js "grant:" ++ draw.grantId, grantDigest⟩) := by
    simp only [foundation, grantExpiry, usable.clock, newCapability, ok_bind, bind_ok_iff,
      map_error_ok_iff, pure_ok_iff]
    exact ⟨grantDigest, granted, marker, marked, event, sealed, stateDigest, digested, rfl⟩
  rw [caused] at founding
  obtain ⟨answer, commands, committed⟩ := bootstrap_committed law genesis
    ⟨command, usable.workspace.2⟩ acceptable hash state digested digits
  refine ⟨_, _, answer, _, founding, committed, ⟨⟨event, genesis, founded_rows genesis rfl rfl⟩,
    _, foundedGrant config draw principalId grantDigest, _, rfl, rfl, rfl, rfl, granted, rfl,
    usable.expiry⟩, ?_⟩
  rw [List.forall_mem_singleton, initialState, List.forall_mem_singleton]
  exact ⟨_, usable.expiry, Int.lt_add_of_pos_right _ (by decide)⟩

end Commits

end Foundations

section Steps

variable [Engine] {secretDigest : List Nat → JsString} {config : DaemonConfigV1} {draw : Draw}
  {disk after : Disk}

def Credentialed (secretDigest : List Nat → JsString) (config : DaemonConfigV1) (disk : Disk) : Prop :=
  ∃ secret manifest, disk.secret = .written secret ∧ disk.manifest = .written manifest ∧
    credentialBound secretDigest config secret manifest

/-- What holds wherever a call stops. -/
structure Sound (secretDigest : List Nat → JsString) (config : DaemonConfigV1) (disk : Disk) :
    Prop where
  credential : disk.manifest = .absent ∨ (disk.manifest = .empty ∧ disk.secret ≠ .absent) ∨
    Credentialed secretDigest config disk
  founded : (disk.store = .fresh ∧ disk.reference = .absent) ∨
    ∃ reference, Founded config reference disk.store ∧ Credentialed secretDigest config disk ∧
      (disk.reference = .absent ∨ disk.reference = .empty ∨
        disk.reference = .written (referenceLine reference))

theorem sound_congr (sound : Sound secretDigest config disk) (secret : after.secret = disk.secret)
    (manifest : after.manifest = disk.manifest) (store : after.store = disk.store)
    (reference : after.reference = disk.reference) : Sound secretDigest config after := by
  rcases sound with ⟨credential, founded⟩
  constructor
  · simpa only [Credentialed, secret, manifest] using credential
  · simpa only [Credentialed, secret, manifest, store, reference] using founded

/-- A credential of which the secret was created and the manifest not written. -/
def HalfCredential (disk : Disk) : Prop :=
  disk.secret ≠ .absent ∧ ∀ manifest, disk.manifest ≠ .written manifest

theorem sound_unfounded (sound : Sound secretDigest config disk) (absent : disk.manifest = .absent) :
    disk.store = .fresh ∧ disk.reference = .absent := by
  refine sound.founded.resolve_right ?_
  rintro ⟨_, _, ⟨_, _, _, written, _⟩, _⟩
  exact nomatch absent.symm.trans written

theorem create_meets {post : Post Disk (Trouble Step Refusal) Unit} (usable : Usable config draw)
    (sound : Sound secretDigest config disk)
    (stopped : ∀ after, Sound secretDigest config after → post.stopped after)
    (absent : disk.secret = .absent ∧ disk.manifest = .absent)
    (returned : ∀ secret manifest, credentialBound secretDigest config secret manifest →
      post.returned () { disk with secret := .written secret, manifest := .written manifest }) :
    Meets Faults.crashes post (createCredential secretDigest config draw) disk := by
  have fresh := sound_unfounded sound absent.2
  have secretKept (secret : FileState (List Nat)) :
      Sound secretDigest config { disk with secret := secret } := ⟨.inl absent.2, .inl fresh⟩
  have manifestKept : Sound secretDigest config
      { disk with secret := .written draw.authoritySecret, manifest := .empty } :=
    ⟨.inr (.inl ⟨rfl, nofun⟩), .inl fresh⟩
  rw [createCredential, meets_bind]
  refine meets_attempt.2 ⟨fun _ => stopped _ sound, nofun, ?_⟩
  simp only [absent.1, if_true]
  refine meets_bind.2 (meets_step.2 ⟨fun _ => stopped _ (secretKept _), nofun, ?_⟩)
  refine meets_bind.2 (meets_attempt.2 ⟨fun _ => stopped _ (secretKept _), nofun, ?_⟩)
  simp only [absent.2, if_true]
  exact meets_step.2 ⟨fun _ => stopped _ manifestKept, nofun,
    returned _ _ ⟨usable.authority, rfl, rfl, rfl, usable.secret, rfl⟩⟩

omit [Engine] in
theorem read_meets {post : Post Disk (Trouble Step Refusal) Unit}
    (stopped : post.stopped disk) (answered : match loadCredential secretDigest config disk with
      | .ok () => post.returned () disk
      | .error refusal => post.threw (.refused refusal) disk) :
    Meets Faults.crashes post (readCredential secretDigest config) disk := by
  refine meets_transact.2 ⟨fun _ => stopped, nofun, ?_⟩
  revert answered
  cases loadCredential secretDigest config disk <;> exact id

theorem credential_meets {post : Post Disk (Trouble Step Refusal) Unit}
    (usable : Usable config draw) (sound : Sound secretDigest config disk)
    (stopped : ∀ after, Sound secretDigest config after → post.stopped after)
    (threw : HalfCredential disk → ∀ failure, post.threw failure disk)
    (returned : ¬HalfCredential disk → ∀ secret manifest,
      credentialBound secretDigest config secret manifest →
      post.returned () { disk with secret := .written secret, manifest := .written manifest }) :
    Meets Faults.crashes post (createOrLoadAuthorityCredential secretDigest config draw) disk := by
  rw [createOrLoadAuthorityCredential, meets_bind]
  refine meets_ask.2 ⟨fun _ => stopped _ sound, by rintro ⟨⟩, ?_⟩
  rcases sound.credential with absent | ⟨empty, created⟩ | ⟨secret, manifest, first, second, bound⟩
  · by_cases created : disk.secret = .absent
    · simp only [created, absent, ne_eq, not_true_eq_false, decide_false, Bool.or_self,
        Bool.false_eq_true, if_false]
      refine meets_bind.2 (create_meets usable sound stopped ⟨created, absent⟩ ?_)
      intro secret manifest bound
      have fresh := sound_unfounded sound absent
      refine read_meets (stopped _ ⟨.inr (.inr ⟨_, _, rfl, rfl, bound⟩), .inl fresh⟩) ?_
      simp only [loadCredential, ensure_true _ bound]
      exact returned (fun half => half.1 created) secret manifest bound
    · simp only [absent, created, ne_eq, not_true_eq_false, not_false_eq_true, decide_true,
        decide_false, Bool.or_false, if_true]
      refine meets_bind.2 (meets_refuse_unless.2 ⟨by simp, fun _ => threw ⟨created, ?_⟩ _⟩)
      exact fun _ written => by cases absent.symm.trans written
  · have half : HalfCredential disk := ⟨created, fun _ written => by cases empty.symm.trans written⟩
    simp only [empty, created, ne_eq, reduceCtorEq, not_false_eq_true, decide_true, Bool.or_true,
      if_true]
    refine meets_bind.2 (meets_refuse_unless.2 ⟨fun _ => ?_, fun _ => threw half _⟩)
    refine read_meets (stopped _ sound) ?_
    have malformed : loadCredential secretDigest config disk = .error .malformedFile := by
      rw [loadCredential, empty]
      cases disk.secret <;> rfl
    rw [malformed]
    exact threw half _
  · simp only [first, second, ne_eq, reduceCtorEq, not_false_eq_true, decide_true, Bool.or_true,
      if_true]
    refine meets_bind.2 (meets_refuse_unless.2 ⟨fun _ => ?_, fun refused => absurd ⟨trivial, trivial⟩ refused⟩)
    refine read_meets (stopped _ sound) ?_
    simp only [loadCredential, first, second, ensure_true _ bound]
    have same := returned (fun half => half.2 _ second) secret manifest bound
    rwa [← first, ← second] at same

theorem fresh_rows (config : DaemonConfigV1) (fresh : disk.store = .fresh) :
    workspaceRows config disk = .ok [] := by
  rw [workspaceRows, fresh]
  rfl

theorem founded_event {reference : JsString} (founded : Founded config reference disk.store) :
    ∃ event, Genesis config.workspaceId event ∧ workspaceRows config disk = .ok [event] := by
  obtain ⟨event, genesis, rows⟩ := founded.genesis
  exact ⟨event, genesis, by rw [workspaceRows, rows]; rfl⟩

theorem sound_rows (sound : Sound secretDigest config disk) :
    ∃ rows, workspaceRows config disk = .ok rows ∧ (rows = [] ↔ disk.store = .fresh) := by
  rcases sound.founded with ⟨fresh, -⟩ | ⟨reference, founded, -⟩
  · exact ⟨[], fresh_rows config fresh, by simp [fresh]⟩
  · obtain ⟨event, -, rows⟩ := founded_event founded
    refine ⟨[event], rows, by simp, fun fresh => ?_⟩
    rw [fresh_rows config fresh] at rows
    cases rows

theorem replay_meets {post : Post Disk (Trouble Step Refusal) (List HashedEventEnvelopeV1)}
    (stopped : post.stopped disk) {rows : List HashedEventEnvelopeV1}
    (found : workspaceRows config disk = .ok rows) (returned : post.returned rows disk) :
    Meets Faults.crashes post (replay config) disk := by
  refine meets_transact.2 ⟨fun _ => stopped, nofun, ?_⟩
  simp only [found, ok_bind]
  exact returned

theorem open_meets {post : Post Disk (Trouble Step Refusal) Unit} (stopped : post.stopped disk)
    {rows : List HashedEventEnvelopeV1} (found : workspaceRows config disk = .ok rows)
    (filled : rows ≠ []) (returned : post.returned () disk) :
    Meets Faults.crashes post (openAuthenticatedWorkspace config) disk := by
  rw [openAuthenticatedWorkspace, meets_bind]
  refine meets_step.2 ⟨fun _ => stopped, nofun, meets_bind.2 (replay_meets stopped found ?_)⟩
  exact meets_refuse_unless.2 ⟨fun _ => returned, fun refused => absurd filled refused⟩

omit [Engine] in
theorem restore_meets {post : Post Disk (Trouble Step Refusal) Unit} (stopped : post.stopped disk)
    (idle : disk.consuming = .absent → post.returned () disk)
    (back : disk.consuming ≠ .absent →
      post.returned () { disk with capability := disk.consuming, consuming := .absent }) :
    Meets Faults.crashes post restoreCapability disk := by
  refine meets_step.2 ⟨fun _ => stopped, nofun, ?_⟩
  by_cases absent : disk.consuming = .absent
  · simpa only [absent, if_true] using idle absent
  · simpa only [absent, if_false] using back absent

/-- The disk that the constructor of the daemon leaves: nothing of the ceremony is taken up. -/
structure Opened (secretDigest : List Nat → JsString) (config : DaemonConfigV1)
    (disk after : Disk) : Prop where
  sound : Sound secretDigest config after
  credentialed : Credentialed secretDigest config after
  store : after.store = disk.store
  reference : after.reference = disk.reference
  capability : disk.store = .fresh →
    (after.capability = .absent ↔ disk.capability = .absent ∧ disk.consuming = .absent)

theorem daemon_meets {post : Post Disk (Trouble Step Refusal) Unit} (usable : Usable config draw)
    (sound : Sound secretDigest config disk)
    (stopped : ∀ after, Sound secretDigest config after → post.stopped after)
    (threw : HalfCredential disk → ∀ failure after, Sound secretDigest config after →
      post.threw failure after)
    (returned : ¬HalfCredential disk → ∀ after, Opened secretDigest config disk after →
      post.returned () after) :
    Meets Faults.crashes post (openDaemon secretDigest config draw) disk := by
  have made : Sound secretDigest config { disk with directory := true } :=
    sound_congr sound rfl rfl rfl rfl
  rw [openDaemon, meets_bind]
  refine meets_step.2 ⟨fun _ => stopped _ sound, nofun, meets_bind.2 ?_⟩
  refine credential_meets usable made stopped (fun half failure => threw half failure _ made) ?_
  intro complete secret manifest bound
  have credentialed : Credentialed secretDigest config
      { disk with directory := true, secret := .written secret, manifest := .written manifest } :=
    ⟨secret, manifest, rfl, rfl, bound⟩
  have kept : Sound secretDigest config
      { disk with directory := true, secret := .written secret, manifest := .written manifest } := by
    refine ⟨.inr (.inr credentialed), ?_⟩
    rcases sound.founded with fresh | ⟨reference, founded, -, text⟩
    · exact .inl fresh
    · exact .inr ⟨reference, founded, credentialed, text⟩
  obtain ⟨rows, found, empty⟩ := sound_rows kept
  refine meets_bind.2 (meets_step.2 ⟨fun _ => stopped _ kept, nofun, ?_⟩)
  refine meets_bind.2 (replay_meets (stopped _ kept) found ?_)
  by_cases fresh : rows = []
  · subst fresh
    have back : Sound secretDigest config
        { disk with
          directory := true, secret := .written secret, manifest := .written manifest
          capability := disk.consuming, consuming := .absent } := sound_congr kept rfl rfl rfl rfl
    simp only [ne_eq, not_true_eq_false, if_false, recoverInterruptedConsumption]
    refine meets_bind.2 (replay_meets (stopped _ kept) found ?_)
    simp only [not_true_eq_false, if_false]
    refine restore_meets (stopped _ kept) (fun idle => ?_) fun busy => ?_
    · exact returned complete _ ⟨kept, credentialed, rfl, rfl, fun _ => (and_iff_left idle).symm⟩
    · exact returned complete _ ⟨back, credentialed, rfl, rfl,
        fun _ => ⟨fun gone => absurd gone busy, fun both => both.2⟩⟩
  · have cleared : Sound secretDigest config
        { disk with
          directory := true, secret := .written secret, manifest := .written manifest
          consuming := .absent } := sound_congr kept rfl rfl rfl rfl
    simp only [ne_eq, fresh, not_false_eq_true, if_true, recoverInterruptedConsumption]
    refine meets_bind.2 (open_meets (stopped _ kept) found fresh ?_)
    refine meets_bind.2 (replay_meets (stopped _ kept) found ?_)
    simp only [fresh, not_false_eq_true, if_true]
    exact meets_step.2 ⟨fun _ => stopped _ kept, nofun, returned complete _
      ⟨cleared, credentialed, rfl, rfl, fun unfounded => absurd (empty.mpr unfounded) fresh⟩⟩

theorem capability_meets {principalId : JsString}
    {post : Post Disk (Trouble Step Refusal) BootstrapCapabilityV1}
    (sound : Sound secretDigest config disk)
    (stopped : ∀ after, Sound secretDigest config after → post.stopped after)
    (threw : disk.capability ≠ .absent → ∀ failure, post.threw failure disk)
    (returned : disk.capability = .absent → post.returned (newCapability config draw principalId)
      { disk with capability := .written (newCapability config draw principalId) }) :
    Meets Faults.crashes post (createCapability config draw principalId) disk := by
  rw [createCapability, meets_bind]
  refine meets_attempt.2 ⟨fun _ => stopped _ sound, nofun, ?_⟩
  by_cases absent : disk.capability = .absent
  · simp only [absent, if_true]
    exact meets_bind.2 (meets_step.2 ⟨fun _ => stopped _ (sound_congr sound rfl rfl rfl rfl), nofun,
      returned absent⟩)
  · simp only [absent, if_false]
    exact threw absent _

/-- The disk after a consumption: the workspace is founded, its reference is not written yet. -/
structure Consumed (secretDigest : List Nat → JsString) (config : DaemonConfigV1) (draw : Draw)
    (disk : Disk) (result : BootstrapResultV1) (after : Disk) : Prop where
  founded : Founded config result.grantReference after.store
  credentialed : Credentialed secretDigest config after
  reference : after.reference = .absent
  outputs : after.outputs = disk.outputs
  current : ∀ row ∈ after.store.authorityStates, ∀ stored ∈ row.state.grants,
    ∃ expiry ∈ Engine.dateParse stored.grant.expiresAt, draw.consumedAt < expiry

theorem consumed_sound {result : BootstrapResultV1}
    (consumed : Consumed secretDigest config draw disk result after) :
    Sound secretDigest config after :=
  ⟨.inr (.inr consumed.credentialed), .inr ⟨_, consumed.founded, consumed.credentialed,
    .inl consumed.reference⟩⟩

theorem consume_meets (law : Hexadecimal Engine.sha256Hex) (usable : Usable config draw)
    {principalId : JsString} (principal : principalId ≠ [] ∧ validUnicode principalId = true)
    {post : Post Disk (Trouble Step Refusal) BootstrapResultV1}
    (sound : Sound secretDigest config disk) (credentialed : Credentialed secretDigest config disk)
    (made : disk.capability = .written (newCapability config draw principalId))
    (stopped : ∀ after, Sound secretDigest config after → post.stopped after)
    (threw : disk.store ≠ .fresh → ∀ failure after, Sound secretDigest config after →
      post.threw failure after)
    (returned : disk.store = .fresh → ∀ result after,
      Consumed secretDigest config draw disk result after → post.returned result after) :
    Meets Faults.crashes post (consumeBootstrapCapability config draw
      (newCapability config draw principalId).secret) disk := by
  have taken : Sound secretDigest config { disk with
      consuming := .written (newCapability config draw principalId), capability := .absent } :=
    sound_congr sound rfl rfl rfl rfl
  have bound : capabilityBound config (newCapability config draw principalId)
      (newCapability config draw principalId).secret :=
    ⟨rfl, rfl, rfl, usable.capability.1, principal.1⟩
  obtain ⟨rows, found, empty⟩ := sound_rows taken
  rw [consumeBootstrapCapability, meets_bind, consumeCapability, meets_bind]
  refine meets_attempt.2 ⟨fun _ => stopped _ sound, nofun, ?_⟩
  simp only [made, reduceCtorEq, if_false]
  refine meets_bind.2 (meets_handle.2 ?_)
  rw [consumption, meets_bind]
  refine meets_transact.2 ⟨fun _ => stopped _ taken, nofun, meets_bind.2 ?_⟩
  refine meets_refuse_unless.2 ⟨fun _ => ?_, fun refused => absurd bound refused⟩
  refine meets_bind.2 (replay_meets (stopped _ taken) found (meets_bind.2 ?_))
  refine meets_refuse_unless.2 ⟨fun none_ => ?_, fun filled => ?_⟩
  · have fresh : disk.store = .fresh := empty.mp none_
    obtain ⟨request, result, answer, store, founding, committed, founded, current⟩ :=
      foundation_made law usable principal
    have absent : disk.reference = .absent := by
      rcases sound.founded with ⟨-, absent⟩ | ⟨reference, earlier, -⟩
      · exact absent
      · obtain ⟨event, -, rows⟩ := founded_event earlier
        rw [fresh_rows config fresh] at rows
        cases rows
    have consumed (consuming : FileState BootstrapCapabilityV1) :
        Consumed secretDigest config draw disk result { disk with
          consuming := consuming, capability := .absent, store := store } :=
      ⟨founded, credentialed, absent, rfl, current⟩
    obtain ⟨event, -, opened⟩ := founded_event (consumed .absent).founded
    rw [founding]
    refine meets_bind.2 (meets_compute.2 (meets_bind.2 ?_))
    refine meets_transact.2 ⟨fun _ => stopped _ taken, nofun, ?_⟩
    simp only [fresh, committed, Except.mapError, ok_bind]
    refine meets_bind.2 (meets_step.2 ⟨fun _ => stopped _ (consumed_sound (consumed _)), nofun,
      meets_bind.2 ?_⟩)
    exact open_meets (stopped _ (consumed_sound (consumed _))) opened (by simp)
      (returned fresh _ _ (consumed _))
  · -- the workspace is founded already: the capability is put back
    have founded : disk.store ≠ .fresh := fun fresh => filled (empty.mpr fresh)
    refine meets_bind.2 (restore_meets (stopped _ taken) (fun _ => threw founded _ _ taken) fun _ => ?_)
    exact threw founded _ _ (sound_congr sound rfl rfl rfl rfl)

/-- The grants of the workspace have not expired when the call reads the clock. -/
def Unexpired (draw : Draw) (disk : Disk) : Prop :=
  ∀ row ∈ disk.store.authorityStates, ∀ stored ∈ row.state.grants,
    ∃ expiry ∈ Engine.dateParse stored.grant.expiresAt, draw.consumedAt < expiry

/-- An earlier call stopped inside the creation of the credential, or inside the ceremony: after
its capability file was created and before the reference file was written. -/
def Unfinished (config : DaemonConfigV1) (disk : Disk) : Prop :=
  HalfCredential disk ∨ (∀ text, disk.reference ≠ .written text) ∧
    (disk.capability ≠ .absent ∨ disk.consuming ≠ .absent ∨ workspaceRows config disk ≠ .ok [])

/-- The reference of the founded grant is in the file, and the grant is found with it. -/
def Recovered (config : DaemonConfigV1) (clock : JsString) (disk : Disk) : Prop :=
  ∃ event row grant reference, workspaceRows config disk = .ok [event] ∧
    event.envelope.eventType = js "WorkspaceCreatedV1" ∧
    disk.store.authorityStates = [row] ∧ row.workspaceId = config.workspaceId ∧
    row.stateKind = grantAuthorityStateKind ∧
    disk.reference = .written (referenceLine reference) ∧
    lookupActiveGrant clock ⟨row.revision, row.stateDigest, row.state⟩ config.osIdentity reference =
      .ok (some grant)

theorem founded_lookup {clock reference stateDigest : JsString} {now expiry : Int} {revision : Nat}
    {grant : AuthenticatedGrantV1} (digest : grantDigestOf grant = .ok grant.grantDigest)
    (expires : Engine.dateParse grant.expiresAt = some expiry)
    (reads : Engine.dateParse clock = some now) :
    lookupActiveGrant clock ⟨revision, stateDigest, initialState reference grant false⟩
      grant.peerIdentity reference = .ok (if now < expiry then some grant else none) := by
  have parsed : parseState (initialState reference grant false) = .ok () := by
    simp [parseState, initialState, ensure, digest, Except.mapError, StoredGrantV1.digest]
  have active : activeInLineage clock (initialState reference grant false)
      ⟨grant, false, reference, none⟩ = decide (now < expiry) := by
    by_cases current : now < expiry <;>
      simp [activeInLineage, reads, activeFrom, expires, current]
  simp only [lookupActiveGrant, parsed, ok_bind]
  simp [initialState] at active ⊢
  simp [active]

omit [Engine] in
theorem line_injective {left right : JsString} (same : referenceLine left = referenceLine right) :
    left = right := List.append_cancel_right same

theorem recovered_iff {clock : JsString} (sound : Sound secretDigest config disk)
    (reads : Engine.dateParse clock = some draw.consumedAt) :
    Recovered config clock disk ↔ (∃ text, disk.reference = .written text) ∧ Unexpired draw disk := by
  rcases sound.founded with ⟨-, absent⟩ | ⟨reference, founded, -, file⟩
  · constructor
    · rintro ⟨_, _, _, _, -, -, -, -, -, text, -⟩
      exact nomatch absent.symm.trans text
    · rintro ⟨⟨_, text⟩, -⟩
      exact nomatch absent.symm.trans text
  obtain ⟨event, genesis, rows⟩ := founded_event founded
  obtain ⟨⟨_, _, revision, stateDigest, _, commandId⟩, grant, expiry, states, same, kind, state, digest,
    identity, expires⟩ := founded.grant
  dsimp only at same kind state
  subst same kind state
  have answer : lookupActiveGrant clock ⟨revision, stateDigest, initialState reference grant false⟩
      grant.peerIdentity reference = _ := founded_lookup digest expires reads
  rw [identity] at answer
  have unexpired : Unexpired draw disk ↔ draw.consumedAt < expiry := by
    simp [Unexpired, states, initialState, expires]
  rw [unexpired]
  have line : ∀ text, disk.reference = .written text → text = referenceLine reference := by
    intro text written
    rcases file with absent | empty | line
    · exact nomatch absent.symm.trans written
    · exact nomatch empty.symm.trans written
    · exact (FileState.written.inj (line.symm.trans written)).symm
  constructor
  · rintro ⟨_, _, found, other, -, -, listed, -, -, text, active⟩
    cases states.symm.trans listed
    obtain rfl := line_injective (line _ text)
    refine ⟨⟨_, text⟩, ?_⟩
    by_contra late
    rw [answer, if_neg late] at active
    cases active
  · rintro ⟨⟨_, text⟩, current⟩
    rw [if_pos current] at answer
    rw [line _ text] at text
    exact ⟨event, _, grant, reference, rows, genesis.created, states, rfl, rfl, text, answer⟩

omit [Engine] in
theorem write_meets {text : JsString} {post : Post Disk (Trouble Step Refusal) Unit}
    (stopped : post.stopped disk) (truncated : post.stopped { disk with reference := .empty })
    (returned : post.returned () { disk with reference := .written text }) :
    Meets Faults.crashes post (writeProtected text) disk := by
  rw [writeProtected, meets_bind]
  refine meets_step.2 ⟨fun _ => stopped, nofun, ?_⟩
  dsimp only
  exact meets_step.2 ⟨fun _ => truncated, nofun, returned⟩

-- The ceremony without a reference file founds the workspace, or finds what another left.
theorem bootstrap_meets (law : Hexadecimal Engine.sha256Hex) (usable : Usable config draw)
    {post : Post Disk (Trouble Step Refusal) Unit} (sound : Sound secretDigest config disk)
    (absent : disk.reference = .absent)
    (stopped : ∀ after, Sound secretDigest config after → post.stopped after)
    (threw : Unfinished config disk → ∀ failure after, Sound secretDigest config after →
      post.threw failure after)
    (returned : ¬Unfinished config disk → ∀ after, Sound secretDigest config after →
      (∃ text, after.reference = .written text) → Unexpired draw after → post.returned () after) :
    Meets Faults.crashes post (bootstrapDaemon secretDigest config draw) disk := by
  have unwritten : ∀ text, disk.reference ≠ .written text := fun _ written =>
    nomatch absent.symm.trans written
  have principal : js "authority:" ++ config.userName ≠ [] ∧
      validUnicode (js "authority:" ++ config.userName) = true :=
    ⟨List.append_ne_nil_of_left_ne_nil (by decide) _, valid_append (by decide) usable.user⟩
  obtain ⟨rows, found, empty⟩ := sound_rows sound
  rw [bootstrapDaemon, meets_bind]
  refine daemon_meets usable sound stopped (fun half => threw (.inl half)) ?_
  intro complete opened daemon
  refine meets_bind.2 (capability_meets daemon.sound stopped ?_ ?_)
  · intro left failure
    refine threw (.inr ⟨unwritten, ?_⟩) failure _ daemon.sound
    by_cases fresh : disk.store = .fresh
    · by_cases idle : disk.capability = .absent
      · exact .inr (.inl fun clear => left ((daemon.capability fresh).mpr ⟨idle, clear⟩))
      · exact .inl idle
    · refine .inr (.inr fun none_ => fresh (empty.mp ?_))
      exact Except.ok.inj (found.symm.trans none_)
  · intro clear
    have kept (capability : FileState BootstrapCapabilityV1) : Sound secretDigest config
        { opened with capability := capability } := sound_congr daemon.sound rfl rfl rfl rfl
    refine meets_bind.2 (consume_meets law usable principal (kept _) daemon.credentialed rfl stopped
      ?_ ?_)
    · intro founded failure after kept
      refine threw (.inr ⟨unwritten, .inr (.inr fun none_ => founded ?_)⟩) failure after kept
      exact daemon.store.trans (empty.mp (Except.ok.inj (found.symm.trans none_)))
    · intro fresh result consumed done
      have unfinished : ¬Unfinished config disk := by
        rintro (half | ⟨-, left | left | rows⟩)
        · exact complete half
        · exact left ((daemon.capability (daemon.store.symm.trans fresh)).mp clear).1
        · exact left ((daemon.capability (daemon.store.symm.trans fresh)).mp clear).2
        · exact rows (fresh_rows config (daemon.store.symm.trans fresh))
      have kept (reference : FileState JsString) (file : reference = .absent ∨ reference = .empty ∨
          reference = .written (referenceLine result.grantReference)) :
          Sound secretDigest config { consumed with reference := reference } :=
        ⟨.inr (.inr done.credentialed), .inr ⟨_, done.founded, done.credentialed, file⟩⟩
      exact write_meets (stopped _ (consumed_sound done)) (stopped _ (kept _ (.inr (.inl rfl))))
        (returned unfinished _ (kept _ (.inr (.inr rfl))) ⟨_, rfl⟩ done.current)

/-- What the last call finds decides whether it recovers the workspace. -/
def Resumable (config : DaemonConfigV1) (draw : Draw) (create : Bool) (disk : Disk) : Prop :=
  (disk.directory = true ∨ create = true) ∧ ¬Unfinished config disk ∧ Unexpired draw disk

theorem written_resumable (sound : Sound secretDigest config disk)
    (present : disk.reference ≠ .absent) : ¬Unfinished config disk ↔
      ∃ text, disk.reference = .written text := by
  rcases sound.founded with ⟨-, absent⟩ | ⟨reference, founded, ⟨_, _, -, written, -⟩, file⟩
  · exact absurd absent present
  obtain ⟨event, -, rows⟩ := founded_event founded
  constructor
  · intro finished
    by_contra unwritten
    refine finished (.inr ⟨fun text written => unwritten ⟨text, written⟩, .inr (.inr ?_)⟩)
    rw [rows]
    exact nofun
  · rintro ⟨text, line⟩ (half | ⟨unwritten, -⟩)
    · exact half.2 _ written
    · exact unwritten text line

theorem reference_meets (law : Hexadecimal Engine.sha256Hex) (usable : Usable config draw)
    {post : Post Disk (Trouble Step Refusal) Unit} (sound : Sound secretDigest config disk)
    (stopped : ∀ after, Sound secretDigest config after → post.stopped after)
    (threw : Unfinished config disk → ∀ failure after, Sound secretDigest config after →
      post.threw failure after)
    (returned : ∀ after, Sound secretDigest config after →
      (Recovered config (Engine.toISOString draw.consumedAt) after ↔
        ¬Unfinished config disk ∧ Unexpired draw disk) → post.returned () after) :
    Meets Faults.crashes post (ensureReference secretDigest config draw) disk := by
  rw [ensureReference, meets_bind]
  refine meets_ask.2 ⟨fun _ => stopped _ sound, nofun, ?_⟩
  by_cases absent : disk.reference = .absent
  · simp only [absent, if_true]
    refine bootstrap_meets law usable sound absent stopped threw ?_
    intro finished after kept written current
    have recovered := (recovered_iff kept usable.clock).mpr ⟨written, current⟩
    refine returned after kept (iff_of_true recovered ⟨finished, ?_⟩)
    rcases sound.founded with ⟨fresh, -⟩ | ⟨reference, founded, -⟩
    · simp [Unexpired, fresh, AuthorityStore.fresh]
    · obtain ⟨event, -, rows⟩ := founded_event founded
      refine absurd ?_ finished
      refine .inr ⟨fun _ text => (nomatch absent.symm.trans text), .inr (.inr ?_)⟩
      rw [rows]
      exact nofun
  · simp only [absent, if_false]
    refine returned disk sound ?_
    rw [recovered_iff sound usable.clock, written_resumable sound absent]

theorem ensure_meets (law : Hexadecimal Engine.sha256Hex) (usable : Usable config draw)
    (create : Bool) (sound : Sound secretDigest config disk) :
    Meets Faults.crashes ⟨Sound secretDigest config,
      fun _ after => Sound secretDigest config after ∧ ¬Resumable config draw create disk,
      fun _ after => Sound secretDigest config after ∧
        (Recovered config (Engine.toISOString draw.consumedAt) after ↔
          Resumable config draw create disk)⟩
      (ensureWorkspace secretDigest config draw create) disk := by
  have threw : Unfinished config disk → ¬Resumable config draw create disk :=
    fun unfinished resumable => resumable.2.1 unfinished
  rw [ensureWorkspace, meets_bind]
  refine meets_ask.2 ⟨fun _ => sound, nofun, ?_⟩
  by_cases there : disk.directory = true
  · simp only [there, if_true]
    refine meets_bind.2 (reference_meets law usable sound (fun _ kept => kept)
      (fun unfinished _ _ kept => ⟨kept, threw unfinished⟩) fun after kept same => ⟨kept, ?_⟩)
    exact same.trans (and_iff_right (.inl there)).symm
  · simp only [there, Bool.false_eq_true, if_false]
    refine meets_bind.2 (meets_refuse_unless.2 ⟨fun create => ?_, fun refused => ⟨sound, ?_⟩⟩)
    · have kept : Sound secretDigest config { disk with directory := true } :=
        sound_congr sound rfl rfl rfl rfl
      refine meets_bind.2 (meets_step.2 ⟨fun _ => sound, nofun, meets_bind.2 ?_⟩)
      refine reference_meets law usable kept (fun _ kept => kept)
        (fun unfinished _ _ kept => ⟨kept, threw unfinished⟩) fun after kept same => ⟨kept, ?_⟩
      exact same.trans (and_iff_right (.inr create)).symm
    · rintro ⟨found | created, -⟩
      · exact there found
      · exact refused created

abbrev throughout (secretDigest : List Nat → JsString) (config : DaemonConfigV1) {Result : Type} :
    Post Disk (Trouble Step Refusal) Result :=
  ⟨Sound secretDigest config, fun _ => Sound secretDigest config,
    fun _ => Sound secretDigest config⟩

theorem output_meets {path : JsString} {content : OutputContent}
    (holds : Sound secretDigest config disk) :
    Meets Faults.crashes (throughout secretDigest config) (createOutput path content) disk := by
  refine preserves_meets (preserves_bind (preserves_attempt ?_) fun _ => preserves_step ?_) holds
  · intro found after opened kept
    split at opened
    · cases opened
      exact sound_congr kept rfl rfl rfl rfl
    · cases opened
  · exact fun found kept => sound_congr kept rfl rfl rfl rfl

theorem new_reference_meets {file : ReferenceFile} {result : BootstrapResultV1}
    (consumed : Consumed secretDigest config draw disk result after) :
    Meets Faults.crashes (throughout secretDigest config)
      (writeNewReference (referenceLine result.grantReference) file) after := by
  have holds := consumed_sound consumed
  cases file with
  | output path => exact output_meets holds
  | own =>
      have kept (reference : FileState JsString) (text : reference = .absent ∨ reference = .empty ∨
          reference = .written (referenceLine result.grantReference)) :
          Sound secretDigest config { after with reference := reference } :=
        ⟨.inr (.inr consumed.credentialed), .inr ⟨_, consumed.founded, consumed.credentialed, text⟩⟩
      rw [writeNewReference, meets_bind]
      refine meets_attempt.2 ⟨fun _ => holds, nofun, ?_⟩
      simp only [consumed.reference, if_true]
      exact meets_step.2 ⟨fun _ => kept _ (.inr (.inl rfl)), nofun, kept _ (.inr (.inr rfl))⟩

theorem init_meets (law : Hexadecimal Engine.sha256Hex) (usable : Usable config draw)
    {grantReferenceFile : ReferenceFile} {resultFile : JsString}
    (holds : Sound secretDigest config disk) :
    Meets Faults.crashes (throughout secretDigest config)
      (init secretDigest config draw grantReferenceFile resultFile) disk := by
  have principal : js "authority:" ++ draw.principalId ≠ [] ∧
      validUnicode (js "authority:" ++ draw.principalId) = true :=
    ⟨List.append_ne_nil_of_left_ne_nil (by decide) _, valid_append (by decide) usable.principal⟩
  rw [init, meets_bind]
  refine daemon_meets usable holds (fun _ kept => kept) (fun _ _ _ kept => kept) ?_
  intro _ opened daemon
  obtain ⟨rows, found, -⟩ := sound_rows daemon.sound
  refine meets_bind.2 (replay_meets daemon.sound found (meets_bind.2 ?_))
  refine meets_refuse_unless.2 ⟨fun _ => ?_, fun _ => daemon.sound⟩
  refine meets_bind.2 (capability_meets daemon.sound (fun _ kept => kept)
    (fun _ _ => daemon.sound) fun _ => ?_)
  have kept (capability : FileState BootstrapCapabilityV1) : Sound secretDigest config
      { opened with capability := capability } := sound_congr daemon.sound rfl rfl rfl rfl
  refine meets_bind.2 (consume_meets law usable principal (kept _) daemon.credentialed rfl
    (fun _ kept => kept) (fun _ _ _ kept => kept) fun _ result after consumed => ?_)
  obtain ⟨event, -, rows⟩ := founded_event consumed.founded
  refine meets_bind.2 (replay_meets (consumed_sound consumed) rows ?_)
  exact meets_bind.2 (meets_mono (new_reference_meets consumed) (fun _ kept => kept)
    (fun _ _ kept => kept) fun _ _ kept => output_meets kept)

end Steps

section Runs

variable [Engine] {secretDigest : List Nat → JsString} {config : DaemonConfigV1} {disk : Disk}

inductive Call where
  | ensureWorkspace (create : Bool)
  | init (grantReferenceFile : ReferenceFile) (resultFile : JsString)

def Call.script (secretDigest : List Nat → JsString) (config : DaemonConfigV1) (draw : Draw) :
    Call → Ceremony Unit
  | .ensureWorkspace create => do
      let _ ← WorkspaceBootstrap.ensureWorkspace secretDigest config draw create
  | .init grantReferenceFile resultFile =>
      WorkspaceBootstrap.init secretDigest config draw grantReferenceFile resultFile

/-- A call whose process stops after this number of steps, if it has as many. -/
structure Attempt where
  call : Call
  draw : Draw
  steps : Nat

def attempted (secretDigest : List Nat → JsString) (config : DaemonConfigV1) (disk : Disk)
    (attempt : Attempt) : Disk :=
  (follow (List.replicate attempt.steps .goes)
    (attempt.call.script secretDigest config attempt.draw) disk).2

/-- What the attempts of a history leave of a workspace that was not initialized. -/
def afterAttempts (secretDigest : List Nat → JsString) (config : DaemonConfigV1)
    (directory : Bool) (history : List Attempt) : Disk :=
  history.foldl (attempted secretDigest config) (.initial directory)

def AtMostOnce (config : DaemonConfigV1) (disk : Disk) : Prop :=
  (∃ rows, workspaceRows config disk = .ok rows ∧ rows.length ≤ 1) ∧
    (disk.store.authorityStates.flatMap fun row => row.state.grants).length ≤ 1

theorem sound_once (sound : Sound secretDigest config disk) : AtMostOnce config disk := by
  rcases sound.founded with ⟨fresh, -⟩ | ⟨reference, founded, -⟩
  · exact ⟨⟨[], fresh_rows config fresh, Nat.zero_le _⟩, by simp [fresh, AuthorityStore.fresh]⟩
  · obtain ⟨event, -, rows⟩ := founded_event founded
    obtain ⟨row, grant, expiry, states, -, -, state, -⟩ := founded.grant
    exact ⟨⟨[event], rows, le_rfl⟩, by simp [states, state, initialState]⟩

theorem initial_sound (directory : Bool) :
    Sound secretDigest config (.initial directory) := ⟨.inl rfl, .inl ⟨rfl, rfl⟩⟩

theorem call_meets (law : Hexadecimal Engine.sha256Hex) {attempt : Attempt}
    (usable : Usable config attempt.draw) (sound : Sound secretDigest config disk) :
    Meets Faults.crashes (throughout secretDigest config)
      (attempt.call.script secretDigest config attempt.draw) disk := by
  cases attempt.call with
  | ensureWorkspace create =>
      exact meets_bind.2 (meets_mono (ensure_meets law usable create sound) (fun _ kept => kept)
        (fun _ _ kept => kept.1) fun _ _ kept => kept.1)
  | init grantReferenceFile resultFile => exact init_meets law usable sound

theorem attempts_sound (law : Hexadecimal Engine.sha256Hex) {directory : Bool}
    {history : List Attempt} (usable : ∀ attempt ∈ history, Usable config attempt.draw) :
    Sound secretDigest config (afterAttempts secretDigest config directory history) := by
  induction history using List.reverseRecOn with
  | nil => exact initial_sound directory
  | append_singleton earlier attempt ih =>
      have before := ih fun other member => usable other (List.mem_append_left _ member)
      rw [afterAttempts, List.foldl_append]
      exact meets_state (call_meets law (usable attempt (by simp)) before) (crash_permitted _ _ _)

/-- Wherever the calls of a history stop, the workspace is founded at most once; and a retry that
does not stop recovers it exactly when no call has stopped inside the credential's creation or
between the creation of its capability file and the writing of the reference file. -/
theorem bootstrap_recovery (law : Hexadecimal Engine.sha256Hex) {directory : Bool}
    {history : List Attempt} (usable : ∀ attempt ∈ history, Usable config attempt.draw)
    {last : Draw} (lastUsable : Usable config last) (create : Bool) :
    AtMostOnce config (afterAttempts secretDigest config directory history) ∧
      AtMostOnce config (complete (ensureWorkspace secretDigest config last create)
        (afterAttempts secretDigest config directory history)).2 ∧
      ((∃ created after, complete (ensureWorkspace secretDigest config last create)
          (afterAttempts secretDigest config directory history) = (.ok created, after) ∧
            Recovered config (Engine.toISOString last.consumedAt) after) ↔
        Resumable config last create (afterAttempts secretDigest config directory history)) := by
  have sound : Sound secretDigest config (afterAttempts secretDigest config directory history) :=
    attempts_sound law usable
  have ends := meets_complete.mp (meets_fewer (fun _ => nofun) (fun _ => nofun)
    (ensure_meets law lastUsable create sound))
  cases run : complete (ensureWorkspace secretDigest config last create)
      (afterAttempts secretDigest config directory history) with
  | mk outcome after =>
      rw [run] at ends
      cases outcome with
      | ok created =>
          refine ⟨sound_once sound, sound_once ends.1, ?_, fun resumable => ?_⟩
          · rintro ⟨_, _, same, recovered⟩
            cases same
            exact ends.2.mp recovered
          · exact ⟨created, after, rfl, ends.2.mpr resumable⟩
      | error failure =>
          refine ⟨sound_once sound, sound_once ends.1, ?_, fun resumable => ?_⟩
          · rintro ⟨_, _, same, -⟩
            cases same
          · exact absurd resumable ends.2

end Runs

section Recorded

def yearLater : JsString := js "2027-01-01T00:00:00.000Z"

def bootstrapTimes : List (JsString × Int) :=
  [(startOfYear, 1767225600000), (yearLater, 1798761600000)]

@[reducible] def bootstrapEngine : Engine :=
  { shortEngine with
    dateParse := fun text => bootstrapTimes.lookup text
    toISOString := fun time =>
      ((bootstrapTimes.find? (fun entry => entry.2 = time)).map Prod.fst).getD [] }

attribute [local instance] bootstrapEngine

def sampleConfig : DaemonConfigV1 :=
  { workspaceId := js "w"
    databasePath := js "/w/.horseness/authority.sqlite"
    artifactRoot := js "/w/.horseness/artifacts"
    osIdentity := js "u"
    userName := js "u" }

def sampleDraw : Draw :=
  { authorityId := js "a"
    authoritySecret := List.replicate 32 7
    capabilityId := js "c"
    capabilitySecret := js "s"
    principalId := js "p"
    grantId := js "g"
    issuedAt := 1767225600000
    consumedAt := 1767225600000 }

def sampleSecretDigest (secret : List Nat) : JsString := decimal secret.sum

theorem sample_usable : Usable sampleConfig sampleDraw := by
  constructor <;> decide

/-- The first call stops before it opens the daemon, and its retry recovers the workspace. -/
theorem bootstrap_recovery_stopped_early : ∃ created after,
    complete (ensureWorkspace sampleSecretDigest sampleConfig sampleDraw true)
      (afterAttempts sampleSecretDigest sampleConfig false
        [⟨.ensureWorkspace true, sampleDraw, 3⟩]) = (.ok created, after) ∧
      Recovered sampleConfig startOfYear after := by
  have law : Hexadecimal Engine.sha256Hex := short_hexadecimal
  have attempts : ∀ attempt ∈ [(⟨.ensureWorkspace true, sampleDraw, 3⟩ : Attempt)],
      Usable sampleConfig attempt.draw := List.forall_mem_singleton.mpr sample_usable
  refine (bootstrap_recovery law attempts sample_usable true).2.2.mpr ⟨.inr rfl, ?_, nofun⟩
  rintro (half | ⟨-, left | left | rows⟩)
  · exact half.1 rfl
  · exact left rfl
  · exact left rfl
  · exact rows rfl

/-- The first call stops once it has created its capability file, and its retry finds the file. -/
theorem stopped_ceremony_unrecovered :
    Usable sampleConfig sampleDraw ∧
    (complete (ensureWorkspace sampleSecretDigest sampleConfig sampleDraw true)
      (afterAttempts sampleSecretDigest sampleConfig false
        [⟨.ensureWorkspace true, sampleDraw, 15⟩])).1 = .error (.broken .createCapability) := by
  exact ⟨sample_usable, rfl⟩

end Recorded

end Horseness.BootstrapRecovery
