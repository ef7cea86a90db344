import Horseness.AdmissionService

/-!
The evaluation input that an admission builds, against the input that evaluation parses.
The stored evidence keeps the size and the media type that it is verified by, which are no
fields of presented evidence; the paths are in code-unit order, and their bytes need not be.
-/

namespace Horseness.AdmissionInputs

open FallibleRuns Records ScriptText JsonValues ScriptEngine Canonical Cursors ForkContext
  EventPayloads EventChains Delta AuthorityLog DispatchAuthority PolicyDocuments PolicyEvaluation
  Proposals AuthoritySnapshots AdmissionService RecordedRuns CanonicalHistory AppendLog

section Cursors

theorem natural_injective {left right : Nat}
    (same : meaning (natural left) = meaning (natural right)) : left = right := by
  simpa [natural, meaning, JsNumber.meaning] using same

theorem composite_injective {left right : CompositeCursorV1}
    (same : meaning left.toJson = meaning right.toJson) : left = right := by
  rw [CompositeCursorV1.toJson, CompositeCursorV1.toJson] at same
  have fields := object_meaning same rfl
    (by simp only [List.map_cons, List.map_nil]; decide +kernel)
  simp only [List.map_cons, List.cons.injEq, true_and] at fields
  obtain ⟨workspaceId, workspaceSequence, workspaceHash, workspaceEpoch, runId, runSequence,
    runHash, runEpoch, -⟩ := fields
  simp only [meaning, JsonTree.str.injEq] at workspaceId workspaceHash runId runHash
  cases left
  cases right
  simp only [CompositeCursorV1.mk.injEq]
  exact ⟨workspaceId, natural_injective workspaceSequence, workspaceHash,
    natural_injective workspaceEpoch, runId, natural_injective runSequence, runHash,
    natural_injective runEpoch⟩

variable [Engine]

theorem same_meaning {left right : JsValue} {code : DomainError}
    (equal : same left right code = .ok ()) : meaning left = meaning right := by
  simp only [same, inDomain, sameJson, bind_ok_iff, map_error_ok_iff, ensure_ok_iff,
    pure_ok_iff] at equal
  obtain ⟨agree, ⟨first, one, second, other, rfl⟩, truth⟩ := equal
  exact (canonical_eq_iff one other).mp (of_decide_eq_true truth)

end Cursors

section Chains

variable [Engine] {events : List HashedEventEnvelopeV1}

theorem verified_numbers (verified : verifyEventChain events = .ok ()) :
    ∀ item ∈ events, 1 ≤ item.envelope.sequence ∧ item.envelope.sequence ≤ maxSafeInteger ∧
      ∃ text, item.envelopeHash = Engine.sha256Hex text := by
  simp only [verifyEventChain, bind_ok_iff] at verified
  obtain ⟨_, _, _, _, _, folded, _⟩ := verified
  intro item member
  obtain ⟨before, after, accepted⟩ := foldlM_member folded item member
  simp only [verifyEvent, bind_ok_iff, ensure_ok_iff, digest_ok_iff] at accepted
  obtain ⟨_, _, _, ⟨small, number, _⟩, _, _, _, _, _, _, hash, ⟨_, hashed⟩, _, same, _⟩ := accepted
  exact ⟨by omega, small, _, by rw [← same, ← hashed]⟩

-- The rows of an authenticated stream that has any are a verified chain.
theorem authenticated_verified {state : Authority} {key : StreamKey}
    (authenticated : authenticatedRows state key = .ok events) (filled : events ≠ []) :
    verifyEventChain events = .ok () := by
  unfold authenticatedRows at authenticated
  cases found : state.streams.get key with
  | none =>
      simp only [found, bind_ok_iff, pure_ok_iff] at authenticated
      obtain ⟨_, _, rfl⟩ := authenticated
      exact absurd rfl filled
  | some head =>
      simp only [found, bind_ok_iff, map_error_ok_iff, pure_ok_iff] at authenticated
      obtain ⟨_, _, _, _, _, _, _, verified, _, _, _, _, rfl⟩ := authenticated
      exact verified

variable {state : Authority} {workspaceId runId : JsString} {workspaceEvents runEvents :
  List HashedEventEnvelopeV1} {observed : CompositeCursorV1}

theorem current_cursor_parses (named : ∀ text, Engine.sha256Hex text ≠ [])
    (workspaceNamed : workspaceId ≠ []) (runNamed : runId ≠ [])
    (workspaceRows : authenticatedRows state (.workspace workspaceId) = .ok workspaceEvents)
    (runRows : authenticatedRows state (.run workspaceId runId) = .ok runEvents)
    (seen : currentCursor workspaceId runId workspaceEvents runEvents = .ok observed) :
    parseObservationCursorV1 (.composite observed) = .ok () := by
  simp only [currentCursor, bind_ok_iff, required_ok_iff, pure_ok_iff] at seen
  obtain ⟨workspace, lastWorkspace, run, lastRun, rfl⟩ := seen
  have workspaceMember := List.mem_of_getLast? lastWorkspace
  have runMember := List.mem_of_getLast? lastRun
  obtain ⟨first, bound, text, hash⟩ := verified_numbers
    (authenticated_verified workspaceRows (List.ne_nil_of_mem workspaceMember)) workspace
    workspaceMember
  obtain ⟨runFirst, runBound, runText, runHash⟩ := verified_numbers
    (authenticated_verified runRows (List.ne_nil_of_mem runMember)) run runMember
  simp only [parseObservationCursorV1, nonEmpty, positiveCheck, naturalCheck, bind_ok_iff,
    ensure_ok_iff]
  exact ⟨(), workspaceNamed, (), ⟨first, bound⟩, (), by rw [hash]; exact named _, (),
    by omega, (), runNamed, (), ⟨runFirst, runBound⟩, (), by rw [runHash]; exact named _,
    by omega⟩

end Chains

section Evidence

theorem presented_unsized {evidence : JsValue} {item : PresentedEvidenceV1}
    (presented : presentedEvidence evidence = .ok item) : naturalAt "size" evidence = none := by
  unfold presentedEvidence at presented
  split at presented
  · rename_i fields
    simp only [bind_ok_iff, ensure_ok_iff] at presented
    obtain ⟨_, keys, _⟩ := presented
    have absent : findEntry (js "size") fields = none := by
      rw [← find_sort, find_none_iff, keys]
      decide +kernel
    rw [naturalAt, property, absent, Option.bind_none]
  · cases presented

variable {around : Surroundings} {state : Authority}

theorem verified_sized {evidence : JsValue}
    (verified : verifyEvidence around state evidence = .ok ()) :
    ∃ size, naturalAt "size" evidence = some size := by
  simp only [verifyEvidence, bind_ok_iff, ensure_ok_iff] at verified
  obtain ⟨_, _, record, _, _, _, _, size, _⟩ := verified
  exact ⟨record.byteLength, size⟩

theorem verified_not_presented {evidence : List JsValue} {presented : List PresentedEvidenceV1}
    (verified : ∀ item ∈ evidence, verifyEvidence around state item = .ok ())
    (parsed : evidence.mapM presentedEvidence = .ok presented) : evidence = [] := by
  cases evidence with
  | nil => rfl
  | cons item rest =>
      simp only [List.mapM_cons, bind_ok_iff] at parsed
      obtain ⟨first, one, _⟩ := parsed
      obtain ⟨size, sized⟩ := verified_sized (verified item List.mem_cons_self)
      rw [presented_unsized one] at sized
      cases sized

end Evidence

section Paths

def sameOrder (paths : List JsString) : Prop :=
  ∀ left ∈ paths, ∀ right ∈ paths, left < right → utf8Before left right

instance (paths : List JsString) : Decidable (sameOrder paths) :=
  inferInstanceAs (Decidable (∀ left ∈ paths, _))

theorem touched_member (core : ProposalEnvelopeCoreV1) (path : JsString) :
    path ∈ touchedPaths core ↔ path ∈ core.operations.map operationPath := by
  simp only [touchedPaths, List.mem_insertionSort, List.mem_eraseDups]

theorem erased_nodup (paths : List JsString) : paths.eraseDups.Nodup := by
  match paths with
  | [] => simp
  | path :: rest =>
      rw [List.eraseDups_cons, List.nodup_cons, List.mem_eraseDups, List.mem_filter]
      exact ⟨by simp, erased_nodup _⟩
termination_by paths.length
decreasing_by
  have := List.length_filter_le (fun other => !(other == path)) rest
  simp only [List.length_cons]
  omega

theorem touched_sorted (core : ProposalEnvelopeCoreV1) :
    (touchedPaths core).Pairwise (· < ·) := by
  have sorted : (touchedPaths core).Pairwise (· ≤ ·) := List.pairwise_insertionSort _ _
  have unique : (touchedPaths core).Nodup :=
    (List.perm_insertionSort _ _).nodup_iff.mpr (erased_nodup _)
  refine (sorted.and unique).imp ?_
  rintro left right ⟨below, different⟩
  exact (List.le_iff_lt_or_eq.mp below).resolve_right different

-- The touched paths are in the order of their bytes where both orders agree on them.
theorem touched_increasing_iff (core : ProposalEnvelopeCoreV1) :
    increasing (touchedPaths core) ↔ sameOrder (core.operations.map operationPath) := by
  constructor
  · intro ordered left one right other before
    have pairs := increasing_pairwise ordered
    obtain ⟨i, small, rfl⟩ := List.mem_iff_getElem.mp ((touched_member core left).mpr one)
    obtain ⟨j, large, rfl⟩ := List.mem_iff_getElem.mp ((touched_member core right).mpr other)
    rcases Nat.lt_trichotomy i j with earlier | equal | later
    · exact List.pairwise_iff_getElem.mp pairs i j small large earlier
    · subst equal
      exact absurd before (List.lt_irrefl _)
    · have reversed := List.pairwise_iff_getElem.mp (touched_sorted core) j i large small later
      exact absurd before (List.lt_asymm reversed)
  · intro agree
    have pairs : (touchedPaths core).Pairwise utf8Before := by
      refine List.Pairwise.imp_of_mem ?_ (touched_sorted core)
      intro left right one other before
      exact agree left ((touched_member core left).mp one) right
        ((touched_member core right).mp other) before
    exact pairs.isChain

end Paths

section Agreement

variable [Engine] {around : Surroundings} {state : Authority} {request : AdmissionRequestV1}
  {workspaceEvents runEvents : List HashedEventEnvelopeV1} {observed : CompositeCursorV1}
  {revision : RevisionView} {loaded : LoadedAuthorities} {validated : ValidatedRequest}

/-- What is read and validated for a request before it is evaluated. -/
def prepare (around : Surroundings) (request : AdmissionRequestV1) (state : Authority) :
    Except StoreError (LoadedAuthorities × ValidatedRequest) := do
  let core := request.proposal.core
  let runEvents ← authenticatedRows state (.run core.workspaceId core.runId)
  let revision ← loadRevision runEvents
  let workspaceEvents ← authenticatedRows state (.workspace core.workspaceId)
  let observed ← currentCursor core.workspaceId core.runId workspaceEvents runEvents
  let loaded ← loadAuthorities around state request workspaceEvents runEvents observed
  let validated ← validateRequest request revision loaded.historical loaded.current
  return (loaded, validated)

/-- What the input of a validated request still has to be for evaluation to parse it. -/
structure Evaluable (request : AdmissionRequestV1) (loaded : LoadedAuthorities) : Prop where
  evidence : loaded.historical.evidence = []
  paths : sameOrder (request.proposal.core.operations.map operationPath)
  action : request.action ≠ []
  version : request.version ≠ []
  policy : parsePolicySlotV1 loaded.current.currentPolicy = .ok ()
  grant : loaded.current.authorization.grantDigest ≠ []
  quota : loaded.current.quota.digest ≠ []
  approver : loaded.current.authenticatedApproverPrincipalId ≠ []
  approval : ∀ approval ∈ request.approval, approval.parse = .ok ()

/-- What loading and validation leave known of the input. -/
structure Validated (request : AdmissionRequestV1) (loaded : LoadedAuthorities)
    (validated : ValidatedRequest) : Prop where
  proposal : Verified request.proposal
  paths : validated.paths = touchedPaths request.proposal.core
  snapshots : validated.snapshots = expectation request.proposal.core loaded.current
  clock : validated.evaluationClock = ⟨loaded.current.authorityTime,
    .composite loaded.current.evaluationObservationCursor⟩
  pinned : parsePolicySlotV1 loaded.historical.pinnedPolicy = .ok ()

theorem request_validated (valid : validateRequest request revision loaded.historical
    loaded.current = .ok validated) : Validated request loaded validated := by
  simp only [validateRequest, inDomain, bind_ok_iff, map_error_ok_iff, pure_ok_iff] at valid
  obtain ⟨_, verified, _, _, _, sealing, _, _, rfl⟩ := valid
  refine ⟨verified_proposal verified, rfl, rfl, rfl, ?_⟩
  simp only [validateSealing, inDomain, bind_ok_iff, map_error_ok_iff] at sealing
  obtain ⟨_, _, _, _, _, _, _, _, _, _, _, _, _, _, digest, digested, _⟩ := sealing
  exact (slot_digest_iff _).mp ⟨digest, digested⟩

theorem loaded_cursor (loads : loadAuthorities around state request workspaceEvents runEvents
    observed = .ok loaded) : loaded.current.evaluationObservationCursor = observed := by
  simp only [loadAuthorities, bind_ok_iff, pure_ok_iff] at loads
  obtain ⟨_, _, _, _, _, _, _, _, _, _, _, agree, _, _, _, _, _, _, _, _, rfl⟩ := loads
  exact composite_injective (same_meaning agree)

theorem loaded_evidence (loads : loadAuthorities around state request workspaceEvents runEvents
    observed = .ok loaded) :
    ∀ item ∈ loaded.historical.evidence, verifyEvidence around state item = .ok () := by
  simp only [loadAuthorities, bind_ok_iff, pure_ok_iff] at loads
  obtain ⟨_, _, _, _, _, _, _, _, _, _, _, _, _, _, _, _, _, _, _, verified, rfl⟩ := loads
  rw [List.forM_eq_forM, forM_ok_iff] at verified
  exact verified

omit [Engine] in
theorem error_text_named (code : DomainError) : ExecutionStore.DomainError.text code ≠ [] := by
  cases code <;> decide

-- The paths of a valid proposal are refused for their order alone.
theorem policy_paths_iff {core : ProposalEnvelopeCoreV1}
    (valid : validateProposalCore core = .ok ()) (touched : core.operations ≠ []) :
    policyPaths (touchedPaths core) = .ok () ↔ sameOrder (core.operations.map operationPath) := by
  have filled : touchedPaths core ≠ [] := by
    obtain ⟨operation, member⟩ := List.exists_mem_of_ne_nil _ touched
    exact List.ne_nil_of_mem ((touched_member core _).mpr (List.mem_map_of_mem member))
  have pointers : ∀ path ∈ touchedPaths core, pointerText path .policyInputInvalid = .ok () := by
    intro path member
    obtain ⟨operation, given, rfl⟩ := List.mem_map.mp ((touched_member core path).mp member)
    obtain ⟨tokens, pointer⟩ := core_pointer valid given
    simp only [pointerText, bind_ok_iff, map_error_ok_iff, pure_ok_iff]
    exact ⟨tokens, pointer, trivial⟩
  rw [← touched_increasing_iff]
  simp only [policyPaths, orderedIds, bind_ok_iff, ensure_ok_iff, List.forM_eq_forM, forM_ok_iff]
  constructor
  · rintro ⟨_, _, _, _, _, ordered⟩
    exact ordered
  · exact fun ordered => ⟨(), filled, (), pointers, increasing_nodup ordered, ordered⟩

/-- The input of a loaded and validated request is parsed exactly when the proposal has no
evidence, both orders agree on its paths and what nothing has checked yet is in form. -/
theorem admission_input_accepted_iff (named : ∀ text, Engine.sha256Hex text ≠ [])
    (prepared : prepare around request state = .ok (loaded, validated))
    (touched : request.proposal.core.operations ≠ [])
    (second : canonicalSecond loaded.current.authorityTime .policyClockInvalid = .ok ()) :
    (∃ subject, parseAdmissionEvaluationInputV1 (evaluationInput request loaded validated) =
      .ok subject) ↔ Evaluable request loaded := by
  simp only [prepare, bind_ok_iff, pure_ok_iff, Prod.mk.injEq] at prepared
  obtain ⟨runEvents, runRows, revision, _, workspaceEvents, workspaceRows, observed, seen, loaded,
    loads, validated, valid, rfl, rfl⟩ := prepared
  have known := request_validated valid
  have texts := core_texts known.proposal.core
  simp only [ProposalEnvelopeCoreV1.requiredTexts, List.forall_mem_cons, List.not_mem_nil,
    false_implies, implies_true, and_true] at texts
  obtain ⟨workspaceNamed, runNamed, author, grant, -, -, -, base, -⟩ := texts
  have current : composite (.composite loaded.current.evaluationObservationCursor) = .ok () := by
    simp only [composite, bind_ok_iff, ensure_ok_iff]
    rw [loaded_cursor loads]
    exact ⟨(), current_cursor_parses named workspaceNamed runNamed workspaceRows runRows seen, rfl⟩
  have issued : composite (.composite
      request.proposal.core.proposalSealingObservationCursor) = .ok () := by
    simp only [composite, bind_ok_iff, ensure_ok_iff]
    exact ⟨(), core_cursor known.proposal.core, rfl⟩
  simp only [parseAdmissionEvaluationInputV1, evaluationInput, validatePolicySubject,
    SnapshotExpectationV1.parse, validateEvaluationClock, PolicyDocuments.nullableText, bind_ok_iff, pure_ok_iff,
    List.forM_eq_forM, forM_ok_iff, known.paths, known.snapshots, known.clock, expectation]
  constructor
  · rintro ⟨subject, _, _, _, _, _, ⟨_, action, _, version, _, paths, _, _, _, policy, presented,
      evidence, _, _, rfl⟩, _, ⟨_, _, _, _, texts⟩, _, _, _, approval, _⟩
    simp only [List.forall_mem_cons, nonEmpty, ensure_ok_iff] at texts action version
    exact ⟨verified_not_presented (loaded_evidence loads) evidence,
      (policy_paths_iff known.proposal.core touched).mp paths, action, version, policy, texts.2.1,
      texts.2.2.1, texts.2.2.2.2.1,
      fun item member => approval item (Option.mem_toList.mpr member)⟩
  · intro evaluable
    have conflict : ∀ text ∈ ((conflictOf validated.delta).map fun reason =>
        ExecutionStore.DomainError.text (DeltaReasonCode.error reason)).toList,
        nonEmpty text .policyInputInvalid = .ok () := by
      intro text member
      obtain ⟨reason, -, rfl⟩ := Option.map_eq_some_iff.mp (Option.mem_toList.mp member)
      exact (ensure_ok_iff _ _ _).mpr (error_text_named _)
    refine ⟨⟨request.action, touchedPaths request.proposal.core, request.version, []⟩, (), ?_, (),
      core_revision known.proposal.core, _, ⟨(), ?_, (), ?_, (),
      (policy_paths_iff known.proposal.core touched).mpr evaluable.paths, (), known.pinned, (),
      evaluable.policy, [], ?_, (), ?_, rfl⟩, (), ⟨(), issued, (), current, ?_⟩, (),
      ⟨(), second, current⟩, (), ?_, (), conflict, rfl⟩
    · simp only [List.forall_mem_cons, nonEmpty, ensure_ok_iff]
      exact ⟨known.proposal.named, author, base, by simp⟩
    · exact (ensure_ok_iff _ _ _).mpr evaluable.action
    · exact (ensure_ok_iff _ _ _).mpr evaluable.version
    · rw [evaluable.evidence]
      rfl
    · exact (ensure_ok_iff _ _ _).mpr ⟨List.nodup_nil, List.IsChain.nil⟩
    · simp only [List.forall_mem_cons, nonEmpty, ensure_ok_iff]
      exact ⟨grant, evaluable.grant, evaluable.quota, evaluable.quota, evaluable.approver, by simp⟩
    · exact fun item member => evaluable.approval item (Option.mem_toList.mp member)

end Agreement

section Recorded

section Scenarios

variable [Engine]

def digestOf (domain : String) (value : JsValue) : JsString :=
  finalOf [] (domainDigest (js domain) value)

/-- What a recorded admission is about: one proposal on the first document of a run. -/
structure Scenario where
  document : JsValue
  operations : List JsValue
  claims : List EvidenceClaim
  evidence : List JsValue
  policy : PolicySlotV1
  recorded : List DomainEventPayloadV1 := []

def Scenario.workspaceChain (scenario : Scenario) : List HashedEventEnvelopeV1 :=
  sealedChain .workspace (.workspace
    (.workspaceCreatedV1 (js "w") (js "authority") (js "grant") (js "marker") noPolicyDigest) ::
      scenario.recorded)

def Scenario.runChain (scenario : Scenario) : List HashedEventEnvelopeV1 :=
  sealedChain .run [.run (.runCreatedV1 (js "w") (js "r") scenario.document)]

def Scenario.cursor (scenario : Scenario) : CompositeCursorV1 :=
  finalOf sampleCursor (currentCursor (js "w") (js "r") scenario.workspaceChain scenario.runChain)

def Scenario.contextVersion (scenario : Scenario) : ContextVersionV1 :=
  .composite scenario.cursor.workspaceContextEpoch scenario.cursor.runContextEpoch scenario.cursor

def Scenario.stateHash (scenario : Scenario) : JsString :=
  digestOf "horseness.canonical-document.v1" scenario.document

def Scenario.policyDigest (scenario : Scenario) : JsString :=
  finalOf [] (policySlotDigest scenario.policy)

def recordedScope : DeltaAuthorityScopeV1 := ⟨js "w", js "r", js "t", [[]]⟩

def scopeDigest : JsString :=
  digestOf "horseness.delta-authority-scope.v1" (scopeJson recordedScope)

def Scenario.pinCore (scenario : Scenario) : ForkPinCoreV1 :=
  { samplePin (js "join") with
    canonicalStateHash := scenario.stateHash
    sourceObservationCursor := scenario.cursor
    sourceContextVersion := scenario.contextVersion
    deltaAuthorityScopeDigest := scopeDigest
    pinnedPolicyDigest := scenario.policyDigest
    createdByPrincipalId := js "worker"
    createdByGrantDigest := js "grant" }

def Scenario.pin (scenario : Scenario) : SealedForkPinV1 :=
  finalOf ⟨scenario.pinCore, [], []⟩ (sealForkPin scenario.pinCore)

def Scenario.core (scenario : Scenario) : ProposalEnvelopeCoreV1 :=
  { workspaceId := js "w"
    runId := js "r"
    authorPrincipalId := js "worker"
    authorGrantDigest := js "grant"
    attemptId := js "attempt"
    receiptDigests := []
    forkPinDigest := scenario.pin.forkPinDigest
    deltaAuthorityScopeDigest := scopeDigest
    baseRevision := 0
    baseStateHash := scenario.stateHash
    proposalSealingObservationCursor := scenario.cursor
    proposalSealingContextVersion := scenario.contextVersion
    operations := scenario.operations
    evidenceClaims := scenario.claims
    pinnedPolicyDigest := scenario.policyDigest
    currentPolicyDigest := scenario.policyDigest
    nonce := js "proposal"
    predecessorProposalDigest := none
    predecessorReason := none }

def Scenario.proposal (scenario : Scenario) : ProposalEnvelopeV1 :=
  finalOf ⟨scenario.core, [], []⟩ (sealProposal scenario.core)

theorem Scenario.proposal_operations (scenario : Scenario) :
    scenario.proposal.core.operations = scenario.operations := by
  unfold Scenario.proposal sealProposal
  cases validateProposalCore scenario.core with
  | error code => rfl
  | ok checked =>
      simp only [ok_bind]
      cases domainDigest (js "horseness.proposal.v1") _ <;> rfl

def Scenario.sealing (scenario : Scenario) : JsValue :=
  object [("schemaVersion", .str (js "1")), ("observationCursor", scenario.cursor.toJson),
    ("fork", object [("core", scenario.pin.core.toJson),
      ("forkPinDigest", .str scenario.pin.forkPinDigest),
      ("forkPinId", .str scenario.pin.forkPinId)]),
    ("scope", scopeJson recordedScope), ("receipts", .arr []),
    ("pinnedPolicy", scenario.policy.toJson), ("evidence", .arr scenario.evidence)]

def recordedCapability : CapabilityV1 :=
  { workspaceId := js "w"
    runId := some (js "r")
    taskId := none
    attemptId := none
    generation := none
    commands := [.submitProposal]
    issuer := js "authority"
    delegatee := js "worker"
    issuedObservationSequence := 1
    expiresObservationSequence := 100
    nonce := js "cap"
    revocationSequence := none }

def Scenario.current (scenario : Scenario) : AdmissionCurrentAuthorityV1 :=
  { evaluationObservationCursor := scenario.cursor
    currentPolicy := scenario.policy
    authorization := ⟨.worker, js "capability", recordedCapability, js "grant", false⟩
    quota := ⟨js "quota", js "quota-digest", true⟩
    authenticatedApproverPrincipalId := js "approver"
    authorityTime := js "2026-01-01T00:00:00Z" }

def Scenario.authority (scenario : Scenario) : Authority :=
  let workspaceKey := StreamKey.workspace (js "w")
  let runKey := StreamKey.run (js "w") (js "r")
  let head (events : List HashedEventEnvelopeV1) : StreamRow :=
    ⟨events.length, events.getLast?.map HashedEventEnvelopeV1.envelopeHash, events.length - 1⟩
  let snapshot (name : String) (state : JsValue) : SnapshotRow :=
    ⟨runKey, scenario.cursor.runSequence, scenario.cursor.runEnvelopeHash, js name, js "1", state⟩
  { Authority.fresh with
    streams := (Record.set (∅ : Record StreamKey StreamRow) workspaceKey
      (head scenario.workspaceChain)).set runKey (head scenario.runChain)
    events := scenario.workspaceChain.map (EventRow.mk workspaceKey) ++
      scenario.runChain.map (EventRow.mk runKey)
    snapshots := [snapshot "admission-sealing" scenario.sealing,
      snapshot "admission-current" scenario.current.toJson]
    artifacts := Record.ofEntries (scenario.claims.map fun item =>
      (item.digest, ⟨item.digest, 1, js "objects", some (js "text/plain")⟩)) }

def Scenario.request (scenario : Scenario) : AdmissionRequestV1 :=
  { commandId := js "command"
    proposal := scenario.proposal
    scopeDigest := scopeDigest
    forkPinDigest := scenario.pin.forkPinDigest
    receiptDigests := []
    evidenceIds := scenario.claims.map EvidenceClaim.claim
    policyDigest := scenario.policyDigest
    quotaId := js "quota"
    approval := none
    capabilityId := js "capability"
    action := js "apply-delta"
    version := js "1" }

def Scenario.replacing (names : List JsString) : Scenario :=
  { document := .obj .object (names.map fun name => (name, natural 0))
    operations := names.map fun name =>
      object [("op", .str (js "replace")), ("path", .str (js "/" ++ name)),
        ("expectedValueDigest", .str (digestOf "horseness.json-value.v1" (natural 0))),
        ("value", natural 1)]
    claims := []
    evidence := []
    policy := .noPolicy }

def plainScenario : Scenario := .replacing [js "a"]

def evidenceScenario : Scenario :=
  { plainScenario with
    claims := [⟨js "digest", js "item"⟩]
    evidence := [object [("evidenceId", .str (js "item")), ("digest", .str (js "digest")),
      ("path", .str (js "/a")), ("version", .str (js "1")), ("size", natural 1),
      ("mediaType", .str (js "text/plain"))]] }

/-- The second name is an astral character: it comes first by its code units, and last by its
bytes. -/
def pathScenario : Scenario := .replacing [[0xE000], [0xD83D, 0xDE00]]

end Scenarios

example : increasing [[0xE000], [0xD83D, 0xDE00]] ∧ ¬ increasing [[0xD83D, 0xDE00], [0xE000]] := by
  decide +kernel

def scenarioDigests : List (Nat × JsString) :=
  [(10651804071106118591, js "f5ba20265a7a3660e9209fa3de50724e06d7c3137d2d46afee10b8cfc9667e86"),
    (1076240357024418428, js "cf91cd7bf84305cd6486b0605ca89db311787d6b0af610f7d5d8194c7cbe94fa"),
    (10993581869960712586, js "cfe70cac8f492f6b2b404001f944cb561d12bdc5ce59aa33a7e25caeb02de2e4"),
    (11492101477613855103, js "864f8bfb4de5f24e3c6b7de5a6ab9d78ea8110cf237c8f33e54538ed346e4689"),
    (11998395972449245255, js "d63d62988df69f410f9769accccd0f82dbdc82103bdffbf3cbbc6e451d4d7d7d"),
    (12306391045631699378, js "4923eb38d35bf7aeae966f02e7071e9bcd2d673851f8436545176365c3bc36de"),
    (1272607610716887071, js "a0fed94dae0a07de92c0798ee59f01db377e24f315dd242a06cce02ebda8d494"),
    (14534491471329457118, js "83a5939b11c40f757dfe6a17c22e5bcdacfa3417a7bdeac9f7e53a56f9cefb76"),
    (14846537157128779418, js "d4129e609d06546d00015b08b94c405cd158e1ddad9c994f3877d0434a0810ec"),
    (17575521562373365165, js "1dc9bf5a374eead17f5af617bee1c2b22f976c2cbb4e9a1d5f262a1ce8c4f7f2"),
    (2225677827548194072, js "fe66a92d2b55fca5cafe592206b283dbf380295e7310a6be31019a062f69ee33"),
    (2936740550609083765, js "b5e8660ae5e37d770961b5fb0b84420eacd4491fafdbb8b2fc29692fe4a74fde"),
    (3055493236850649374, js "d1038fcd1e9da0bc208d597fab0276f3e75f2ac241a2f33e00b87dae1d82e387"),
    (3883761091760577599, js "c9349f2787eb76167b5d9c78bf08c18e3ad2289fbc3a51f57fff2a68511b7687"),
    (4690311268371135448, js "65ed684bfeebdad1f164c23294177945eef67cb694955e453d8e5a3703d3f6d0"),
    (5221914876087440028, js "b1fc554c7e5d025f2c81ea8de29ff8895df997fe2e786f3d1da7d9adeee7a89d"),
    (6260477959704944801, js "075453dc8c8d8036eced20db15108fd60d62cde6964517817347980d822ca5af"),
    (6665632704262911105, js "6f9c075541cadf17bde40a79f1715c48be8c0da0a79a5f7af46fc7743919b867"),
    (7005193746355123548, js "1c125eed8c087a4b40d8f101f2d8318dcf0606c0157ff10ff63bb9ef2264e161"),
    (72638952415169328, js "fd11356209c0c32764fd8205db365daba1ab65427113ede13f4334287365a7bb"),
    (8342419577912094354, js "665eb95af688fdf9421fd3a9e29198f209d9b55c262a6f700fbcf52959442c90"),
    (8653529327916325918, js "63c0aedd56fbf344ee6428c2fb938f6c4b2c76313be3f592cd2b24d8837e1051"),
    (887046176574053018, js "0a74b86d676ef0f7ecb575e4082a10180a808ef79429c2d4d7e175a070648e34"),
    (9581838267060207785, js "02dc165288f7fb32a94cfff244bd21e1eaeb5dfc3fac2b03aff405d585672942"),
    (9622685186633239257, js "94fa5e5397e5af782387eae3dc7d47d7ac1d497bff0577f1854a0bcdab1a9b48"),
    (9789111807269623966, js "fd153d18835457a978924f068af66a43771d666a433136e07c48c7d757fbaf62")]

@[reducible] def scenarioEngine : Engine :=
  { recordedEngine with
    sha256Hex := fun text => (scenarioDigests.lookup (fingerprint text)).getD (122 :: text)
    dateParse := fun text =>
      ((js "2026-01-01T00:00:00Z", 1767225600000) :: recordedTimes).lookup text }

attribute [local instance] scenarioEngine

theorem scenario_digests_named (text : JsString) : Engine.sha256Hex text ≠ [] := by
  have filled : ∀ entry ∈ scenarioDigests, entry.2 ≠ [] := by decide +kernel
  change (scenarioDigests.lookup (fingerprint text)).getD (122 :: text) ≠ []
  cases found : scenarioDigests.lookup (fingerprint text) with
  | none => simp
  | some digest =>
      obtain ⟨before, after, split, -⟩ := List.lookup_eq_some_iff.mp found
      exact filled (fingerprint text, digest) (by rw [split]; simp)

def evidenceInForm (evidence : List JsValue) : Prop :=
  (∀ item ∈ evidence, (∀ name ∈ evidenceKeys, ∃ text ∈ textAt name item, text ≠ []) ∧
    ∃ path ∈ textAt "path" item, pointerText path .policyInputInvalid = .ok ()) ∧
  increasing (evidence.filterMap (textAt "evidenceId"))

instance (evidence : List JsValue) : Decidable (evidenceInForm evidence) :=
  inferInstanceAs (Decidable ((∀ item ∈ evidence, _) ∧ _))

instance scenarios_prepared : Fact (endsIn (fun outcome => outcome.1.historical.evidence.isEmpty &&
      decide (canonicalSecond outcome.1.current.authorityTime .policyClockInvalid = .ok ()) &&
      decide (parsePolicySlotV1 outcome.1.current.currentPolicy = .ok ()) &&
      decide (outcome.1.current.authorization.grantDigest ≠ []) &&
      decide (outcome.1.current.quota.digest ≠ []) &&
      decide (outcome.1.current.authenticatedApproverPrincipalId ≠ []))
      (prepare openSession plainScenario.request plainScenario.authority) = true ∧
    ∀ scenario ∈ [evidenceScenario, pathScenario], scenario.operations.isEmpty = false ∧
      endsIn (fun outcome => decide (evidenceInForm outcome.1.historical.evidence) &&
        decide (canonicalSecond outcome.1.current.authorityTime .policyClockInvalid = .ok ()) &&
        failsWith .policyInputInvalid (parseAdmissionEvaluationInputV1
          (evaluationInput scenario.request outcome.1 outcome.2)))
        (prepare openSession scenario.request scenario.authority) = true) where
  out := by
    -- one scenario after the other: what one run leaves behind is no use to the next
    refine ⟨?_, List.forall_mem_cons.mpr ⟨?_, List.forall_mem_singleton.mpr ?_⟩⟩
    · decide +kernel
    · decide +kernel
    · decide +kernel

/-- A proposal without evidence that touches one path is evaluated. -/
theorem plain_input_accepted : ∃ loaded validated,
    prepare openSession plainScenario.request plainScenario.authority = .ok (loaded, validated) ∧
      ∃ subject, parseAdmissionEvaluationInputV1
        (evaluationInput plainScenario.request loaded validated) = .ok subject := by
  obtain ⟨⟨loaded, validated⟩, prepared, fields⟩ := ends_in_exists scenarios_prepared.out.1
  simp only [Bool.and_eq_true, decide_eq_true_eq, List.isEmpty_iff] at fields
  obtain ⟨⟨⟨⟨⟨evidence, second⟩, policy⟩, grant⟩, quota⟩, approver⟩ := fields
  refine ⟨loaded, validated, prepared,
    (admission_input_accepted_iff scenario_digests_named prepared ?_ second).mpr ?_⟩
  · rw [Scenario.request, Scenario.proposal_operations]
    decide +kernel
  · refine ⟨evidence, ?_, by decide +kernel, by decide +kernel, policy, grant, quota, approver,
      by simp [Scenario.request]⟩
    rw [Scenario.request, Scenario.proposal_operations]
    decide +kernel

/-- Both proposals are loaded and validated, and evaluation refuses their inputs. -/
theorem evaluation_inputs_refused : [evidenceScenario, pathScenario].Forall fun scenario =>
    scenario.request.proposal.core.operations ≠ [] ∧
    ∃ loaded validated,
      prepare openSession scenario.request scenario.authority = .ok (loaded, validated) ∧
      evidenceInForm loaded.historical.evidence ∧
      canonicalSecond loaded.current.authorityTime .policyClockInvalid = .ok () ∧
      parseAdmissionEvaluationInputV1 (evaluationInput scenario.request loaded validated) =
        .error .policyInputInvalid := by
  rw [List.forall_iff_forall_mem]
  intro scenario member
  obtain ⟨touched, prepared⟩ := scenarios_prepared.out.2 scenario member
  obtain ⟨⟨loaded, validated⟩, loads, fields⟩ := ends_in_exists prepared
  simp only [Bool.and_eq_true, decide_eq_true_eq] at fields
  obtain ⟨⟨form, second⟩, refused⟩ := fields
  refine ⟨?_, loaded, validated, loads, form, second, fails_with_eq refused⟩
  rw [Scenario.request, Scenario.proposal_operations]
  simpa using touched

end Recorded

end Horseness.AdmissionInputs
