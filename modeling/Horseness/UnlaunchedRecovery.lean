import Horseness.Recovery

/-!
Recovery of an attempt that was never launched. No provider has heard of it, yet a record that
has left its planned phase is recovered as if one might have.
-/

namespace Horseness.UnlaunchedRecovery

open FallibleRuns ScriptText JsonValues ScriptEngine JsonPaths Canonical PlainObjects Tasks
  SealedValues BoundAttempts LeaseFences ReceiptProjection DispatchRecords Recovery Turns
  IdealDigests WellFormedText

section Operations

variable [Engine]

/-- A late handle is recorded as long as the record is not terminal. -/
def auditLateHandle (record : DispatchRecordV1) (attempt : BoundAttemptV1)
    (operationId handle : JsString) : Except DispatchError RecoveryResultV1 := do
  assertDispatchBinding record attempt
  let action (classification : RecoveryClassificationV1) (duplicateRisk : Bool) :
      Except DispatchError RecoveryActionV1 :=
    (sealCore _ _
      { attemptId := record.core.attemptId
        generation := record.core.generation
        bindingDigest := record.core.bindingDigest
        fenceToken := 0
        lookupOutcome := .found
        classification := classification
        operationId := some operationId
        providerHandle := some handle
        cancellationRequested := record.core.cancellationRequested
        duplicateRisk := duplicateRisk }).mapError DispatchError.domain
  if terminal record.core.phase then do
    let mismatch :=
      (record.core.operationId ≠ none ∧ record.core.operationId ≠ some operationId) ∨
        (record.core.providerHandle ≠ none ∧ record.core.providerHandle ≠ some handle)
    let audit ← action .terminalAuditOnly (decide mismatch)
    return ⟨record, audit⟩
  else do
    let handled ← recordProviderHandle record operationId handle
    let audit ← action (if truthy record.core.providerHandle then .reattach else .adopt) false
    return ⟨handled, audit⟩

/-- What the exported operations make of a record. -/
inductive Exported (record : DispatchRecordV1) : DispatchRecordV1 → Prop
  | called (call : LineageCall) : Exported record (call.after record)
  | audited {attempt : BoundAttemptV1} {operationId handle : JsString} {result : RecoveryResultV1}
      (done : auditLateHandle record attempt operationId handle = .ok result) :
      Exported record result.record
  | rehydrated {after : DispatchRecordV1}
      (done : rehydrateDispatchRecord record.serialized = .ok after) : Exported record after

def NeverLaunched (record : DispatchRecordV1) : Prop :=
  ∀ event ∈ record.core.events, event.eventType ≠ .launchIntentCommittedV1

/-- The recovery answers with this risk, and the provider is not called. -/
def Risks (turn : Dispatching RecoveryResultV1) (duplicateRisk : Bool) : Prop :=
  ∃ result, outcome turn [] = (.ok result, []) ∧
    result.action.core.duplicateRisk = duplicateRisk

def Riskless (turn : Dispatching RecoveryResultV1) : Prop := Risks turn false

end Operations

section Records

variable [Engine] {record after : DispatchRecordV1}

/-- A record that no launch was committed to. -/
structure Unlaunched (core : DispatchRecordCoreV1) : Prop where
  sound : Sound core
  unbound : core.idempotencyKey = none
  planned : core.phase = .planned → core.cancellationRequested = false

def Accounted (record : DispatchRecordV1) : Prop :=
  NeverLaunched record → Unlaunched record.core

theorem evolved_events {changed : DispatchRecordCoreV1} {eventType : DispatchEventTypeV1}
    (evolved : Evolved record changed eventType after) : record.core.events <+: after.core.events := by
  rcases evolved.core with ⟨digest, core⟩
  rw [core]
  exact List.prefix_append _ _

theorem effect_events (effect : Effect record after) :
    record.core.events <+: after.core.events := by
  cases effect with
  | committed _ _ _ _ evolved => exact evolved_events evolved
  | bound _ _ _ evolved => exact evolved_events evolved
  | handled _ _ _ _ _ _ evolved => exact evolved_events evolved
  | moved _ _ _ evolved => exact evolved_events evolved
  | cancelled evolved => exact evolved_events evolved
  | adopted _ _ _ _ _ evolved => exact evolved_events evolved

theorem reach_events (reach : Reach record after) : record.core.events <+: after.core.events := by
  induction reach with
  | refl => exact List.prefix_rfl
  | tail _ effect ih => exact ih.trans (effect_events effect)

theorem never_earlier (extended : record.core.events <+: after.core.events)
    (never : NeverLaunched after) : NeverLaunched record :=
  fun event member => never event (extended.subset member)

theorem effect_accounted (unlaunched : Unlaunched record.core) (effect : Effect record after) :
    Accounted after := by
  intro never
  have sound := (effect_sound unlaunched.sound effect).1
  have unbound := unlaunched.unbound
  have moved {changed : DispatchRecordCoreV1} {eventType : DispatchEventTypeV1}
      (evolved : Evolved record changed eventType after)
      (key : changed.idempotencyKey = record.core.idempotencyKey)
      (phase : changed.phase ≠ .planned) : Unlaunched after.core := by
    rcases evolved.core with ⟨digest, core⟩
    refine ⟨sound, ?_, fun planned => absurd ?_ phase⟩
    · rw [core]
      exact key.trans unbound
    · rw [core] at planned
      exact planned
  cases effect with
  | committed _ _ _ _ evolved =>
      -- the event of the launch is the last one
      rcases Option.map_eq_some_iff.mp (evolved_last evolved) with ⟨event, last, named⟩
      exact absurd named (never event (List.mem_of_getLast? last))
  | bound _ _ _ evolved => exact moved evolved rfl (nomatch ·)
  | handled _ _ _ launched _ _ evolved => exact moved evolved rfl launched
  | moved _ _ launched evolved => exact moved evolved rfl launched
  | cancelled evolved => exact moved evolved rfl (nomatch ·)
  | adopted _ _ _ _ _ evolved => exact moved evolved rfl (nomatch ·)

theorem reach_accounted (unlaunched : Unlaunched record.core) (reach : Reach record after) :
    Accounted after := by
  induction reach with
  | refl => exact fun _ => unlaunched
  | tail _ effect ih =>
      intro never
      exact effect_accounted (ih (never_earlier (effect_events effect) never)) effect never

end Records

section Calls

variable [Engine] {record after : DispatchRecordV1}

abbrev KeepsEvents (record : DispatchRecordV1) (turn : Dispatching DispatchRecordV1) : Prop :=
  Keeps (Noted fun _ => True) (fun _ => True) turn
    (fun after _ => record.core.events <+: after.core.events)

theorem reach_keeps {allowed : ProviderCall → Prop} {turn : Dispatching DispatchRecordV1}
    (kept : Keeps (Noted allowed) (fun _ => True) turn (fun after _ => Reach record after)) :
    KeepsEvents record turn := by
  intro state given
  have both := kept state given
  exact ⟨noted_mono (fun _ _ => trivial) both.1, fun after answered =>
    reach_events (both.2 after answered)⟩

theorem dispatch_events (input : FenceInput) (adapter : ProviderAdapterV1) :
    KeepsEvents record (dispatchCommittedIntent record input adapter) := by
  unfold dispatchCommittedIntent
  refine keeps_checked fun _ _ => keeps_checked fun _ _ => keeps_checked fun _ _ => ?_
  split
  · exact keeps_pure fun _ _ => List.prefix_rfl
  · refine keeps_checked fun _ _ => keeps_called trivial fun result _ =>
      keeps_checked fun _ _ => keeps_checked fun next evolved => ?_
    have first := evolved_events (evolve_ok evolved)
    split
    · exact keeps_pure fun _ _ => first
    · exact keeps_check fun _ after _ later => first.trans (evolved_events (evolve_ok later))

theorem adopt_events {event : VerifiedReceiptEventV1} {authority : VerifiedAttemptAuthorityV1}
    (done : recordAuthenticatedTerminalReceipt record event authority = .ok after) :
    record.core.events <+: after.core.events := by
  rcases adopt_effect done with ⟨rfl, _⟩ | ⟨_, _, _, _, evolved⟩
  · exact List.prefix_rfl
  · exact evolved_events evolved

theorem operate_events (call : DispatchCall) : KeepsEvents record (call.perform record) := by
  have effected {done : Except DispatchError DispatchRecordV1}
      (effect : ∀ after, done = .ok after → after = record ∨ Effect record after) :
      KeepsEvents record (check done) :=
    keeps_check fun _ after _ answered => reach_events (effects_reach (effect after answered))
  cases call with
  | commitLaunchIntent input providerId => exact effected fun _ => commit_effect
  | dispatchCommittedIntent input adapter => exact dispatch_events input adapter
  | recordProviderHandle operationId handle => exact effected fun _ => handle_effect
  | lookupDispatch adapter => exact reach_keeps (lookup_keeps adapter)
  | recordLookupFailure => exact effected fun _ => lookup_failure_effect
  | requestDispatchCancellation => exact effected fun _ => cancellation_effect
  | handoffCancellation adapter => exact reach_keeps (handoff_keeps adapter)
  | recordTerminalReceipt input =>
      refine keeps_check fun _ after _ done => ?_
      rcases receipt_effect done with rfl | ⟨next, first, last⟩
      · exact List.prefix_rfl
      · exact (reach_events (effects_reach first)).trans (effect_events last)
  | recordAuthenticatedTerminalReceipt event authority =>
      exact keeps_check fun _ after _ done => adopt_events done

theorem after_of {call : LineageCall} (holds : DispatchRecordV1 → Prop) (still : holds record)
    (answered : ∀ answer, (outcome (call.perform record) []).1 = .ok answer → holds answer.record) :
    holds (call.after record) := by
  unfold LineageCall.after
  cases shape : (outcome (call.perform record) []).1 with
  | error failure => exact still
  | ok answer => exact answered answer shape

theorem call_events (call : LineageCall) :
    record.core.events <+: (call.after record).core.events := by
  refine after_of (fun after => record.core.events <+: after.core.events)
    List.prefix_rfl fun answer answered => ?_
  have recovered {turn : Dispatching RecoveryResultV1}
      (kept : Keeps (Noted (Asked record.core)) (fun _ => True) turn
        (fun result _ => Recovers record result)) :
      (outcome (do let result ← turn; return (⟨result.record, some result.action⟩ : LineageAnswer))
        []).1 = .ok answer → record.core.events <+: answer.record.core.events :=
    fun answered => reach_events ((recover_answers kept [] trivial).2 answer answered).reach
  cases call with
  | operate call =>
      have kept : Keeps (Noted fun _ => True) (fun _ => True) ((LineageCall.operate call).perform record)
          (fun answer _ => record.core.events <+: answer.record.core.events) :=
        keeps_bind (operate_events call) fun after => keeps_given fun extended =>
          keeps_pure fun _ _ => extended
      exact (kept [] trivial).2 answer answered
  | recoverDispatch input adapter => exact recovered (dispatch_recovers input adapter) answered
  | recoverCancellation input adapter => exact recovered (cancellation_recovers input adapter) answered

theorem adopt_refused (unbound : record.core.idempotencyKey = none) (event : VerifiedReceiptEventV1)
    (authority : VerifiedAttemptAuthorityV1) (after : DispatchRecordV1) :
    recordAuthenticatedTerminalReceipt record event authority ≠ .ok after := by
  intro done
  simp only [recordAuthenticatedTerminalReceipt, bind_ok_iff, ensure_ok_iff, unbound] at done
  rcases done with ⟨_, _, _, keyed, _⟩
  cases keyed

theorem call_reach (unlaunched : Unlaunched record.core) (call : LineageCall) :
    Reach record (call.after record) := by
  by_cases filled : Filled call
  · exact after_of (Reach record) .refl fun answer answered =>
      ((call_answers unlaunched.sound filled [] trivial).2 answer answered).reach
  · refine after_of (Reach record) .refl fun answer answered => ?_
    -- only a receipt could come with an empty handle, and it is refused
    have adopts : ∃ event authority,
        call = .operate (.recordAuthenticatedTerminalReceipt event authority) := by
      cases call with
      | operate call =>
          cases call with
          | recordAuthenticatedTerminalReceipt event authority => exact ⟨event, authority, rfl⟩
          | _ => exact absurd trivial filled
      | _ => exact absurd trivial filled
    rcases adopts with ⟨event, authority, rfl⟩
    have kept : Keeps (Noted fun _ => True) (fun _ => True)
        ((LineageCall.operate (.recordAuthenticatedTerminalReceipt event authority)).perform record)
        (fun _ _ => False) := by
      refine keeps_checked fun after done => ?_
      exact absurd done (adopt_refused unlaunched.unbound event authority after)
    exact absurd answered fun answered => (kept [] trivial).2 answer answered

theorem rehydrated_same (done : rehydrateDispatchRecord record.serialized = .ok after) :
    after = record := by
  simp only [rehydrateDispatchRecord, bind_ok_iff, seal_record_ok_iff, pure_ok_iff] at done
  rcases done with ⟨_, core, _, _, _, _, _, _, rfl⟩
  exact sealed_ext core

theorem audit_reach {attempt : BoundAttemptV1} {operationId handle : JsString}
    {result : RecoveryResultV1}
    (done : auditLateHandle record attempt operationId handle = .ok result) :
    Reach record result.record := by
  simp only [auditLateHandle, bind_ok_iff] at done
  rcases done with ⟨_, _, done⟩
  split at done
  · simp only [bind_ok_iff, pure_ok_iff] at done
    rcases done with ⟨_, _, rfl⟩
    exact .refl
  · simp only [bind_ok_iff, pure_ok_iff] at done
    rcases done with ⟨handled, recorded, _, _, rfl⟩
    exact effects_reach (handle_effect recorded)

-- The step lemma: no operation binds a record without committing a launch.
theorem exported_accounted (accounted : Accounted record) (step : Exported record after) :
    Accounted after := by
  intro never
  cases step with
  | called call =>
      have unlaunched := accounted (never_earlier (call_events call) never)
      exact reach_accounted unlaunched (call_reach unlaunched call) never
  | audited done =>
      have reach := audit_reach done
      exact reach_accounted (accounted (never_earlier (reach_events reach) never)) reach never
  | rehydrated done =>
      rw [rehydrated_same done] at never ⊢
      exact accounted never

variable {attempt : BoundAttemptV1} {start : DispatchRecordV1}

theorem created_unlaunched (created : createDispatchRecord attempt = .ok start) :
    Unlaunched start.core := by
  have sound := created_sound created
  simp only [createDispatchRecord, bind_ok_iff, seal_record_ok_iff] at created
  rcases created with ⟨_, _, core⟩
  rw [core] at sound ⊢
  exact ⟨sound, rfl, fun _ => rfl⟩

theorem reached_accounted (created : createDispatchRecord attempt = .ok start)
    (reached : Relation.ReflTransGen Exported start record) : Accounted record := by
  induction reached with
  | refl => exact fun _ => created_unlaunched created
  | tail _ step ih => exact exported_accounted ih step

end Calls

section Texts

theorem phase_valid (phase : DispatchPhaseV1) : validUnicode phase.text = true := by
  cases phase with
  | terminal outcome => cases outcome <;> decide
  | _ => decide

theorem event_type_valid (eventType : DispatchEventTypeV1) : validUnicode eventType.text = true := by
  cases eventType <;> decide

theorem classification_valid (classification : RecoveryClassificationV1) :
    validUnicode classification.text = true := by
  cases classification <;> decide

theorem lookup_valid (lookupOutcome : RecoveryLookupOutcomeV1) :
    validUnicode lookupOutcome.text = true := by
  cases lookupOutcome <;> decide

theorem object_values {fields : List (String × JsValue)} (valid : assertJson (object fields) = .ok ())
    (name : String) {value : JsValue} (member : (name, value) ∈ fields) :
    assertJson value = .ok () := by
  rw [object, assert_obj_ok_iff] at valid
  exact (valid.2 _ (List.mem_map_of_mem member)).2

theorem field_valid {name : String} {value whole : JsValue} (named : validUnicode (js name) = true)
    (valid : assertJson whole = .ok ()) (added : assertJson value = .ok ()) :
    assertJson (withField name value whole) = .ok () := by
  cases whole with
  | obj proto fields =>
      rw [assert_obj_ok_iff] at valid
      refine (assert_obj_ok_iff proto _ ()).mpr ⟨valid.1, fun entry member => ?_⟩
      rcases List.mem_append.mp member with earlier | last
      · exact valid.2 entry earlier
      · rw [List.mem_singleton.mp last]
        exact ⟨named, added⟩
  | _ => exact valid

/-- The texts of a core that can be written. -/
structure Writable (core : DispatchRecordCoreV1) : Prop where
  attemptId : assertJson (.str core.attemptId) = .ok ()
  bindingDigest : assertJson (.str core.bindingDigest) = .ok ()
  attemptDigest : assertJson (.str core.attemptDigest) = .ok ()
  providerId : assertJson (nullable .str core.providerId) = .ok ()
  idempotencyKey : assertJson (nullable .str core.idempotencyKey) = .ok ()
  intentDigest : assertJson (nullable .str core.intentDigest) = .ok ()
  operationId : assertJson (nullable .str core.operationId) = .ok ()
  providerHandle : assertJson (nullable .str core.providerHandle) = .ok ()
  events : ∀ event ∈ core.events, assertJson event.toJson = .ok ()

theorem writable_iff {core : DispatchRecordCoreV1} :
    assertJson core.toJson = .ok () ↔ Writable core := by
  constructor
  · intro valid
    have events : assertJson (.arr (core.events.map DispatchEventV1.toJson)) = .ok () :=
      object_values valid "events" (by simp)
    rw [assert_arr_ok_iff, List.forall_mem_map] at events
    constructor
    · exact object_values valid "attemptId" (by simp)
    · exact object_values valid "bindingDigest" (by simp)
    · exact object_values valid "attemptDigest" (by simp)
    · exact object_values valid "providerId" (by simp)
    · exact object_values valid "idempotencyKey" (by simp)
    · exact object_values valid "intentDigest" (by simp)
    · exact object_values valid "operationId" (by simp)
    · exact object_values valid "providerHandle" (by simp)
    · exact events
  · intro writable
    refine object_valid (by rfl) ?_
    simp only [List.map_cons, List.map_nil, List.forall_mem_cons, List.not_mem_nil, false_imp_iff,
      implies_true, and_true]
    refine ⟨rfl, writable.attemptId, natural_valid _, writable.bindingDigest, writable.attemptDigest,
      ?_, writable.providerId, writable.idempotencyKey, writable.intentDigest, writable.operationId,
      writable.providerHandle, ?_, ?_⟩
    · exact (assert_str_ok_iff _ ()).mpr (phase_valid core.phase)
    · cases core.cancellationRequested <;> rfl
    · rw [assert_arr_ok_iff, List.forall_mem_map]
      exact writable.events

end Texts

section Seals

variable [Engine] {record : DispatchRecordV1} {lease : LeaseFenceV1}

theorem record_writable (record : DispatchRecordV1) : Writable record.core :=
  writable_iff.mp ((digest_ok_iff _ _ _).mp record.authentic).1

theorem event_made (law : Hexadecimal Engine.sha256Hex) (record : DispatchRecordV1)
    (eventType : DispatchEventTypeV1) : ∃ added, event record.core eventType = .ok added ∧
      assertJson added.toJson = .ok () := by
  have writable := record_writable record
  let added : DispatchEventV1 := ⟨record.core.events.length + 1, eventType, record.core.attemptId,
    record.core.generation, record.core.bindingDigest, []⟩
  have core : assertJson added.core = .ok () := by
    refine object_valid (by rfl) ?_
    simp only [List.map_cons, List.map_nil, List.forall_mem_cons, List.not_mem_nil, false_imp_iff,
      implies_true, and_true]
    exact ⟨rfl, natural_valid _, (assert_str_ok_iff _ ()).mpr (event_type_valid eventType),
      writable.attemptId, natural_valid _, writable.bindingDigest⟩
  rcases digest_made law (js "horseness.dispatch-event.v1") core with ⟨digest, digested, _, hexadecimal⟩
  refine ⟨{ added with eventDigest := digest }, ?_, ?_⟩
  · rw [event, eventDigest, digested]
    rfl
  · exact field_valid (by decide) core ((assert_str_ok_iff _ ()).mpr hexadecimal)

theorem moved_made (law : Hexadecimal Engine.sha256Hex) (record : DispatchRecordV1)
    (phase : DispatchPhaseV1) (cancelled : Bool) (eventType : DispatchEventTypeV1) :
    ∃ after, evolve record { record.core with
      phase := phase
      cancellationRequested := cancelled } eventType = .ok after := by
  rcases event_made law record eventType with ⟨added, made, valid⟩
  have writable := record_writable record
  have whole : assertJson ({ record.core with
      phase := phase
      cancellationRequested := cancelled
      events := record.core.events ++ [added] } : DispatchRecordCoreV1).toJson = .ok () := by
    refine writable_iff.mpr { writable with events := ?_ }
    simpa [List.forall_mem_append, or_imp, forall_and] using ⟨writable.events, valid⟩
  rcases seal_exists whole with ⟨after, core⟩
  exact ⟨after, by rw [evolve, made, ok_bind, seal_record_ok_iff, core]⟩

theorem result_made (record : DispatchRecordV1) (lease : LeaseFenceV1)
    (lookupOutcome : RecoveryLookupOutcomeV1) (classification : RecoveryClassificationV1)
    (duplicateRisk : Bool) : ∃ result,
      recoveryResult record lease lookupOutcome classification duplicateRisk = .ok result ∧
        result.action.core.duplicateRisk = duplicateRisk := by
  have writable := record_writable record
  let core : RecoveryActionCoreV1 :=
    { attemptId := record.core.attemptId
      generation := record.core.generation
      bindingDigest := record.core.bindingDigest
      fenceToken := lease.core.fenceToken
      lookupOutcome := lookupOutcome
      classification := classification
      operationId := record.core.operationId
      providerHandle := record.core.providerHandle
      cancellationRequested := record.core.cancellationRequested
      duplicateRisk := duplicateRisk }
  have valid : Valid core.toJson := by
    refine object_valid (by rfl) ?_
    simp only [List.map_cons, List.map_nil, List.forall_mem_cons, List.not_mem_nil, false_imp_iff,
      implies_true, and_true]
    refine ⟨rfl, writable.attemptId, natural_valid _, writable.bindingDigest, natural_valid _,
      (assert_str_ok_iff _ ()).mpr (lookup_valid lookupOutcome),
      (assert_str_ok_iff _ ()).mpr (classification_valid classification), writable.operationId,
      writable.providerHandle, ?_, ?_⟩
    · cases core.cancellationRequested <;> rfl
    · cases core.duplicateRisk <;> rfl
  rcases seal_exists valid with ⟨action, sealed⟩
  refine ⟨⟨record, action⟩, ?_, by rw [sealed]⟩
  simp only [recoveryResult, bind_ok_iff, map_error_ok_iff, seal_ok_iff, pure_ok_iff]
  exact ⟨action, sealed, rfl⟩

end Seals

section Recoveries

variable [Engine] {record : DispatchRecordV1} {input : FenceInput} {adapter : ProviderAdapterV1}

theorem result_risks (record : DispatchRecordV1) (lease : LeaseFenceV1)
    (lookupOutcome : RecoveryLookupOutcomeV1) (classification : RecoveryClassificationV1)
    (duplicateRisk : Bool) :
    Risks (check (recoveryResult record lease lookupOutcome classification duplicateRisk))
      duplicateRisk := by
  rcases result_made record lease lookupOutcome classification duplicateRisk with ⟨result, made, risk⟩
  exact ⟨result, by rw [outcome_check, made], risk⟩

theorem risks_bind {Result : Type} {first : Dispatching Result} {result : Result}
    {next : Result → Dispatching RecoveryResultV1} {duplicateRisk : Bool}
    (answered : outcome first [] = (.ok result, [])) (risks : Risks (next result) duplicateRisk) :
    Risks (first >>= next) duplicateRisk := by
  rw [Risks, outcome_answered answered]
  exact risks

theorem risks_checked {Result : Type} {checked : Except DispatchError Result} {result : Result}
    {next : Result → Dispatching RecoveryResultV1} {duplicateRisk : Bool}
    (made : checked = .ok result) (risks : Risks (next result) duplicateRisk) :
    Risks (check checked >>= next) duplicateRisk :=
  risks_bind (by rw [outcome_check, made]) risks

theorem adapter_refused (unbound : record.core.idempotencyKey = none) (adapter : ProviderAdapterV1) :
    adapterFor record adapter = .error .providerBindingMismatch := by
  have unkeyed : ¬ (record.core.providerId = some adapter.providerId ∧
      truthy record.core.idempotencyKey = true ∧ truthy record.core.intentDigest = true) := by
    rw [unbound]
    exact fun bound => nomatch bound.2.1
  rw [adapterFor, ensure, if_neg unkeyed]
  rfl

theorem lookup_refused (unbound : record.core.idempotencyKey = none) :
    outcome (observed (lookupDispatch record adapter)) [] =
      (.ok (.error .providerBindingMismatch), []) := by
  rw [outcome_observed, lookupDispatch, adapter_refused unbound adapter]
  rfl

theorem handoff_refused (unbound : record.core.idempotencyKey = none) :
    outcome (observed (handoffCancellation record adapter)) [] =
      (.ok (.error .providerBindingMismatch), []) := by
  rw [outcome_observed, handoffCancellation, adapter_refused unbound adapter]
  rfl

theorem dispatch_riskless (fenced : fence record input = .ok ())
    (still : record.core.phase = .planned ∨ terminal record.core.phase = true) :
    Risks (recoverDispatch record input adapter) false := by
  unfold recoverDispatch
  refine risks_checked fenced ?_
  by_cases settled : terminal record.core.phase = true
  · rw [if_pos settled]
    exact result_risks _ _ _ _ _
  · rw [if_neg settled, if_pos (still.resolve_right settled)]
    exact result_risks _ _ _ _ _

-- Any other record is recovered as if a provider might have heard of it.
theorem dispatch_risky (law : Hexadecimal Engine.sha256Hex) (unbound : record.core.idempotencyKey = none)
    (fenced : fence record input = .ok ()) (moved : record.core.phase ≠ .planned)
    (unsettled : terminal record.core.phase ≠ true) :
    Risks (recoverDispatch record input adapter) true := by
  unfold recoverDispatch
  refine risks_checked fenced ?_
  rw [if_neg unsettled, if_neg moved]
  by_cases unknown : record.core.phase = .unknownOutcome
  · rw [if_pos unknown]
    exact result_risks _ _ _ _ _
  · rw [if_neg unknown]
    by_cases requested : record.core.cancellationRequested = true
    · -- the hand-over is refused before the provider is asked, and the refusal is caught
      rw [if_pos requested]
      exact risks_bind (handoff_refused unbound) (result_risks _ _ _ _ _)
    · rw [if_neg requested]
      refine risks_bind (lookup_refused unbound) ?_
      rcases moved_made law record .unknownOutcome record.core.cancellationRequested
        .dispatchReconciliationRequiredV1 with ⟨failed, made⟩
      have recorded : recordLookupFailure record = .ok failed := by
        rw [recordLookupFailure, if_neg (not_or.mpr ⟨unsettled, unknown⟩), bind_ok_iff]
        exact ⟨(), (ensure_ok_iff _ _ _).mpr moved, made⟩
      exact risks_checked recorded (result_risks _ _ _ _ _)

theorem risks_unique {turn : Dispatching RecoveryResultV1} (risky : Risks turn true) :
    ¬ Riskless turn := by
  rintro ⟨other, answered, riskless⟩
  rcases risky with ⟨result, same, risk⟩
  have equal : result = other := by
    rw [same] at answered
    exact Except.ok.inj (congrArg Prod.fst answered)
  rw [equal, riskless] at risk
  cases risk

theorem risks_fenced {next : Unit → Dispatching RecoveryResultV1} {duplicateRisk : Bool}
    (risks : Risks (check (fence record input) >>= next) duplicateRisk) :
    fence record input = .ok () := by
  rcases risks with ⟨result, answered, _⟩
  rcases bind_answers_iff.mp answered with ⟨_, _, fenced, _⟩
  exact (check_answers_iff.mp fenced).1

theorem fence_refused {failure : DispatchError} (refused : fence record input = .error failure)
    (next : Unit → Dispatching RecoveryResultV1) :
    (outcome (check (fence record input) >>= next) []).2 = [] := by
  rw [refused]
  rfl

theorem risks_calls {turn : Dispatching RecoveryResultV1} {duplicateRisk : Bool}
    (risks : Risks turn duplicateRisk) : (outcome turn []).2 = [] := by
  rcases risks with ⟨result, answered, _⟩
  rw [answered]

-- The fence of a record is that of the record once its cancellation is requested.
theorem cancelled_fence {cancelled : DispatchRecordV1}
    (done : requestDispatchCancellation record = .ok cancelled) :
    fence cancelled input = fence record input := by
  unfold requestDispatchCancellation at done
  split at done
  · rw [Except.ok.inj done]
  · rcases (evolve_ok done).core with ⟨digest, core⟩
    simp only [fence, assertDispatchBinding, core]
    rfl

theorem cancellation_riskless (fenced : fence record input = .ok ())
    (settled : terminal record.core.phase = true) :
    Risks (recoverCancellation record input adapter) false := by
  have same : requestDispatchCancellation record = .ok record := by
    rw [requestDispatchCancellation, if_pos (.inl settled)]
  unfold recoverCancellation
  exact risks_checked fenced (risks_checked same (dispatch_riskless fenced (.inr settled)))

-- The request takes a planned record out of its phase before the recovery looks at it.
theorem cancellation_risky (law : Hexadecimal Engine.sha256Hex) (unlaunched : Unlaunched record.core)
    (fenced : fence record input = .ok ()) (unsettled : terminal record.core.phase ≠ true) :
    Risks (recoverCancellation record input adapter) true := by
  unfold recoverCancellation
  refine risks_checked fenced ?_
  by_cases requested : record.core.cancellationRequested = true
  · have same : requestDispatchCancellation record = .ok record := by
      rw [requestDispatchCancellation, if_pos (.inr requested)]
    have moved : record.core.phase ≠ .planned := by
      intro planned
      rw [unlaunched.planned planned] at requested
      cases requested
    exact risks_checked same (dispatch_risky law unlaunched.unbound fenced moved unsettled)
  · rcases moved_made law record .cancelRequested true .cancellationRequestedV1 with ⟨cancelled, made⟩
    have done : requestDispatchCancellation record = .ok cancelled := by
      rw [requestDispatchCancellation, if_neg (not_or.mpr ⟨unsettled, requested⟩)]
      exact made
    have unbound := (cancellation_known done).1.trans unlaunched.unbound
    have phase : cancelled.core.phase = .cancelRequested := by
      rcases (evolve_ok made).core with ⟨digest, core⟩
      rw [core]
    refine risks_checked done (dispatch_risky law unbound ?_ ?_ ?_)
    · exact (cancelled_fence done).trans fenced
    · exact fun planned => by cases phase.symm.trans planned
    · rw [phase]
      exact Bool.false_ne_true

theorem dispatch_calls (law : Hexadecimal Engine.sha256Hex) (unlaunched : Unlaunched record.core) :
    (outcome (recoverDispatch record input adapter) []).2 = [] := by
  cases fenced : fence record input with
  | error failure => exact fence_refused fenced _
  | ok =>
      by_cases still : record.core.phase = .planned ∨ terminal record.core.phase = true
      · exact risks_calls (dispatch_riskless fenced still)
      · rw [not_or] at still
        exact risks_calls (dispatch_risky law unlaunched.unbound fenced still.1 still.2)

theorem cancellation_calls (law : Hexadecimal Engine.sha256Hex) (unlaunched : Unlaunched record.core) :
    (outcome (recoverCancellation record input adapter) []).2 = [] := by
  cases fenced : fence record input with
  | error failure => exact fence_refused fenced _
  | ok =>
      by_cases settled : terminal record.core.phase = true
      · exact risks_calls (cancellation_riskless fenced settled)
      · exact risks_calls (cancellation_risky law unlaunched fenced settled)

theorem dispatch_riskless_iff (law : Hexadecimal Engine.sha256Hex)
    (unlaunched : Unlaunched record.core) :
    Riskless (recoverDispatch record input adapter) ↔ fence record input = .ok () ∧
      (record.core.phase = .planned ∨ terminal record.core.phase = true) := by
  constructor
  · intro riskless
    have fenced := risks_fenced riskless
    refine ⟨fenced, ?_⟩
    by_contra moved
    rw [not_or] at moved
    exact risks_unique (dispatch_risky law unlaunched.unbound fenced moved.1 moved.2) riskless
  · rintro ⟨fenced, still⟩
    exact dispatch_riskless fenced still

theorem cancellation_riskless_iff (law : Hexadecimal Engine.sha256Hex)
    (unlaunched : Unlaunched record.core) :
    Riskless (recoverCancellation record input adapter) ↔ fence record input = .ok () ∧
      terminal record.core.phase = true := by
  constructor
  · intro riskless
    have fenced := risks_fenced riskless
    refine ⟨fenced, ?_⟩
    by_contra unsettled
    exact risks_unique (cancellation_risky law unlaunched fenced unsettled) riskless
  · rintro ⟨fenced, settled⟩
    exact cancellation_riskless fenced settled

/-- No provider is called for a record that was never launched. Its recovery shows no risk where
the record is planned or terminal, and its cancellation only where it is terminal. -/
theorem never_launched_recovery (law : Hexadecimal Engine.sha256Hex) {attempt : BoundAttemptV1}
    {start record : DispatchRecordV1} (created : createDispatchRecord attempt = .ok start)
    (reached : Relation.ReflTransGen Exported start record) (never : NeverLaunched record)
    (input : FenceInput) (adapter : ProviderAdapterV1) :
    ((outcome (recoverDispatch record input adapter) []).2 = [] ∧
        (outcome (recoverCancellation record input adapter) []).2 = []) ∧
      (Riskless (recoverDispatch record input adapter) ↔ fence record input = .ok () ∧
        (record.core.phase = .planned ∨ terminal record.core.phase = true)) ∧
      (Riskless (recoverCancellation record input adapter) ↔ fence record input = .ok () ∧
        terminal record.core.phase = true) := by
  have unlaunched := reached_accounted created reached never
  exact ⟨⟨dispatch_calls law unlaunched, cancellation_calls law unlaunched⟩,
    dispatch_riskless_iff law unlaunched, cancellation_riskless_iff law unlaunched⟩

end Recoveries

section Recorded

attribute [local instance] leaseEngine

theorem lease_hexadecimal : Hexadecimal leaseEngine.sha256Hex := short_hexadecimal

def plannedRecord : Except DispatchError (FenceInput × DispatchRecordV1) := do
  let (input, _) ← launchedRecord
  let planned ← createDispatchRecord input.attempt
  return (input, planned)

instance planned_fenced : Fact (endsIn (fun made => decide (fence made.2 made.1 = .ok ())) plannedRecord = true) :=
  ⟨by decide +kernel⟩

theorem planned_made : ∃ (input : FenceInput) (planned : DispatchRecordV1),
    createDispatchRecord input.attempt = .ok planned ∧ NeverLaunched planned ∧
      planned.core.phase = .planned ∧ fence planned input = .ok () := by
  rcases ends_in_exists planned_fenced.out with ⟨⟨input, planned⟩, made, fenced⟩
  simp only [plannedRecord, bind_ok_iff, pure_ok_iff, Prod.mk.injEq] at made
  rcases made with ⟨⟨_, _⟩, _, _, created, rfl, rfl⟩
  have core := created
  simp only [createDispatchRecord, bind_ok_iff, seal_record_ok_iff] at core
  rcases core with ⟨_, _, core⟩
  refine ⟨_, _, created, ?_, by rw [core], of_decide_eq_true fenced⟩
  rw [NeverLaunched, core]
  exact fun _ member => by cases member

/-- The cancellation of a planned record is recovered as if the attempt might be running. -/
theorem planned_cancellation_risk : ¬ ∀ (attempt : BoundAttemptV1) (start record : DispatchRecordV1)
    (input : FenceInput) (adapter : ProviderAdapterV1),
    createDispatchRecord attempt = .ok start → Relation.ReflTransGen Exported start record →
      NeverLaunched record → fence record input = .ok () →
        Riskless (recoverDispatch record input adapter) ∧
          Riskless (recoverCancellation record input adapter) := by
  intro claim
  rcases planned_made with ⟨input, planned, created, never, phase, fenced⟩
  have riskless := (claim _ _ _ input (sampleAdapter .notFound) created .refl never fenced).2
  have unlaunched := created_unlaunched created
  have settled := ((cancellation_riskless_iff lease_hexadecimal unlaunched).mp riskless).2
  rw [phase] at settled
  cases settled

/-- The planned record itself is recovered without a risk. -/
theorem planned_recovery_riskless : ∃ (input : FenceInput) (planned : DispatchRecordV1),
    planned.core.phase = .planned ∧
      Riskless (recoverDispatch planned input (sampleAdapter .notFound)) := by
  rcases planned_made with ⟨input, planned, created, never, phase, fenced⟩
  have recovery := never_launched_recovery lease_hexadecimal created .refl never input
    (sampleAdapter .notFound)
  exact ⟨input, planned, phase, recovery.2.1.mpr ⟨fenced, .inl phase⟩⟩

end Recorded

end Horseness.UnlaunchedRecovery
