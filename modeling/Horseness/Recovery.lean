import Horseness.DispatchRecords

/-!
Recovery of a dispatch record after a restart. A thrown look-up or cancellation is caught, so
a recovery answers with a record and with what it found out about the provider.
-/

namespace Horseness.Recovery

open FallibleRuns ScriptText JsonValues ScriptEngine Canonical PlainObjects Tasks AttemptReceipts
  SealedValues BoundAttempts LeaseFences ReceiptProjection DispatchRecords Turns RecordedRuns

inductive RecoveryClassificationV1 where
  | noAction
  | reattach
  | adopt
  | relaunchIdempotent
  | unknownOutcome
  | duplicateRiskRequired
  | cancelHandedOff
  | cancelReconcile
  | terminalAuditOnly
  deriving DecidableEq

inductive RecoveryLookupOutcomeV1 where
  | notNeeded
  | found
  | notFound
  | unsupported
  | unknown
  deriving DecidableEq

def RecoveryClassificationV1.text : RecoveryClassificationV1 → JsString
  | .noAction => js "NO_ACTION"
  | .reattach => js "REATTACH"
  | .adopt => js "ADOPT"
  | .relaunchIdempotent => js "RELAUNCH_IDEMPOTENT"
  | .unknownOutcome => js "UNKNOWN_OUTCOME"
  | .duplicateRiskRequired => js "DUPLICATE_RISK_REQUIRED"
  | .cancelHandedOff => js "CANCEL_HANDED_OFF"
  | .cancelReconcile => js "CANCEL_RECONCILE"
  | .terminalAuditOnly => js "TERMINAL_AUDIT_ONLY"

def RecoveryLookupOutcomeV1.text : RecoveryLookupOutcomeV1 → JsString
  | .notNeeded => js "not_needed"
  | .found => js "found"
  | .notFound => js "not_found"
  | .unsupported => js "unsupported"
  | .unknown => js "unknown"

structure RecoveryActionCoreV1 where
  attemptId : JsString
  generation : Nat
  bindingDigest : JsString
  fenceToken : Nat
  lookupOutcome : RecoveryLookupOutcomeV1
  classification : RecoveryClassificationV1
  operationId : Option JsString
  providerHandle : Option JsString
  cancellationRequested : Bool
  duplicateRisk : Bool
  deriving DecidableEq

def RecoveryActionCoreV1.toJson (core : RecoveryActionCoreV1) : JsValue :=
  object [("schemaVersion", .str (js "1")), ("attemptId", .str core.attemptId),
    ("generation", natural core.generation), ("bindingDigest", .str core.bindingDigest),
    ("fenceToken", natural core.fenceToken), ("lookupOutcome", .str core.lookupOutcome.text),
    ("classification", .str core.classification.text),
    ("operationId", nullable .str core.operationId),
    ("providerHandle", nullable .str core.providerHandle),
    ("cancellationRequested", .bool core.cancellationRequested),
    ("duplicateRisk", .bool core.duplicateRisk)]

section Recoveries

variable [Engine]

abbrev RecoveryActionV1 := Sealed (js "horseness.recovery-action.v1") RecoveryActionCoreV1.toJson

structure RecoveryResultV1 where
  record : DispatchRecordV1
  action : RecoveryActionV1

def recoveryResult (record : DispatchRecordV1) (lease : LeaseFenceV1)
    (lookupOutcome : RecoveryLookupOutcomeV1) (classification : RecoveryClassificationV1)
    (duplicateRisk : Bool) : Except DispatchError RecoveryResultV1 := do
  let action ← (sealCore _ _
    { attemptId := record.core.attemptId
      generation := record.core.generation
      bindingDigest := record.core.bindingDigest
      fenceToken := lease.core.fenceToken
      lookupOutcome := lookupOutcome
      classification := classification
      operationId := record.core.operationId
      providerHandle := record.core.providerHandle
      cancellationRequested := record.core.cancellationRequested
      duplicateRisk := duplicateRisk }).mapError DispatchError.domain
  return ⟨record, action⟩

/-- A cancellation that was requested is handed to the provider, and what is thrown is caught. -/
def recoverHandoff (record : DispatchRecordV1) (lease : LeaseFenceV1) (adapter : ProviderAdapterV1) :
    Dispatching RecoveryResultV1 := do
  match ← observed (handoffCancellation record adapter) with
  | .ok handed =>
      let classification := if handed.core.phase = .cancelHandedOff then
        RecoveryClassificationV1.cancelHandedOff else .cancelReconcile
      tryCatch (check (recoveryResult handed lease .notNeeded classification false))
        fun _ => check (recoveryResult handed lease .unknown .cancelReconcile true)
  | .error _ => check (recoveryResult record lease .unknown .cancelReconcile true)

def classifyLookup (prior record : DispatchRecordV1) (lease : LeaseFenceV1) :
    Except DispatchError RecoveryResultV1 :=
  let last := record.core.events.getLast?.map DispatchEventV1.eventType
  if truthy record.core.providerHandle then
    recoveryResult record lease .found
      (if prior.core.providerHandle = record.core.providerHandle then .reattach else .adopt) false
  else if last = some .dispatchLookupNotFoundV1 then
    recoveryResult record lease .notFound .relaunchIdempotent false
  else if last = some .dispatchLookupUnsupportedV1 then
    recoveryResult record lease .unsupported .duplicateRiskRequired true
  else if record.core.phase = .unknownOutcome ∨ truthy prior.core.operationId = true then
    recoveryResult record lease .notFound .duplicateRiskRequired true
  else recoveryResult record lease .unknown .unknownOutcome true

def recoverDispatch (record : DispatchRecordV1) (input : FenceInput) (adapter : ProviderAdapterV1) :
    Dispatching RecoveryResultV1 := do
  check (fence record input)
  if terminal record.core.phase then
    check (recoveryResult record input.lease .notNeeded .terminalAuditOnly false)
  else if record.core.phase = .planned then
    check (recoveryResult record input.lease .notNeeded
      (if record.core.cancellationRequested then .cancelReconcile else .noAction) false)
  else if record.core.phase = .unknownOutcome then
    check (recoveryResult record input.lease .notNeeded .duplicateRiskRequired true)
  else if record.core.cancellationRequested then recoverHandoff record input.lease adapter
  else
    match ← observed (lookupDispatch record adapter) with
    | .ok found => check (classifyLookup record found input.lease)
    | .error _ => do
        let failed ← check (recordLookupFailure record)
        check (recoveryResult failed input.lease .unknown .duplicateRiskRequired true)

def recoverCancellation (record : DispatchRecordV1) (input : FenceInput)
    (adapter : ProviderAdapterV1) : Dispatching RecoveryResultV1 := do
  check (fence record input)
  let cancelled ← check (requestDispatchCancellation record)
  recoverDispatch cancelled input adapter

end Recoveries

section Effects

variable [Engine] {record : DispatchRecordV1} {lease : LeaseFenceV1}

def lastEvent (record : DispatchRecordV1) : Option DispatchEventTypeV1 :=
  record.core.events.getLast?.map DispatchEventV1.eventType

theorem evolved_last {after : DispatchRecordV1} {changed : DispatchRecordCoreV1}
    {eventType : DispatchEventTypeV1} (evolved : Evolved record changed eventType after) :
    lastEvent after = some eventType := by
  rcases evolved.core with ⟨digest, core⟩
  rw [lastEvent, core, List.getLast?_concat, Option.map_some]

/-- What a look-up that is answered leaves behind: nothing is known when it says not found. -/
def Looked (record found : DispatchRecordV1) : Prop :=
  truthy found.core.providerHandle = true ∨
    lastEvent found = some .dispatchReconciliationRequiredV1 ∨
    lastEvent found = some .dispatchLookupUnsupportedV1 ∨
    (truthy record.core.operationId = false ∧ truthy record.core.providerHandle = false)

theorem handle_known {operationId handle : JsString} {after : DispatchRecordV1}
    (done : recordProviderHandle record operationId handle = .ok after) :
    truthy after.core.providerHandle = true := by
  simp only [recordProviderHandle, bind_ok_iff, ensure_ok_iff] at done
  rcases done with ⟨_, named, _, _, done⟩
  have filled : truthy (some handle) = true :=
    truthy_of_known (Option.some_ne_none _) fun empty => named.2 (Option.some.inj empty)
  split at done
  · next same =>
      rw [← Except.ok.inj done, same]
      exact filled
  · simp only [bind_ok_iff, ensure_ok_iff] at done
    rcases done with ⟨_, _, evolved⟩
    rcases (evolve_ok evolved).core with ⟨digest, core⟩
    rw [core]
    exact filled

theorem lookup_looked (adapter : ProviderAdapterV1) :
    Keeps (Noted (Asked record.core)) (fun _ => True) (lookupDispatch record adapter)
      (fun found _ => Looked record found) := by
  unfold lookupDispatch
  refine keeps_checked fun bound read => keeps_checked fun _ _ => ?_
  refine keeps_called ⟨adapter_for_ok read, rfl⟩ fun result _ => ?_
  cases result with
  | found operationId handle => exact keeps_check fun _ found _ done => .inl (handle_known done)
  | notFound =>
      dsimp only
      split
      · exact keeps_check fun _ found _ done => .inr (.inl (evolved_last (evolve_ok done)))
      · next unknown =>
          rw [Bool.or_eq_true, not_or, Bool.not_eq_true, Bool.not_eq_true] at unknown
          exact keeps_check fun _ found _ _ => .inr (.inr (.inr unknown))
  | unsupported =>
      exact keeps_check fun _ found _ done => .inr (.inr (.inl (evolved_last (evolve_ok done))))

/-- A recovery answers with the record, and never offers a launch of what is known. -/
structure Recovers (record : DispatchRecordV1) (result : RecoveryResultV1) : Prop where
  reach : Reach record result.record
  relaunch : result.action.core.classification = .relaunchIdempotent →
    truthy record.core.operationId = false ∧ truthy record.core.providerHandle = false

theorem result_ok {answered : RecoveryResultV1} {lookupOutcome : RecoveryLookupOutcomeV1}
    {classification : RecoveryClassificationV1} {duplicateRisk : Bool}
    (done : recoveryResult record lease lookupOutcome classification duplicateRisk = .ok answered) :
    answered.record = record ∧ answered.action.core.classification = classification := by
  simp only [recoveryResult, bind_ok_iff, map_error_ok_iff, seal_ok_iff, pure_ok_iff] at done
  rcases done with ⟨action, core, rfl⟩
  exact ⟨rfl, by rw [core]⟩

-- The action of a record that was reached without a launch being offered.
theorem result_keeps {allowed : ProviderCall → Prop} {reached : DispatchRecordV1}
    {lookupOutcome : RecoveryLookupOutcomeV1} {classification : RecoveryClassificationV1}
    {duplicateRisk : Bool} (reach : Reach record reached)
    (other : classification ≠ .relaunchIdempotent) :
    Keeps (Noted allowed) (fun _ => True)
      (check (recoveryResult reached lease lookupOutcome classification duplicateRisk) :
        Dispatching RecoveryResultV1) (fun result _ => Recovers record result) := by
  refine keeps_check fun _ result _ done => ?_
  rcases result_ok done with ⟨same, code⟩
  exact ⟨same ▸ reach, fun offered => absurd (code.symm.trans offered) other⟩

theorem classify_recovers {prior found : DispatchRecordV1} {result : RecoveryResultV1}
    (reach : Reach prior found) (looked : Looked prior found)
    (done : classifyLookup prior found lease = .ok result) : Recovers prior result := by
  unfold classifyLookup at done
  dsimp only at done
  have plain {lookupOutcome : RecoveryLookupOutcomeV1} {classification : RecoveryClassificationV1}
      {duplicateRisk : Bool} (other : classification ≠ .relaunchIdempotent)
      (done : recoveryResult found lease lookupOutcome classification duplicateRisk = .ok result) :
      Recovers prior result := by
    rcases result_ok done with ⟨same, code⟩
    exact ⟨same ▸ reach, fun offered => absurd (code.symm.trans offered) other⟩
  split at done
  · refine plain ?_ done
    intro offered
    split at offered
    · cases offered
    · cases offered
  · next unhandled =>
      split at done
      · next last =>
          rcases result_ok done with ⟨same, code⟩
          refine ⟨same ▸ reach, fun _ => ?_⟩
          -- of what a look-up leaves, only that of an unknown operation ends so
          rcases looked with handled | reconcile | unsupported | unknown
          · exact absurd handled unhandled
          · cases reconcile.symm.trans last
          · cases unsupported.symm.trans last
          · exact unknown
      · split at done
        · exact plain (by decide) done
        · split at done
          · exact plain (by decide) done
          · exact plain (by decide) done

omit [Engine] in
theorem keeps_given {Result : Type} {allowed : ProviderCall → Prop} {known : Prop}
    {turn : Dispatching Result} {after : Result → List ProviderCall → Prop}
    (kept : known → Keeps (Noted allowed) (fun _ => True) turn after) :
    Keeps (Noted allowed) (fun _ => known) turn after := fun state given => kept given state trivial

omit [Engine] in
theorem keeps_observed {Result : Type} {allowed : ProviderCall → Prop} {turn : Dispatching Result}
    {answers : Result → Prop}
    (kept : Keeps (Noted allowed) (fun _ => True) turn (fun result _ => answers result)) :
    Keeps (Noted allowed) (fun _ => True) (observed turn)
      (fun answer _ => ∀ result, answer = .ok result → answers result) := by
  intro state given
  have both := kept state given
  rw [outcome_observed]
  refine ⟨both.1, ?_⟩
  rintro _ ⟨⟩ result answered
  exact both.2 result answered

theorem handoff_recovers (adapter : ProviderAdapterV1) :
    Keeps (Noted (Asked record.core)) (fun _ => True) (recoverHandoff record lease adapter)
      (fun result _ => Recovers record result) := by
  refine keeps_bind (keeps_observed (handoff_keeps adapter)) fun answer => keeps_given fun reach => ?_
  cases answer with
  | error failure => exact result_keeps .refl (by decide)
  | ok handed =>
      have reach := reach handed rfl
      have stopped : ∀ state : List ProviderCall, True → True := fun _ _ => trivial
      refine keeps_catch (result_keeps reach ?_) stopped fun _ => result_keeps reach (by decide)
      split
      · exact (by decide)
      · exact (by decide)

theorem dispatch_recovers (input : FenceInput) (adapter : ProviderAdapterV1) :
    Keeps (Noted (Asked record.core)) (fun _ => True) (recoverDispatch record input adapter)
      (fun result _ => Recovers record result) := by
  unfold recoverDispatch
  refine keeps_checked fun _ _ => ?_
  split
  · exact result_keeps .refl (by decide)
  split
  · refine result_keeps .refl ?_
    split
    · exact (by decide)
    · exact (by decide)
  split
  · exact result_keeps .refl (by decide)
  split
  · exact handoff_recovers adapter
  · have looked : Keeps (Noted (Asked record.core)) (fun _ => True) (lookupDispatch record adapter)
        (fun found _ => Reach record found ∧ Looked record found) := fun state given =>
      ⟨(lookup_keeps adapter state given).1, fun found answered =>
        ⟨(lookup_keeps adapter state given).2 found answered,
          (lookup_looked adapter state given).2 found answered⟩⟩
    refine keeps_bind (keeps_observed looked) fun answer => keeps_given fun given => ?_
    cases answer with
    | ok found =>
        have both := given found rfl
        exact keeps_check fun _ result _ done => classify_recovers both.1 both.2 done
    | error failure =>
        refine keeps_checked fun failed done => ?_
        exact result_keeps (effects_reach (lookup_failure_effect done)) (by decide)

-- Requesting cancellation leaves what is known of the provider as it is.
theorem cancellation_known {cancelled : DispatchRecordV1}
    (done : requestDispatchCancellation record = .ok cancelled) :
    cancelled.core.idempotencyKey = record.core.idempotencyKey ∧
      cancelled.core.operationId = record.core.operationId ∧
      cancelled.core.providerHandle = record.core.providerHandle := by
  unfold requestDispatchCancellation at done
  split at done
  · rw [Except.ok.inj done]
    exact ⟨rfl, rfl, rfl⟩
  · rcases (evolve_ok done).core with ⟨digest, core⟩
    rw [core]
    exact ⟨rfl, rfl, rfl⟩

theorem cancellation_recovers (input : FenceInput) (adapter : ProviderAdapterV1) :
    Keeps (Noted (Asked record.core)) (fun _ => True) (recoverCancellation record input adapter)
      (fun result _ => Recovers record result) := by
  unfold recoverCancellation
  refine keeps_checked fun _ _ => keeps_checked fun cancelled done => ?_
  rcases cancellation_known done with ⟨key, operation, handle⟩
  intro state given
  have kept := @dispatch_recovers _ cancelled input adapter state given
  refine ⟨noted_mono (fun call asked => ⟨key ▸ asked.1, asked.2⟩) kept.1, fun result answered => ?_⟩
  have recovers := kept.2 result answered
  refine ⟨(effects_reach (cancellation_effect done)).trans recovers.reach, fun offered => ?_⟩
  rw [← operation, ← handle]
  exact recovers.relaunch offered

end Effects

section Lineages

variable [Engine]

inductive LineageCall where
  | operate (call : DispatchCall)
  | recoverDispatch (input : FenceInput) (adapter : ProviderAdapterV1)
  | recoverCancellation (input : FenceInput) (adapter : ProviderAdapterV1)

/-- What a call answers: the record, and the action of a recovery. -/
structure LineageAnswer where
  record : DispatchRecordV1
  action : Option RecoveryActionV1

def LineageCall.perform (record : DispatchRecordV1) : LineageCall → Dispatching LineageAnswer
  | .operate call => do
      let after ← call.perform record
      return ⟨after, none⟩
  | .recoverDispatch input adapter => do
      let result ← Recovery.recoverDispatch record input adapter
      return ⟨result.record, some result.action⟩
  | .recoverCancellation input adapter => do
      let result ← Recovery.recoverCancellation record input adapter
      return ⟨result.record, some result.action⟩

def LineageCall.after (call : LineageCall) (record : DispatchRecordV1) : DispatchRecordV1 :=
  (finalOf ⟨record, none⟩ (outcome (call.perform record) []).1).record

def LineageCall.calls (call : LineageCall) (record : DispatchRecordV1) : List ProviderCall :=
  (outcome (call.perform record) []).2

def Relaunches (record : DispatchRecordV1) (call : LineageCall) : Prop :=
  ∃ answer action, (outcome (call.perform record) []).1 = .ok answer ∧ answer.action = some action ∧
    action.core.classification = .relaunchIdempotent

def LineageStep (record : DispatchRecordV1) (labels : List (DispatchRecordV1 × LineageCall))
    (after : DispatchRecordV1) : Prop :=
  ∃ call, labels = [(record, call)] ∧ after = call.after record

def Filled : LineageCall → Prop
  | .operate (.recordAuthenticatedTerminalReceipt _ authority) => authority.providerHandle ≠ some []
  | _ => True

/-- What holds of a call that was made on the way to a record. -/
structure Kept (record : DispatchRecordV1) (before : DispatchRecordV1) (call : LineageCall) :
    Prop where
  lineage : Lineage before.core record.core
  step : Lineage before.core (call.after before).core
  /-- Every provider call is under the one key of the record. -/
  key : ∀ provider ∈ call.calls before, record.core.idempotencyKey = some provider.idempotencyKey
  launch : ∀ provider ∈ call.calls before, provider.isDispatch = true →
    before.core.cancellationRequested = false ∧ before.core.operationId = none
  relaunch : Relaunches before call →
    before.core.operationId = none ∧ before.core.providerHandle = none

variable {record : DispatchRecordV1} {call : LineageCall}

/-- What the answer to a call is. -/
structure Answers (record : DispatchRecordV1) (answer : LineageAnswer) : Prop where
  reach : Reach record answer.record
  relaunch : ∀ action, answer.action = some action →
    action.core.classification = .relaunchIdempotent →
      truthy record.core.operationId = false ∧ truthy record.core.providerHandle = false

theorem operate_keeps {call : DispatchCall} (sound : Sound record.core)
    (filled : Filled (.operate call)) : Keeps (Noted (Allowed record.core)) (fun _ => True)
      (call.perform record) (fun after _ => Reach record after) := by
  cases call with
  | commitLaunchIntent input providerId =>
      exact keeps_check fun _ after _ done => effects_reach (commit_effect done)
  | dispatchCommittedIntent input adapter => exact dispatch_keeps sound input adapter
  | recordProviderHandle operationId handle =>
      exact keeps_check fun _ after _ done => effects_reach (handle_effect done)
  | lookupDispatch adapter => exact asked_allowed (lookup_keeps adapter)
  | recordLookupFailure =>
      exact keeps_check fun _ after _ done => effects_reach (lookup_failure_effect done)
  | requestDispatchCancellation =>
      exact keeps_check fun _ after _ done => effects_reach (cancellation_effect done)
  | handoffCancellation adapter => exact asked_allowed (handoff_keeps adapter)
  | recordTerminalReceipt input =>
      refine keeps_check fun _ after _ done => ?_
      rcases receipt_effect done with rfl | ⟨next, first, last⟩
      · exact .refl
      · exact (effects_reach first).tail last
  | recordAuthenticatedTerminalReceipt event authority =>
      refine keeps_check fun _ after _ done => ?_
      rcases adopt_effect done with ⟨rfl, _⟩ | ⟨operationId, named, operation, handle, evolved⟩
      · exact .refl
      · exact .single (.adopted event.receipt.outcome operationId authority.providerHandle
          ⟨named, filled⟩ ⟨operation, handle⟩ evolved)

theorem recover_answers {turn : Dispatching RecoveryResultV1}
    (kept : Keeps (Noted (Asked record.core)) (fun _ => True) turn
      (fun result _ => Recovers record result)) :
    Keeps (Noted (Allowed record.core)) (fun _ => True)
      (do let result ← turn; return (⟨result.record, some result.action⟩ : LineageAnswer))
      (fun answer _ => Answers record answer) := by
  refine keeps_bind (asked_allowed kept) fun result => keeps_given fun recovers => ?_
  refine keeps_pure fun _ _ => ⟨recovers.reach, ?_⟩
  rintro _ ⟨⟩ offered
  exact recovers.relaunch offered

theorem call_answers (sound : Sound record.core) (filled : Filled call) :
    Keeps (Noted (Allowed record.core)) (fun _ => True) (call.perform record)
      (fun answer _ => Answers record answer) := by
  cases call with
  | operate call =>
      refine keeps_bind (operate_keeps sound filled) fun after => keeps_given fun reach => ?_
      exact keeps_pure fun _ _ => ⟨reach, fun _ offered => nomatch offered⟩
  | recoverDispatch input adapter => exact recover_answers (dispatch_recovers input adapter)
  | recoverCancellation input adapter => exact recover_answers (cancellation_recovers input adapter)

theorem call_kept (sound : Sound record.core) (filled : Filled call) :
    Sound (call.after record).core ∧ Kept (call.after record) record call := by
  rcases call_answers sound filled [] trivial with ⟨⟨added, noted, each⟩, answers⟩
  have reached : Reach record (call.after record) := by
    unfold LineageCall.after
    cases shape : (outcome (call.perform record) []).1 with
    | error failure => exact .refl
    | ok answer => exact (answers answer shape).reach
  have allowed : ∀ provider ∈ call.calls record, Allowed record.core provider := by
    rw [LineageCall.calls, noted, List.nil_append]
    exact each
  rcases reach_sound sound reached with ⟨later, lineage⟩
  refine ⟨later, lineage, lineage, fun provider member => ?_, fun provider member =>
    (allowed provider member).2, ?_⟩
  · exact lineage_key lineage (allowed provider member).1
  · rintro ⟨answer, action, answered, given, offered⟩
    have unknown := (answers answer answered).relaunch action given offered
    have operation := unknown_operation sound unknown.1
    refine ⟨operation, ?_⟩
    by_contra handle
    exact sound.known handle operation

theorem created_sound {attempt : BoundAttemptV1} (created : createDispatchRecord attempt = .ok record) :
    Sound record.core := by
  simp only [createDispatchRecord, bind_ok_iff, seal_record_ok_iff] at created
  rcases created with ⟨_, _, core⟩
  rw [core]
  constructor <;> simp

variable {start : DispatchRecordV1} {labels : List (DispatchRecordV1 × LineageCall)}

/-- Every record that calls lead to is sound, and is of the lineage of all before it. -/
theorem lineage_kept {attempt : BoundAttemptV1} (created : createDispatchRecord attempt = .ok start)
    (run : Runs LineageStep start labels record) (filled : ∀ taken ∈ labels, Filled taken.2) :
    Sound record.core ∧ Lineage start.core record.core ∧
      ∀ taken ∈ labels, Kept record taken.1 taken.2 := by
  induction run with
  | start => exact ⟨created_sound created, lineage_refl _, fun _ member => nomatch member⟩
  | step before moved ih =>
      rcases moved with ⟨call, rfl, rfl⟩
      rw [List.forall_mem_append] at filled
      rcases ih filled.1 with ⟨sound, lineage, earlier⟩
      rcases call_kept sound (filled.2 _ (List.mem_singleton_self _)) with ⟨later, kept⟩
      refine ⟨later, lineage_trans lineage kept.lineage, fun taken member => ?_⟩
      rcases List.mem_append.mp member with front | last
      · have held := earlier taken front
        exact ⟨lineage_trans held.lineage kept.lineage, held.step,
          fun provider asked => lineage_key kept.lineage (held.key provider asked), held.launch,
          held.relaunch⟩
      · rw [List.mem_singleton.mp last]
        exact kept

end Lineages

section Recorded

attribute [local instance] leaseEngine

/-- A receipt of the sample attempt, and the authority it was issued with: the authority's
handle is the empty text. -/
def sampleReceiptCore (record : DispatchRecordV1) : AttemptReceiptCoreV1 :=
  { workspaceId := js "w"
    runId := js "r"
    taskId := js "t"
    attemptId := record.core.attemptId
    generation := record.core.generation
    attemptContextBindingDigest := record.core.bindingDigest
    contextManifestCoreDigest := js "m"
    forkPinDigest := js "f"
    providerId := js "p"
    providerOperationId := js "o"
    providerIdempotencyKeyDigest := record.core.idempotencyKey.getD []
    producerPrincipalId := js "u"
    producerGrantDigest := js "g"
    adapterId := js "codex"
    adapterVersion := js "1"
    hostId := js "h"
    hostVersion := js "1"
    outcome := .failed
    startedAt := startOfYear
    finishedAt := secondLater
    outputDigest := none
    evidence := []
    provenance := object []
    nonce := js "n" }

def sampleAuthority (record : DispatchRecordV1) (handle : Option JsString) :
    VerifiedAttemptAuthorityV1 :=
  { binding :=
      { attemptId := record.core.attemptId
        generation := record.core.generation
        digest := record.core.bindingDigest
        contextManifestCoreDigest := js "m"
        forkPinDigest := js "f"
        providerId := js "p"
        providerOperationId := js "o"
        providerIdempotencyKeyDigest := record.core.idempotencyKey.getD []
        allowedProducerPrincipalId := js "u"
        allowedProducerGrantDigest := js "g" }
    providerHandle := handle
    grant := ⟨js "u", js "g", false⟩
    dispatch := ⟨record.core.attemptId, record.core.generation, js "p", js "o",
      record.core.idempotencyKey.getD [], handle⟩
    issued := ⟨rfl, rfl, rfl, rfl⟩ }

def sampleEvent (record : DispatchRecordV1) : Except DomainError VerifiedReceiptEventV1 := do
  let receipt ← sealAttemptReceipt (sampleReceiptCore record)
  if verified : verifyAttemptReceipt receipt = .ok () then
    return ⟨1, js "e", js "u", receipt, le_refl 1, verified⟩
  else throw .receiptMismatch

def receivedRecord : Except DispatchError (FenceInput × DispatchRecordV1 × VerifiedReceiptEventV1) := do
  let (input, record) ← launchedRecord
  let event ← (sampleEvent record).mapError DispatchError.domain
  let planned ← createDispatchRecord input.attempt
  return (input, planned, event)

def launch (input : FenceInput) : LineageCall := .operate (.commitLaunchIntent input (js "p"))

def adoption (event : VerifiedReceiptEventV1) (record : DispatchRecordV1) (handle : Option JsString) :
    LineageCall :=
  .operate (.recordAuthenticatedTerminalReceipt event (sampleAuthority record handle))

def lateHandle : LineageCall := .operate (.recordProviderHandle (js "o") (js "h"))

def handleReplaced (input : FenceInput) (planned : DispatchRecordV1)
    (event : VerifiedReceiptEventV1) : Bool :=
  let launched := (launch input).after planned
  let adopted := (adoption event launched (some [])).after launched
  adopted.core.providerHandle == some [] &&
    (lateHandle.after adopted).core.providerHandle == some (js "h")

instance received_replaced : Fact (endsIn (fun made => handleReplaced made.1 made.2.1 made.2.2) receivedRecord = true) :=
  ⟨by decide +kernel⟩

theorem received_created {input : FenceInput} {planned : DispatchRecordV1}
    {event : VerifiedReceiptEventV1} (made : receivedRecord = .ok (input, planned, event)) :
    createDispatchRecord input.attempt = .ok planned := by
  simp only [receivedRecord, bind_ok_iff, pure_ok_iff, Prod.mk.injEq] at made
  rcases made with ⟨⟨given, record⟩, _, _, _, first, created, rfl, rfl, _⟩
  exact created

theorem lineage_step (record : DispatchRecordV1) (call : LineageCall) :
    LineageStep record [(record, call)] (call.after record) := ⟨call, rfl, rfl⟩

/-- An empty handle that a receipt has brought is replaced by a later one. -/
theorem empty_handle_replaced : ¬ ∀ (attempt : BoundAttemptV1) (start record : DispatchRecordV1)
    (labels : List (DispatchRecordV1 × LineageCall)), createDispatchRecord attempt = .ok start →
      Runs LineageStep start labels record → ∀ taken ∈ labels,
        taken.1.core.providerHandle ≠ none →
          (taken.2.after taken.1).core.providerHandle = taken.1.core.providerHandle := by
  intro claim
  rcases ends_in_exists received_replaced.out with ⟨⟨input, planned, event⟩, made, replaced⟩
  simp only [handleReplaced, Bool.and_eq_true, beq_iff_eq] at replaced
  let launched := (launch input).after planned
  have run := ((Runs.start.step (lineage_step planned (launch input))).step
    (lineage_step launched (adoption event launched (some [])))).step (lineage_step _ lateHandle)
  have kept := claim _ _ _ _ (received_created made) run _
    (List.mem_append_right _ (List.mem_singleton_self _))
  have known : ((adoption event launched (some [])).after launched).core.providerHandle ≠ none := by
    rw [replaced.1]
    exact Option.some_ne_none _
  have same := kept known
  rw [replaced.2, replaced.1] at same
  cases same

/-- The record of a launch is of the lineage of the planned one. -/
theorem launched_lineage : ∃ (input : FenceInput) (planned : DispatchRecordV1),
    createDispatchRecord input.attempt = .ok planned ∧
      Sound ((launch input).after planned).core := by
  rcases ends_in_exists received_replaced.out with ⟨⟨input, planned, event⟩, made, _⟩
  have run := Runs.start.step (lineage_step planned (launch input))
  refine ⟨input, planned, received_created made,
    (lineage_kept (received_created made) run fun taken member => ?_).1⟩
  rw [List.mem_singleton.mp member]
  exact trivial

end Recorded

end Horseness.Recovery
