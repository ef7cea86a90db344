import Horseness.AppendLog

/-!
The stored dispatch authority of an attempt: its JSON state with the digests and the fence
read out of it, replaced by compare-and-swap at exact stream heads.
-/

namespace Horseness.DispatchAuthority

open FallibleRuns Records ScriptText JsonValues JsonText JsonRoundTrip ScriptEngine Canonical
  Cursors EventPayloads EventChains RecordedRuns Turns AuthorityLog AppendLog

section Requests

structure DispatchAuthorityStateV1 where
  attempt : JsValue
  lease : JsValue
  dispatch : JsValue

def DispatchAuthorityStateV1.toJson (state : DispatchAuthorityStateV1) : JsValue :=
  object [("attempt", state.attempt), ("lease", state.lease), ("dispatch", state.dispatch)]

structure PersistDispatchAuthorityRequestV1 where
  workspaceId : JsString
  runId : JsString
  attemptId : JsString
  generation : Nat
  authorityCursor : CompositeCursorV1
  state : DispatchAuthorityStateV1
  expectedAttemptDigest : Option JsString
  expectedLeaseDigest : Option JsString
  expectedDispatchDigest : Option JsString
  commandId : JsString

def PersistDispatchAuthorityRequestV1.key (request : PersistDispatchAuthorityRequestV1) :
    DispatchKey := ⟨request.workspaceId, request.runId, request.attemptId, request.generation⟩

/-- `value?.name`, or nothing where it is undefined. -/
def property (name : String) : JsValue → Option JsValue
  | .obj _ fields => findEntry (js name) fields
  | _ => none

def textOf : Option JsValue → Option JsString
  | some (.str text) => some text
  | _ => none

def numberOf : Option JsValue → Option JsNumber
  | some (.num value) => some value
  | _ => none

/-- `value ?? null`, where it is a string or null. -/
def nullableText : Option JsValue → Option (Option JsString)
  | none | some .null => some none
  | some (.str text) => some (some text)
  | some _ => none

/-- `value ?? 0`, where it is a natural number. -/
def fenceOf : Option JsValue → Option Nat
  | none | some .null | some (.num .negativeZero) => some 0
  | some (.num (.finite value)) =>
      if value.den = 1 ∧ 0 ≤ value.num ∧ value.num ≤ maxSafeInteger then some value.num.toNat
      else none
  | some _ => none

def isNull : JsValue → Bool
  | .null => true
  | _ => false

/-- `===` of numbers: the zeros are equal, and no number is NaN. -/
def sameNumber : JsNumber → JsNumber → Bool
  | .finite left, .finite right => left = right
  | .finite value, .negativeZero | .negativeZero, .finite value => value = 0
  | .negativeZero, .negativeZero => true
  | .infinite left, .infinite right => left = right
  | _, _ => false

def strictEqual : Option JsValue → Option JsValue → Bool
  | none, none | some .null, some .null => true
  | some (.bool left), some (.bool right) => left = right
  | some (.str left), some (.str right) => left = right
  | some (.num left), some (.num right) => sameNumber left right
  | _, _ => false

structure DispatchFacts where
  attemptDigest : JsString
  leaseDigest : Option JsString
  dispatchDigest : JsString
  fence : Nat
  deriving DecidableEq

def invalidDispatchState : StoreError := .integrity (js "invalid dispatch authority state")

def namesAttempt (request : PersistDispatchAuthorityRequestV1) (value : JsValue) : Prop :=
  textOf (property "attemptId" value) = some request.attemptId ∧
    numberOf (property "generation" value) = some (.finite request.generation)

instance (request : PersistDispatchAuthorityRequestV1) (value : JsValue) :
    Decidable (namesAttempt request value) := inferInstanceAs (Decidable (_ ∧ _))

def leaseIdentity : List String :=
  ["leaseId", "ownerId", "bootId", "processId", "fenceToken", "bindingDigest"]

structure DispatchAnswer where
  deduplicated : Bool
  fenceCounter : Nat
  deriving DecidableEq

end Requests

section Persisting

variable [Engine]

def storedLease (row : DispatchRow) : JsValue :=
  ((parse row.stateJson).bind (property "lease")).getD .null

def dispatchFacts (request : PersistDispatchAuthorityRequestV1) : Except StoreError DispatchFacts := do
  let state := request.state
  let attemptDigest ← required (textOf (property "attemptDigest" state.attempt)) invalidDispatchState
  let dispatchDigest ← required (textOf (property "recordDigest" state.dispatch)) invalidDispatchState
  let leaseDigest ← required (nullableText (property "leaseDigest" state.lease)) invalidDispatchState
  let fence ← required (fenceOf (property "fenceToken" state.lease)) invalidDispatchState
  ensure (namesAttempt request state.attempt ∧ namesAttempt request state.dispatch)
    invalidDispatchState
  if isNull state.lease = false then do
    ensure (namesAttempt request state.lease) invalidDispatchState
    let cursor ← required (property "authorityCursor" state.lease) (.domain .invalidJsonValue)
    let given ← (canonicalJson cursor).mapError StoreError.domain
    let expected ← (canonicalJson request.authorityCursor.toJson).mapError StoreError.domain
    ensure (given = expected) invalidDispatchState
  return ⟨attemptDigest, leaseDigest, dispatchDigest, fence⟩

/-- The checks before the transaction, with the text that is to be stored. -/
def validated (request : PersistDispatchAuthorityRequestV1) :
    Except StoreError (DispatchFacts × JsString) := do
  ensure (request.workspaceId ≠ [] ∧ request.runId ≠ [] ∧ request.attemptId ≠ [] ∧
    request.commandId ≠ [] ∧ request.generation ≤ maxSafeInteger ∧ 1 ≤ request.generation)
    (.integrity (js "invalid dispatch authority identity"))
  (parseObservationCursorV1 (.composite request.authorityCursor)).mapError fun _ =>
    .integrity (js "invalid dispatch authority cursor")
  ensure (request.authorityCursor.workspaceId = request.workspaceId ∧
    request.authorityCursor.runId = request.runId)
    (.integrity (js "dispatch authority cursor identity mismatch"))
  let facts ← dispatchFacts request
  let stateJson ← (canonicalJson request.state.toJson).mapError StoreError.domain
  return (facts, stateJson)

def headAt (state : Authority) (key : StreamKey) : Option (Nat × Option JsString) :=
  (state.streams.get key).map fun row => (row.headSequence, row.headHash)

def exactHeads (state : Authority) (cursor : CompositeCursorV1) (workspaceId runId : JsString) : Prop :=
  headAt state (.workspace workspaceId) =
      some (cursor.workspaceSequence, some cursor.workspaceEnvelopeHash) ∧
    headAt state (.run workspaceId runId) = some (cursor.runSequence, some cursor.runEnvelopeHash)

instance (state : Authority) (cursor : CompositeCursorV1) (workspaceId runId : JsString) :
    Decidable (exactHeads state cursor workspaceId runId) := inferInstanceAs (Decidable (_ ∧ _))

/-- What is asked of a new command, given the row that it replaces. -/
def replaces (request : PersistDispatchAuthorityRequestV1) (facts : DispatchFacts)
    (prior : Option DispatchRow) : Except StoreError Unit := do
  ensure (prior.map DispatchRow.attemptDigest = request.expectedAttemptDigest ∧
    prior.bind DispatchRow.leaseDigest = request.expectedLeaseDigest ∧
    prior.map DispatchRow.dispatchDigest = request.expectedDispatchDigest)
    (.conflict (js "dispatch authority compare-and-swap conflict"))
  prior.toList.forM fun row => do
    ensure (row.attemptDigest = facts.attemptDigest) (.conflict (js "bound attempt is immutable"))
    ensure (row.fenceCounter ≤ facts.fence) (.conflict (js "lease fence rollback"))
    ensure (facts.fence ≤ row.fenceCounter + 1) (.conflict (js "lease fence counter skipped"))
    ensure (facts.fence = row.fenceCounter → isNull (storedLease row) = false →
      isNull request.state.lease = false → ∀ name ∈ leaseIdentity,
        strictEqual (property name (storedLease row)) (property name request.state.lease) = true)
      (.conflict (js "lease identity substitution"))

def dispatchRow (request : PersistDispatchAuthorityRequestV1) (facts : DispatchFacts)
    (stateJson : JsString) : DispatchRow :=
  { runSequence := request.authorityCursor.runSequence
    runEnvelopeHash := request.authorityCursor.runEnvelopeHash
    workspaceSequence := request.authorityCursor.workspaceSequence
    workspaceEnvelopeHash := request.authorityCursor.workspaceEnvelopeHash
    attemptDigest := facts.attemptDigest
    leaseDigest := facts.leaseDigest
    dispatchDigest := facts.dispatchDigest
    fenceCounter := facts.fence
    stateJson := stateJson
    commandId := request.commandId }

def commandFree (state : Authority) (request : PersistDispatchAuthorityRequestV1) : Prop :=
  ∀ entry ∈ state.dispatches.entries, entry.1 ≠ request.key →
    entry.1.workspaceId = request.workspaceId → entry.1.runId = request.runId →
      entry.2.commandId ≠ request.commandId

instance (state : Authority) (request : PersistDispatchAuthorityRequestV1) :
    Decidable (commandFree state request) :=
  inferInstanceAs (Decidable (∀ entry ∈ state.dispatches.entries, _))

def upsertDispatch (state : Authority) (request : PersistDispatchAuthorityRequestV1)
    (facts : DispatchFacts) (stateJson : JsString) : Except StoreError Authority := do
  ensure (commandFree state request) .constraint
  let row := dispatchRow request facts stateJson
  let attemptDigest := ((state.dispatches.get request.key).map
    DispatchRow.attemptDigest).getD row.attemptDigest
  return { state with
    dispatches := state.dispatches.set request.key { row with attemptDigest := attemptDigest } }

def persistDispatchAuthorityAtomic (request : PersistDispatchAuthorityRequestV1) (state : Authority) :
    Except StoreError (DispatchAnswer × Authority) := do
  let (facts, stateJson) ← validated request
  ensure (exactHeads state request.authorityCursor request.workspaceId request.runId)
    (.conflict (js "dispatch authority exact head conflict"))
  let _ ← authenticatedRows state (.workspace request.workspaceId)
  let _ ← authenticatedRows state (.run request.workspaceId request.runId)
  let prior := state.dispatches.get request.key
  match prior.filter fun row => row.commandId = request.commandId with
  | some row => do
      ensure (row.stateJson = stateJson)
        (.conflict (js "dispatch authority command reused with different state"))
      return (⟨true, row.fenceCounter⟩, state)
  | none => do
      replaces request facts prior
      let after ← upsertDispatch state request facts stateJson
      return (⟨false, facts.fence⟩, after)

def serveDispatch (request : PersistDispatchAuthorityRequestV1) (state : Authority) :
    Except StoreError DispatchAnswer × Authority :=
  match persistDispatchAuthorityAtomic request state with
  | .ok (answer, after) => (.ok answer, after)
  | .error failure => (.error failure, state)

end Persisting

section Rows

variable [Engine] {request : PersistDispatchAuthorityRequestV1} {row old new : DispatchRow}
  {facts : DispatchFacts} {name : String} {value : JsValue}

omit [Engine] in
theorem property_normalize : property name (normalize value) = (property name value).map normalize := by
  cases value with
  | obj proto fields => exact find_normalized (js name) fields
  | num value => cases value <;> rfl
  | _ => rfl

omit [Engine] in
theorem same_number_meaning {left right : JsNumber} (same : sameNumber left right = true) :
    left.meaning = right.meaning := by
  cases left <;> cases right <;> simp_all [sameNumber, JsNumber.meaning]

omit [Engine] in
theorem strict_equal_normalize {left right : Option JsValue} (same : strictEqual left right = true) :
    left.map normalize = right.map normalize := by
  unfold strictEqual at same
  split at same
  · rfl
  · rfl
  · rw [of_decide_eq_true same]
  · rw [of_decide_eq_true same]
  · exact congrArg some (number_normalize_eq (same_number_meaning same))
  · cases same

/-- The row is that of a state whose digests and fence it has. -/
structure Stored (row : DispatchRow) (request : PersistDispatchAuthorityRequestV1)
    (facts : DispatchFacts) : Prop where
  read : dispatchFacts request = .ok facts
  text : canonicalJson request.state.toJson = .ok row.stateJson
  attemptDigest : row.attemptDigest = facts.attemptDigest
  leaseDigest : row.leaseDigest = facts.leaseDigest
  dispatchDigest : row.dispatchDigest = facts.dispatchDigest
  fence : row.fenceCounter = facts.fence

theorem stored_lease (stored : Stored row request facts) :
    storedLease row = normalize request.state.lease := by
  have text := ((canonical_ok_iff _ _).mp stored.text).2
  rw [storedLease, ← text, parse_serialize, Option.bind_some, property_normalize]
  rfl

theorem lease_of_fence (read : dispatchFacts request = .ok facts) (positive : 0 < facts.fence) :
    ∃ proto fields, request.state.lease = .obj proto fields := by
  simp only [dispatchFacts, bind_ok_iff, required_ok_iff] at read
  rcases read with ⟨_, _, _, _, _, _, fence, given, _, _, read⟩
  have same : facts.fence = fence := by
    split at read
    · simp only [bind_ok_iff, pure_ok_iff] at read
      rcases read with ⟨_, _, _, _, _, _, _, _, _, _, rfl⟩
      rfl
    · rw [pure_ok_iff] at read
      exact congrArg DispatchFacts.fence read.symm
  cases shape : request.state.lease with
  | obj proto fields => exact ⟨proto, fields, rfl⟩
  | _ =>
      rw [shape] at given
      simp only [property, fenceOf, Option.some.injEq] at given
      omega

/-- What a new command does to the row of its key. -/
inductive Replaces (request : PersistDispatchAuthorityRequestV1) :
    Option DispatchRow → DispatchRow → Prop
  | first (new : DispatchRow) (attempt : request.expectedAttemptDigest = none)
      (lease : request.expectedLeaseDigest = none)
      (dispatch : request.expectedDispatchDigest = none) : Replaces request none new
  | moved (old new : DispatchRow) (attempt : request.expectedAttemptDigest = some old.attemptDigest)
      (lease : request.expectedLeaseDigest = old.leaseDigest)
      (dispatch : request.expectedDispatchDigest = some old.dispatchDigest)
      (bound : new.attemptDigest = old.attemptDigest) (low : old.fenceCounter ≤ new.fenceCounter)
      (high : new.fenceCounter ≤ old.fenceCounter + 1)
      (identity : old.fenceCounter = new.fenceCounter → 0 < new.fenceCounter →
        ∀ name ∈ leaseIdentity, property name (storedLease old) = property name (storedLease new)) :
      Replaces request (some old) new

theorem replaces_moves (stored : ∃ earlier past, Stored old earlier past)
    (admitted : replaces request facts (some old) = .ok ()) (written : Stored new request facts) :
    Replaces request (some old) new := by
  rcases stored with ⟨earlier, past, stored⟩
  simp only [replaces, bind_ok_iff, ensure_ok_iff, Option.map_some, Option.bind_some,
    Option.toList_some, List.forM_eq_forM, List.forM_cons, List.forM_nil, pure_ok_iff] at admitted
  rcases admitted with ⟨_, ⟨attempt, lease, dispatch⟩, _, ⟨_, bound, _, low, _, high, identity⟩, _⟩
  refine .moved old new attempt.symm lease.symm dispatch.symm ?_ ?_ ?_ ?_
  · rw [written.attemptDigest, bound]
  · rw [written.fence]
    exact low
  · rw [written.fence]
    exact high
  · intro same positive name listed
    -- a positive fence stands for a lease on both sides
    rw [written.fence] at same positive
    rw [stored.fence] at same
    rcases lease_of_fence written.read positive with ⟨_, fields, lease⟩
    rcases lease_of_fence stored.read (same ▸ positive) with ⟨_, past_fields, past_lease⟩
    have both : isNull (storedLease old) = false ∧ isNull request.state.lease = false := by
      rw [stored_lease stored, past_lease, lease]
      exact ⟨rfl, rfl⟩
    have equal := identity (by rw [stored.fence, same]) both.1 both.2 name listed
    have stored_equal := strict_equal_normalize equal
    rw [stored_lease stored] at stored_equal ⊢
    have twice : normalize ∘ normalize = normalize :=
      funext fun value => normalize_eq_of_meaning _ _ (meaning_normalize value)
    rw [stored_lease written, property_normalize, property_normalize, ← stored_equal,
      property_normalize, Option.map_map, twice]

theorem written_stored {stateJson : JsString} {prior : Option DispatchRow} {done : Unit}
    (read : dispatchFacts request = .ok facts)
    (text : canonicalJson request.state.toJson = .ok stateJson)
    (admitted : replaces request facts prior = .ok done) :
    Stored { dispatchRow request facts stateJson with
      attemptDigest := (prior.map DispatchRow.attemptDigest).getD facts.attemptDigest }
      request facts := by
  have bound : (prior.map DispatchRow.attemptDigest).getD facts.attemptDigest =
      facts.attemptDigest := by
    cases prior with
    | none => rfl
    | some row =>
        simp only [replaces, bind_ok_iff, ensure_ok_iff, Option.toList_some, List.forM_eq_forM,
          List.forM_cons] at admitted
        rcases admitted with ⟨_, _, _, ⟨_, same, _⟩, _⟩
        exact same
  exact ⟨read, text, bound, rfl, rfl, rfl⟩

end Rows

section Effects

variable [Engine] {request : PersistDispatchAuthorityRequestV1} {state after : Authority}
  {answer : DispatchAnswer} {facts : DispatchFacts} {stateJson : JsString}

def RowsStored (state : Authority) : Prop :=
  ∀ key row, state.dispatches.get key = some row → ∃ request facts, Stored row request facts

theorem validated_ok_iff : validated request = .ok (facts, stateJson) ↔
    (request.workspaceId ≠ [] ∧ request.runId ≠ [] ∧ request.attemptId ≠ [] ∧
      request.commandId ≠ [] ∧ request.generation ≤ maxSafeInteger ∧ 1 ≤ request.generation) ∧
    parseObservationCursorV1 (.composite request.authorityCursor) = .ok () ∧
    (request.authorityCursor.workspaceId = request.workspaceId ∧
      request.authorityCursor.runId = request.runId) ∧
    dispatchFacts request = .ok facts ∧ canonicalJson request.state.toJson = .ok stateJson := by
  simp only [validated, bind_ok_iff, ensure_ok_iff, map_error_ok_iff, pure_ok_iff, Prod.mk.injEq]
  constructor
  · rintro ⟨_, named, _, parsed, _, same, _, read, _, text, rfl, rfl⟩
    exact ⟨named, parsed, same, read, text⟩
  · rintro ⟨named, parsed, same, read, text⟩
    exact ⟨(), named, (), parsed, (), same, _, read, _, text, rfl, rfl⟩

/-- A new command has replaced the row of its key, and nothing else. -/
structure Persists (request : PersistDispatchAuthorityRequestV1) (state : Authority) (fence : Nat)
    (after : Authority) : Prop where
  row : ∃ new facts, after = { state with dispatches := state.dispatches.set request.key new } ∧
    new.commandId = request.commandId ∧ new.fenceCounter = fence ∧ Stored new request facts ∧
    Replaces request (state.dispatches.get request.key) new

theorem persist_effect (rows : RowsStored state)
    (accepted : persistDispatchAuthorityAtomic request state = .ok (answer, after)) :
    (∃ row, answer = ⟨true, row.fenceCounter⟩ ∧ after = state ∧
      state.dispatches.get request.key = some row ∧ row.commandId = request.commandId) ∨
    answer.deduplicated = false ∧ Persists request state answer.fenceCounter after := by
  simp only [persistDispatchAuthorityAtomic, bind_ok_iff] at accepted
  rcases accepted with ⟨⟨facts, stateJson⟩, checked, _, _, _, _, _, _, accepted⟩
  rcases validated_ok_iff.mp checked with ⟨_, _, _, read, text⟩
  split at accepted
  · next row found =>
      simp only [bind_ok_iff, pure_ok_iff, Prod.mk.injEq] at accepted
      rcases accepted with ⟨_, _, rfl, rfl⟩
      rcases Option.filter_eq_some_iff.mp found with ⟨there, same⟩
      exact .inl ⟨row, rfl, rfl, there, of_decide_eq_true same⟩
  · simp only [upsertDispatch, bind_ok_iff, pure_ok_iff, Prod.mk.injEq] at accepted
    rcases accepted with ⟨_, admitted, _, ⟨_, _, rfl⟩, rfl, rfl⟩
    have stored := written_stored read text admitted
    refine .inr ⟨rfl, ⟨_, facts, rfl, rfl, rfl, stored, ?_⟩⟩
    cases prior : state.dispatches.get request.key with
    | none =>
        rw [prior] at admitted
        simp only [replaces, bind_ok_iff, ensure_ok_iff, Option.map_none, Option.bind_none] at admitted
        rcases admitted with ⟨_, ⟨attempt, lease, dispatch⟩, _⟩
        exact .first _ attempt.symm lease.symm dispatch.symm
    | some old =>
        rw [prior] at admitted stored
        exact replaces_moves (rows _ _ prior) admitted stored

theorem serve_dispatch_ok_iff : serveDispatch request state = (.ok answer, after) ↔
    persistDispatchAuthorityAtomic request state = .ok (answer, after) := by
  unfold serveDispatch
  split
  · next found later persisted => rw [persisted]; simp
  · next failure persisted => rw [persisted]; simp

theorem serve_dispatch_refused {failure : StoreError}
    (refused : (serveDispatch request state).1 = .error failure) :
    (serveDispatch request state).2 = state := by
  unfold serveDispatch at refused ⊢
  cases persisted : persistDispatchAuthorityAtomic request state with
  | ok answered => rw [persisted] at refused; cases refused
  | error found => rfl

-- The last command of a row is answered from the row while the heads stay.
theorem persist_repeats {earlier : Authority} {row : DispatchRow}
    {attempt lease dispatch : Option JsString}
    (accepted : persistDispatchAuthorityAtomic request earlier = .ok (answer, after))
    (found : state.dispatches.get request.key = some row) (same : row.commandId = request.commandId)
    (text : canonicalJson request.state.toJson = .ok row.stateJson)
    (authentic : ∀ key, Authentic state key)
    (heads : headAt state (.workspace request.workspaceId) =
        headAt earlier (.workspace request.workspaceId) ∧
      headAt state (.run request.workspaceId request.runId) =
        headAt earlier (.run request.workspaceId request.runId)) :
    persistDispatchAuthorityAtomic { request with
      expectedAttemptDigest := attempt
      expectedLeaseDigest := lease
      expectedDispatchDigest := dispatch } state = .ok (⟨true, row.fenceCounter⟩, state) := by
  simp only [persistDispatchAuthorityAtomic, bind_ok_iff, ensure_ok_iff] at accepted ⊢
  rcases accepted with ⟨⟨facts, stateJson⟩, checked, _, exact_heads, _⟩
  rcases validated_ok_iff.mp checked with ⟨named, parsed, identity, read, _⟩
  rcases authentic (.workspace request.workspaceId) with ⟨workspace, authenticated⟩
  rcases authentic (.run request.workspaceId request.runId) with ⟨run, also⟩
  refine ⟨(facts, row.stateJson), validated_ok_iff.mpr ⟨named, parsed, identity, read, text⟩, (), ?_,
    workspace, authenticated, run, also, ?_⟩
  · unfold exactHeads at exact_heads ⊢
    rw [heads.1, heads.2]
    exact exact_heads
  · have mine : (state.dispatches.get request.key).filter
        (fun row => row.commandId = request.commandId) = some row := by
      simp [found, same]
    have key : PersistDispatchAuthorityRequestV1.key { request with
        expectedAttemptDigest := attempt
        expectedLeaseDigest := lease
        expectedDispatchDigest := dispatch } = request.key := rfl
    simp only [key, mine, bind_ok_iff, ensure_ok_iff, pure_ok_iff]
    exact ⟨(), trivial, trivial⟩

end Effects

section Runs

variable [Engine]

structure Persisted where
  request : PersistDispatchAuthorityRequestV1
  answer : Except StoreError DispatchAnswer

/-- Some caller's request is served next: one on the streams, or one on a dispatch row. -/
def DispatchStep (state : Authority) (labels : List Persisted) (after : Authority) : Prop :=
  (∃ around request, after = (serve around request state).2 ∧ labels = []) ∨
    ∃ request, after = (serveDispatch request state).2 ∧
      labels = [⟨request, (serveDispatch request state).1⟩]

theorem served_step (around : Surroundings) (request : StoreRequest) (state : Authority) :
    DispatchStep state [] (serve around request state).2 := .inl ⟨around, request, rfl, rfl⟩

theorem persisted_step (request : PersistDispatchAuthorityRequestV1) (state : Authority) :
    DispatchStep state [⟨request, (serveDispatch request state).1⟩] (serveDispatch request state).2 :=
  .inr ⟨request, rfl, rfl⟩

def acceptedOn (key : DispatchKey) (persisted : Persisted) : Bool :=
  match persisted.answer with
  | .ok answer => decide (persisted.request.key = key) && !answer.deduplicated
  | .error _ => false

/-- Streams authenticate, and the rows are those of states. -/
structure DispatchInvariant (state : Authority) : Prop where
  authentic : ∀ key, Authentic state key
  stored : RowsStored state

variable {around : Surroundings} {state after : Authority} {labels : List Persisted}
  {key : DispatchKey} {request : PersistDispatchAuthorityRequestV1}

theorem served_apart {request : StoreRequest} (authentic : ∀ key, Authentic state key) :
    (serve around request state).2.dispatches = state.dispatches ∧
      ∀ key, Authentic (serve around request state).2 key := by
  cases performed : perform around state request with
  | error failure =>
      simp only [serve, performed]
      exact ⟨trivial, authentic⟩
  | ok answered =>
      rcases answered with ⟨answer, after⟩
      simp only [serve, performed]
      rcases perform_effect performed with ⟨_, _, _, _, effect⟩
      cases effect with
      | repeated | nothing => exact ⟨rfl, authentic⟩
      | committed value after commits =>
          exact ⟨commits.extended.dispatches, fun key =>
            extends_authentic commits.extended (authentic key)⟩

theorem fresh_invariant : DispatchInvariant Authority.fresh :=
  ⟨fresh_authentic, fun _ _ found => by cases found⟩

theorem invariant_step {emitted : List Persisted} (invariant : DispatchInvariant state)
    (stepped : DispatchStep state emitted after) : DispatchInvariant after := by
  rcases stepped with ⟨around, request, rfl, _⟩ | ⟨request, rfl, _⟩
  · rcases @served_apart _ around state request invariant.authentic with ⟨dispatches, authentic⟩
    refine ⟨authentic, fun key row found => ?_⟩
    rw [dispatches] at found
    exact invariant.stored key row found
  · cases persisted : persistDispatchAuthorityAtomic request state with
    | error failure => simpa only [serveDispatch, persisted] using invariant
    | ok answered =>
        rcases answered with ⟨answer, after⟩
        simp only [serveDispatch, persisted]
        rcases persist_effect invariant.stored persisted with
          ⟨row, _, rfl, _⟩ | ⟨_, ⟨new, facts, rfl, _, _, stored, _⟩⟩
        · exact invariant
        · constructor
          · exact fun key => authentic_congr rfl rfl (invariant.authentic key)
          · intro key row found
            by_cases same : request.key = key
            · subst same
              rw [Record.get_set_same] at found
              obtain rfl := Option.some.inj found
              exact ⟨request, facts, stored⟩
            · rw [Record.get_set_other _ _ same] at found
              exact invariant.stored key row found

theorem dispatch_invariant (run : Runs DispatchStep Authority.fresh labels state) :
    DispatchInvariant state :=
  runs_invariant (fun _ => DispatchInvariant) fresh_invariant
    (fun _ _ _ _ _ invariant stepped => invariant_step invariant stepped) run

/-- How a row stands to the one that it was some accepted commands before. -/
structure Evolves (old new : DispatchRow) (commands : Nat) : Prop where
  bound : new.attemptDigest = old.attemptDigest
  low : old.fenceCounter ≤ new.fenceCounter
  high : new.fenceCounter ≤ old.fenceCounter + commands

theorem row_step {emitted : List Persisted} {old : DispatchRow} (invariant : DispatchInvariant state)
    (found : state.dispatches.get key = some old) (stepped : DispatchStep state emitted after) :
    ∃ new, after.dispatches.get key = some new ∧
      Evolves old new (emitted.filter (acceptedOn key)).length := by
  rcases stepped with ⟨around, request, rfl, rfl⟩ | ⟨request, rfl, rfl⟩
  · rw [(served_apart invariant.authentic).1]
    exact ⟨old, found, rfl, le_refl _, by simp⟩
  · cases persisted : persistDispatchAuthorityAtomic request state with
    | error failure =>
        simp only [serveDispatch, persisted]
        exact ⟨old, found, rfl, le_refl _, by simp⟩
    | ok answered =>
        rcases answered with ⟨answer, after⟩
        simp only [serveDispatch, persisted]
        rcases persist_effect invariant.stored persisted with
          ⟨row, _, rfl, _⟩ | ⟨fresh, ⟨new, facts, rfl, _, _, _, change⟩⟩
        · exact ⟨old, found, rfl, le_refl _, by omega⟩
        · by_cases same : request.key = key
          · subst same
            rw [found] at change
            refine ⟨new, Record.get_set_same _ _ _, ?_⟩
            cases change with
            | moved _ _ _ _ _ bound low high _ =>
                exact ⟨bound, low, by simpa [acceptedOn, fresh] using high⟩
          · exact ⟨old, by rw [Record.get_set_other _ _ same, found], rfl, le_refl _, by omega⟩

theorem row_evolves {start : Authority} {old : DispatchRow} (invariant : DispatchInvariant start)
    (found : start.dispatches.get key = some old) (run : Runs DispatchStep start labels state) :
    DispatchInvariant state ∧ ∃ new, state.dispatches.get key = some new ∧
      Evolves old new (labels.filter (acceptedOn key)).length := by
  induction run with
  | start => exact ⟨invariant, old, found, rfl, le_refl _, le_refl _⟩
  | step before moved ih =>
      rcases ih with ⟨middle, row, there, evolved⟩
      rcases row_step middle there moved with ⟨new, later, stepped⟩
      refine ⟨invariant_step middle moved, new, later, stepped.bound.trans evolved.bound,
        evolved.low.trans stepped.low, ?_⟩
      have first := evolved.high
      have second := stepped.high
      rw [List.filter_append, List.length_append]
      omega

/-- What callers can rely on of the dispatch rows, in a state that requests have led to. -/
structure DispatchRowsSafe (state : Authority) : Prop where
  /-- Rows are there for good; their fences go up by one at most for each accepted command,
  and their attempts stay. -/
  evolves : ∀ labels later key old, Runs DispatchStep state labels later →
    state.dispatches.get key = some old → ∃ new, later.dispatches.get key = some new ∧
      Evolves old new (labels.filter (acceptedOn key)).length
  accepted : ∀ request fence after, serveDispatch request state = (.ok ⟨false, fence⟩, after) →
    Persists request state fence after
  repeated : ∀ request fence after, serveDispatch request state = (.ok ⟨true, fence⟩, after) →
    after = state ∧ ∃ row, state.dispatches.get request.key = some row ∧
      row.commandId = request.commandId ∧ row.fenceCounter = fence
  refused : ∀ request failure, (serveDispatch request state).1 = .error failure →
    (serveDispatch request state).2 = state
  appends : ∀ around request, (serve around request state).2.dispatches = state.dispatches
  resubmitted : ∀ request earlier answer after row attempt lease dispatch,
    serveDispatch request earlier = (.ok answer, after) →
    state.dispatches.get request.key = some row → row.commandId = request.commandId →
    canonicalJson request.state.toJson = .ok row.stateJson →
    headAt state (.workspace request.workspaceId) =
      headAt earlier (.workspace request.workspaceId) →
    headAt state (.run request.workspaceId request.runId) =
      headAt earlier (.run request.workspaceId request.runId) →
    serveDispatch { request with
      expectedAttemptDigest := attempt
      expectedLeaseDigest := lease
      expectedDispatchDigest := dispatch } state = (.ok ⟨true, row.fenceCounter⟩, state)

theorem dispatch_rows_safe (run : Runs DispatchStep Authority.fresh labels state) :
    DispatchRowsSafe state := by
  have invariant := dispatch_invariant run
  constructor
  · intro labels later key old after found
    exact (row_evolves invariant found after).2
  · intro request fence after accepted
    rcases persist_effect invariant.stored (serve_dispatch_ok_iff.mp accepted) with
      ⟨row, same, _⟩ | ⟨_, persists⟩
    · cases same
    · exact persists
  · intro request fence after accepted
    rcases persist_effect invariant.stored (serve_dispatch_ok_iff.mp accepted) with
      ⟨row, same, unchanged, found, mine⟩ | ⟨fresh, _⟩
    · cases same
      exact ⟨unchanged, row, found, mine, rfl⟩
    · cases fresh
  · exact fun request failure refused => serve_dispatch_refused refused
  · exact fun around request => (served_apart invariant.authentic).1
  · intro request earlier answer after row attempt lease dispatch accepted found same text workspace run
    exact serve_dispatch_ok_iff.mpr (persist_repeats (serve_dispatch_ok_iff.mp accepted) found same
      text invariant.authentic ⟨workspace, run⟩)

end Runs

section Recorded

attribute [local instance] shortEngine

def genesisEvent (kind : StreamKind) (streamId : String) (payload : DomainEventPayloadV1) :
    HashedEventEnvelopeV1 :=
  let envelope : EventEnvelopeV1 :=
    { streamKind := kind
      workspaceId := js "w"
      streamId := js streamId
      sequence := 1
      eventId := js "e" ++ js streamId
      eventType := payload.eventType
      principalId := js "u"
      causationId := js "c"
      correlationId := js "c"
      idempotencyKey := js "k"
      priorEnvelopeHash := none
      payloadHash := []
      payload := payload }
  finalOf ⟨envelope, []⟩ (sealEventEnvelope envelope)

def workspaceEvent : HashedEventEnvelopeV1 :=
  genesisEvent .workspace "w" (.workspace
    (.workspaceCreatedV1 (js "w") (js "u") (js "g") (js "m") (js "d")))

def runEvent : HashedEventEnvelopeV1 :=
  genesisEvent .run "r" (.run (.runCreatedV1 (js "w") (js "r") (object [])))

def emptyAppend (commandId : String) : AtomicAppendRequest :=
  { commandId := js commandId
    workspace := none
    run := none
    runGenesis := none
    workspaceObservationCursor := none
    authorityStateExpectations := none
    clientRequestDigest := none }

def createWorkspace : StoreRequest :=
  .append { emptyAppend "c1" with
    workspace := some ⟨.workspace, js "w", js "w", 0, none, [workspaceEvent]⟩ }

def createRun : StoreRequest :=
  .append { emptyAppend "c2" with
    runGenesis := some ⟨⟨js "w", 1, workspaceEvent.envelopeHash, 0, js "r"⟩, runEvent⟩ }

def bindAttempt : PersistDispatchAuthorityRequestV1 :=
  { workspaceId := js "w"
    runId := js "r"
    attemptId := js "a"
    generation := 1
    authorityCursor := ⟨js "w", 1, workspaceEvent.envelopeHash, 0, js "r", 1, runEvent.envelopeHash, 0⟩
    state :=
      { attempt := object [("attemptId", .str (js "a")), ("generation", natural 1),
          ("attemptDigest", .str (js "d"))]
        lease := .null
        dispatch := object [("attemptId", .str (js "a")), ("generation", natural 1),
          ("recordDigest", .str (js "x"))] }
    expectedAttemptDigest := none
    expectedLeaseDigest := none
    expectedDispatchDigest := none
    commandId := js "b" }

instance attempt_bound : Fact (((serveDispatch bindAttempt (serve openSession createRun
    (serve openSession createWorkspace Authority.fresh).2).2).2.dispatches.get
      bindAttempt.key).isSome = true) := ⟨by decide +kernel⟩

theorem bound_attempt_safe : ∃ state : Authority,
    (state.dispatches.get bindAttempt.key).isSome = true ∧ DispatchRowsSafe state :=
  ⟨_, attempt_bound.out, dispatch_rows_safe
    (((Runs.start.step (served_step openSession createWorkspace _)).step
      (served_step openSession createRun _)).step (persisted_step bindAttempt _))⟩

end Recorded

end Horseness.DispatchAuthority
