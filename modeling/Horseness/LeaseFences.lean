import Horseness.BoundAttempts
import Mathlib.Data.List.GetD

/-!
Leases on an attempt. A lease is accepted while its owner and fence token are named and it has
not expired; it goes on being accepted after a later lease was made of it.
-/

namespace Horseness.LeaseFences

open FallibleRuns ScriptText JsonValues ScriptEngine Cursors SealedValues BoundAttempts Turns
  RecordedRuns

inductive LeaseTransitionCodeV1 where
  | leaseAcquired
  | leaseRenewed
  | leaseExpired
  | leaseStale
  | leaseBusy
  deriving DecidableEq

structure LeaseFenceCoreV1 where
  attemptId : JsString
  generation : Nat
  leaseId : JsString
  ownerId : JsString
  bootId : JsString
  processId : JsString
  fenceToken : Nat
  acquiredAt : JsString
  expiresAt : JsString
  durationMs : Nat
  authorityCursor : CompositeCursorV1
  bindingDigest : JsString
  deriving DecidableEq

def LeaseFenceCoreV1.toJson (core : LeaseFenceCoreV1) : JsValue :=
  object [("schemaVersion", .str (js "1")), ("attemptId", .str core.attemptId),
    ("generation", natural core.generation), ("leaseId", .str core.leaseId),
    ("ownerId", .str core.ownerId), ("bootId", .str core.bootId),
    ("processId", .str core.processId), ("fenceToken", natural core.fenceToken),
    ("acquiredAt", .str core.acquiredAt), ("expiresAt", .str core.expiresAt),
    ("durationMs", natural core.durationMs), ("authorityCursor", core.authorityCursor.toJson),
    ("bindingDigest", .str core.bindingDigest)]

def LeaseFenceCoreV1.identity (core : LeaseFenceCoreV1) : AttemptIdentity :=
  ⟨core.attemptId, core.generation, core.bindingDigest⟩

def increment (token : Nat) : Nat := if token ≤ maxSafeInteger then token + 1 else token

section Leases

variable [Engine]

abbrev LeaseFenceV1 := Sealed (js "horseness.lease-fence.v1") LeaseFenceCoreV1.toJson

def LeaseFenceV1.toJson (lease : LeaseFenceV1) : JsValue :=
  withField "leaseDigest" (.str lease.digest) lease.core.toJson

structure LeaseTransitionResultV1 where
  code : LeaseTransitionCodeV1
  lease : Option LeaseFenceV1

def timestamp (value : JsString) : Except DispatchError Int := do
  let parsed ← required (Engine.dateParse value) .leaseTimeInvalid
  ensure (Engine.toISOString parsed = value) .leaseTimeInvalid
  return parsed

def sealLease (core : LeaseFenceCoreV1) : Except DispatchError LeaseFenceV1 :=
  (sealCore _ _ core).mapError .domain

def validateCore (core : LeaseFenceCoreV1) : Except DispatchError Unit := do
  let acquired ← timestamp core.acquiredAt
  let expires ← timestamp core.expiresAt
  ensure (core.attemptId ≠ [] ∧ 1 ≤ core.generation ∧ core.leaseId ≠ [] ∧ core.ownerId ≠ [] ∧
    core.bootId ≠ [] ∧ core.processId ≠ [] ∧ core.fenceToken ≤ maxSafeInteger ∧
    1 ≤ core.fenceToken ∧ core.durationMs ≤ maxSafeInteger ∧ 1 ≤ core.durationMs ∧
    expires - acquired = core.durationMs ∧ core.bindingDigest ≠ []) .leaseSchemaInvalid

def rehydrateLeaseFence (value : Serialized LeaseFenceCoreV1) :
    Except DispatchError LeaseFenceV1 := do
  validateCore value.core
  let lease ← sealLease value.core
  ensure (value.digest = lease.digest) .leaseDigestMismatch
  return lease

structure AcquireLease where
  attempt : BoundAttemptV1
  current : Option LeaseFenceV1
  leaseId : JsString
  ownerId : JsString
  bootId : JsString
  processId : JsString
  authorityCursor : CompositeCursorV1
  now : JsString
  expiresAt : JsString

def AcquireLease.granted (input : AcquireLease) (now expires : Int) : LeaseFenceCoreV1 :=
  { attemptId := input.attempt.core.attemptId
    generation := input.attempt.core.generation
    leaseId := input.leaseId
    ownerId := input.ownerId
    bootId := input.bootId
    processId := input.processId
    fenceToken := increment ((input.current.map fun lease => lease.core.fenceToken).getD 0)
    acquiredAt := input.now
    expiresAt := input.expiresAt
    durationMs := (expires - now).toNat
    authorityCursor := input.authorityCursor
    bindingDigest := input.attempt.core.bindingDigest }

def busy (current : Option LeaseFenceV1) (now : Int) : Except DispatchError Bool :=
  match current with
  | none => .ok false
  | some lease => do
      let expires ← timestamp lease.core.expiresAt
      return decide (now < expires)

def acquireLease (input : AcquireLease) : Except DispatchError LeaseTransitionResultV1 := do
  ensure (input.attempt.core.outcome = .live) .leaseAttemptInvalid
  let now ← timestamp input.now
  let expires ← timestamp input.expiresAt
  ensure (now < expires ∧ input.leaseId ≠ [] ∧ input.ownerId ≠ [] ∧ input.bootId ≠ [] ∧
    input.processId ≠ []) .leaseTimeInvalid
  let held ← busy input.current now
  if held then return ⟨.leaseBusy, input.current⟩
  else do
    let lease ← sealLease (input.granted now expires)
    return ⟨.leaseAcquired, some lease⟩

structure RenewLease where
  lease : LeaseFenceV1
  ownerId : JsString
  fenceToken : Nat
  now : JsString
  expiresAt : JsString

def renewLease (input : RenewLease) : Except DispatchError LeaseTransitionResultV1 :=
  if input.ownerId ≠ input.lease.core.ownerId ∨ input.fenceToken ≠ input.lease.core.fenceToken then
    .ok ⟨.leaseStale, some input.lease⟩
  else do
    let now ← timestamp input.now
    let expires ← timestamp input.expiresAt
    let current ← timestamp input.lease.core.expiresAt
    if current ≤ now then return ⟨.leaseExpired, none⟩
    else do
      ensure (now < expires) .leaseTimeInvalid
      let lease ← sealLease { input.lease.core with
        acquiredAt := input.now
        expiresAt := input.expiresAt
        durationMs := (expires - now).toNat }
      return ⟨.leaseRenewed, some lease⟩

def expireLease (lease : LeaseFenceV1) (now : JsString) :
    Except DispatchError LeaseTransitionResultV1 := do
  let time ← timestamp now
  let expires ← timestamp lease.core.expiresAt
  if expires ≤ time then return ⟨.leaseExpired, none⟩ else return ⟨.leaseBusy, some lease⟩

def assertLeaseFence (attempt : BoundAttemptV1) (lease : LeaseFenceV1) (ownerId : JsString)
    (fenceToken : Nat) (now : JsString) : Except DispatchError Unit := do
  ensure (lease.core.identity = attempt.core.identity ∧ lease.core.ownerId = ownerId ∧
    lease.core.fenceToken = fenceToken) .leaseFenceStale
  let time ← timestamp now
  let expires ← timestamp lease.core.expiresAt
  ensure (time < expires) .leaseFenceStale

end Leases

section Effects

variable [Engine] {input : AcquireLease} {result : LeaseTransitionResultV1}

theorem seal_lease_ok_iff {core : LeaseFenceCoreV1} {lease : LeaseFenceV1} :
    sealLease core = .ok lease ↔ lease.core = core := by
  rw [sealLease, map_error_ok_iff, seal_ok_iff]

theorem busy_false_iff {current : Option LeaseFenceV1} {now : Int} :
    busy current now = .ok false ↔ ∀ lease ∈ current, ∃ expires,
      timestamp lease.core.expiresAt = .ok expires ∧ expires ≤ now := by
  cases current with
  | none => simp [busy]
  | some lease =>
      simp only [busy, bind_ok_iff, pure_ok_iff, decide_eq_false_iff_not, Int.not_lt,
        Option.mem_def, Option.some.injEq, forall_eq']

/-- What a caller has to be given for the lease to be granted. -/
structure Grants (input : AcquireLease) (now expires : Int) (lease : LeaseFenceV1) : Prop where
  outcome : input.attempt.core.outcome = .live
  begins : timestamp input.now = .ok now
  ends : timestamp input.expiresAt = .ok expires
  later : now < expires
  named : input.leaseId ≠ [] ∧ input.ownerId ≠ [] ∧ input.bootId ≠ [] ∧ input.processId ≠ []
  free : ∀ held ∈ input.current, ∃ expired, timestamp held.core.expiresAt = .ok expired ∧
    expired ≤ now
  core : lease.core = input.granted now expires

theorem acquire_ok_iff : acquireLease input = .ok result ↔
    (result = ⟨.leaseBusy, input.current⟩ ∧ input.attempt.core.outcome = .live ∧ ∃ now expires,
      timestamp input.now = .ok now ∧ timestamp input.expiresAt = .ok expires ∧
      (now < expires ∧ input.leaseId ≠ [] ∧ input.ownerId ≠ [] ∧ input.bootId ≠ [] ∧
        input.processId ≠ []) ∧ busy input.current now = .ok true) ∨
    ∃ now expires lease, result = ⟨.leaseAcquired, some lease⟩ ∧ Grants input now expires lease := by
  simp only [acquireLease, bind_ok_iff, ensure_ok_iff]
  constructor
  · rintro ⟨_, outcome, now, time, expires, until_, _, asked, held, free, answered⟩
    cases held with
    | true =>
        rw [if_pos rfl, pure_ok_iff] at answered
        exact .inl ⟨answered.symm, outcome, now, expires, time, until_, asked, free⟩
    | false =>
        simp only [Bool.false_eq_true, if_false, bind_ok_iff, seal_lease_ok_iff, pure_ok_iff]
          at answered
        rcases answered with ⟨lease, core, rfl⟩
        exact .inr ⟨now, expires, lease, rfl, outcome, time, until_, asked.1, asked.2,
          busy_false_iff.mp free, core⟩
  · rintro (⟨rfl, outcome, now, expires, time, until_, asked, held⟩ |
      ⟨now, expires, lease, rfl, granted⟩)
    · exact ⟨(), outcome, now, time, expires, until_, (), asked, true, held, rfl⟩
    · refine ⟨(), granted.outcome, now, granted.begins, expires, granted.ends, (),
        ⟨granted.later, granted.named⟩, false, busy_false_iff.mpr granted.free, ?_⟩
      simp only [Bool.false_eq_true, if_false, bind_ok_iff, seal_lease_ok_iff, pure_ok_iff]
      exact ⟨lease, granted.core, rfl⟩

/-- A renewed lease has other times and nothing else. -/
structure Renews (input : RenewLease) (later : LeaseFenceV1) : Prop where
  identity : later.core.identity = input.lease.core.identity
  ownerId : later.core.ownerId = input.lease.core.ownerId
  fenceToken : later.core.fenceToken = input.lease.core.fenceToken
  ends : ∃ expires, timestamp later.core.expiresAt = .ok expires

theorem renew_effect {input : RenewLease} (renewed : renewLease input = .ok result) :
    result = ⟨.leaseStale, some input.lease⟩ ∨ result = ⟨.leaseExpired, none⟩ ∨
      ∃ later, result = ⟨.leaseRenewed, some later⟩ ∧ Renews input later := by
  unfold renewLease at renewed
  split at renewed
  · exact .inl (Except.ok.inj renewed).symm
  · simp only [bind_ok_iff] at renewed
    rcases renewed with ⟨now, _, expires, until_, current, _, renewed⟩
    split at renewed
    · rw [pure_ok_iff] at renewed
      exact .inr (.inl renewed.symm)
    · simp only [bind_ok_iff, ensure_ok_iff, seal_lease_ok_iff, pure_ok_iff] at renewed
      rcases renewed with ⟨_, _, later, core, rfl⟩
      refine .inr (.inr ⟨later, rfl, ?_, ?_, ?_, expires, ?_⟩)
      · rw [core]; rfl
      · rw [core]
      · rw [core]
      · rw [core]
        exact until_

theorem expire_effect {lease : LeaseFenceV1} {now : JsString}
    (expired : expireLease lease now = .ok result) :
    result = ⟨.leaseExpired, none⟩ ∨ result = ⟨.leaseBusy, some lease⟩ := by
  simp only [expireLease, bind_ok_iff] at expired
  rcases expired with ⟨_, _, _, _, expired⟩
  split at expired
  · exact .inl (Except.ok.inj expired).symm
  · exact .inr (Except.ok.inj expired).symm

theorem fence_ok_iff {attempt : BoundAttemptV1} {lease : LeaseFenceV1} {ownerId now : JsString}
    {fenceToken : Nat} : assertLeaseFence attempt lease ownerId fenceToken now = .ok () ↔
      (lease.core.identity = attempt.core.identity ∧ lease.core.ownerId = ownerId ∧
        lease.core.fenceToken = fenceToken) ∧ ∃ time expires, timestamp now = .ok time ∧
        timestamp lease.core.expiresAt = .ok expires ∧ time < expires := by
  simp only [assertLeaseFence, bind_ok_iff, ensure_ok_iff]
  constructor
  · rintro ⟨_, terms, time, read, expires, until_, early⟩
    exact ⟨terms, time, expires, read, until_, early⟩
  · rintro ⟨terms, time, expires, read, until_, early⟩
    exact ⟨(), terms, time, read, expires, until_, early⟩

end Effects

section Histories

variable [Engine]

inductive LeaseCall where
  | acquire (input : AcquireLease)
  | renew (input : RenewLease)
  | expire (lease : LeaseFenceV1) (now : JsString)

def LeaseCall.given : LeaseCall → Option LeaseFenceV1
  | .acquire input => input.current
  | .renew input => some input.lease
  | .expire lease _ => some lease

def LeaseCall.now : LeaseCall → JsString
  | .acquire input => input.now
  | .renew input => input.now
  | .expire _ now => now

def LeaseCall.perform : LeaseCall → Except DispatchError LeaseTransitionResultV1
  | .acquire input => acquireLease input
  | .renew input => renewLease input
  | .expire lease now => expireLease lease now

/-- What a sequence of calls on one attempt has led to. -/
structure LeaseHistory where
  /-- The lease of the last transition. -/
  current : Option LeaseFenceV1
  /-- Every lease that was made, the newest last. -/
  leases : List LeaseFenceV1
  /-- The fence tokens of those that were acquired. -/
  acquired : List Nat
  clock : Option Int

def LeaseHistory.fresh : LeaseHistory := ⟨none, [], [], none⟩

def LeaseHistory.clockAt (history : LeaseHistory) (now : JsString) : Option Int :=
  match timestamp now with
  | .ok time => some time
  | .error _ => history.clock

-- what is thrown leaves the lease of the last transition the current one
def LeaseHistory.after (history : LeaseHistory) (call : LeaseCall) : LeaseHistory :=
  let clock := history.clockAt call.now
  match call.perform with
  | .error _ => { history with clock := clock }
  | .ok ⟨.leaseAcquired, some lease⟩ =>
      { current := some lease
        leases := history.leases ++ [lease]
        acquired := history.acquired ++ [lease.core.fenceToken]
        clock := clock }
  | .ok ⟨.leaseRenewed, some lease⟩ =>
      { history with current := some lease, leases := history.leases ++ [lease], clock := clock }
  | .ok ⟨_, lease⟩ => { history with current := lease, clock := clock }

/-- The call is on the attempt, with the current lease, and comes no earlier than the last. -/
structure Follows (attempt : AttemptIdentity) (history : LeaseHistory) (call : LeaseCall) :
    Prop where
  current : call.given = history.current
  attempt : ∀ input, call = .acquire input → input.attempt.core.identity = attempt
  time : ∀ earlier ∈ history.clock, ∀ now, timestamp call.now = .ok now → earlier ≤ now

def LeaseStep (attempt : AttemptIdentity) (history : LeaseHistory)
    (labels : List (LeaseHistory × LeaseCall)) (after : LeaseHistory) : Prop :=
  ∃ call, Follows attempt history call ∧ labels = [(history, call)] ∧ after = history.after call

/-- Some call of an attempt's holder accepts the lease at the time. -/
def Accepted (attempt : AttemptIdentity) (lease : LeaseFenceV1) (now : JsString) : Prop :=
  ∃ given ownerId fenceToken, given.core.identity = attempt ∧
    assertLeaseFence given lease ownerId fenceToken now = .ok ()

/-- Tokens go up, and no two terms are accepted at one time from now on. -/
structure Fenced (attempt : AttemptIdentity) (history : LeaseHistory) : Prop where
  increasing : history.acquired.Pairwise (· < ·)
  exclusive : ∀ now time, timestamp now = .ok time → (∀ clock ∈ history.clock, clock ≤ time) →
    ∀ first ∈ history.leases, ∀ second ∈ history.leases, Accepted attempt first now →
      Accepted attempt second now →
      first.core.ownerId = second.core.ownerId ∧ first.core.fenceToken = second.core.fenceToken

/-- An acquisition that would be granted is the first one, or its current lease is there, has
a token that can be counted up, and is not outlived by another lease. -/
def Clear (history : LeaseHistory) (call : LeaseCall) : Prop :=
  ∀ input now expires lease, call = .acquire input → Grants input now expires lease →
    history.leases = [] ∨ ∃ current, history.current = some current ∧
      current.core.fenceToken ≤ maxSafeInteger ∧ ∀ other ∈ history.leases, ∀ expired,
        timestamp other.core.expiresAt = .ok expired → expired ≤ now

variable {attempt : AttemptIdentity} {history after : LeaseHistory} {call : LeaseCall}

theorem followed_step (call : LeaseCall) (follows : Follows attempt history call) :
    LeaseStep attempt history [(history, call)] (history.after call) :=
  ⟨call, follows, rfl, rfl⟩

/-- What a call does to the history. -/
inductive Effect (history : LeaseHistory) (call : LeaseCall) : LeaseHistory → Prop
  | kept (current : Option LeaseFenceV1) (held : ∀ lease ∈ current, history.current = some lease) :
      Effect history call { history with current := current, clock := history.clockAt call.now }
  | renewed (input : RenewLease) (later : LeaseFenceV1) (shape : call = .renew input)
      (renews : Renews input later) : Effect history call { history with
        current := some later
        leases := history.leases ++ [later]
        clock := history.clockAt call.now }
  | acquired (input : AcquireLease) (now expires : Int) (lease : LeaseFenceV1)
      (shape : call = .acquire input) (granted : Grants input now expires lease) :
      Effect history call
        { current := some lease
          leases := history.leases ++ [lease]
          acquired := history.acquired ++ [lease.core.fenceToken]
          clock := some now }

theorem call_effect (follows : Follows attempt history call) :
    Effect history call (history.after call) := by
  have given := follows.current
  unfold LeaseHistory.after
  cases performed : call.perform with
  | error failure => exact .kept history.current (fun _ held => held)
  | ok result =>
      cases call with
      | acquire input =>
          rcases acquire_ok_iff.mp performed with ⟨rfl, _⟩ | ⟨now, expires, lease, rfl, granted⟩
          · exact .kept input.current (fun lease held => given ▸ held)
          · have clock : history.clockAt input.now = some now := by
              rw [LeaseHistory.clockAt, granted.begins]
            have effect : Effect history (.acquire input) _ :=
              .acquired input now expires lease rfl granted
            rw [← clock] at effect
            exact effect
      | renew input =>
          rcases renew_effect performed with rfl | rfl | ⟨later, rfl, renews⟩
          · exact .kept (some input.lease) (fun lease held => given ▸ held)
          · exact .kept none (fun _ held => by cases held)
          · exact .renewed input later rfl renews
      | expire lease now =>
          rcases expire_effect performed with rfl | rfl
          · exact .kept none (fun _ held => by cases held)
          · exact .kept (some lease) (fun _ held => given ▸ held)

theorem clock_later (follows : Follows attempt history call) :
    ∀ earlier ∈ history.clock, ∃ later ∈ history.clockAt call.now, earlier ≤ later := by
  intro earlier there
  unfold LeaseHistory.clockAt
  cases read : timestamp call.now with
  | error failure => exact ⟨earlier, there, le_refl _⟩
  | ok now => exact ⟨now, rfl, follows.time earlier there now read⟩

def Expired (lease : LeaseFenceV1) (clock : Option Int) : Prop :=
  ∃ now ∈ clock, ∀ expires, timestamp lease.core.expiresAt = .ok expires → expires ≤ now

theorem expired_later {lease : LeaseFenceV1} {clock later : Option Int}
    (moved : ∀ earlier ∈ clock, ∃ now ∈ later, earlier ≤ now) (expired : Expired lease clock) :
    Expired lease later := by
  rcases expired with ⟨earlier, there, passed⟩
  rcases moved earlier there with ⟨now, reached, ordered⟩
  exact ⟨now, reached, fun expires until_ => le_trans (passed expires until_) ordered⟩

/-- Where the newest lease stands among the others. -/
structure Newest (history : LeaseHistory) (last : LeaseFenceV1) : Prop where
  low : ∀ lease ∈ history.leases, lease.core.fenceToken ≤ last.core.fenceToken
  others : ∀ lease ∈ history.leases, (lease.core.ownerId = last.core.ownerId ∧
    lease.core.fenceToken = last.core.fenceToken) ∨ Expired lease history.clock

/-- What calls that are clear keep. -/
structure Ordered (attempt : AttemptIdentity) (history : LeaseHistory) : Prop where
  current : ∀ lease ∈ history.current, history.leases.getLast? = some lease
  made : ∀ lease ∈ history.leases, lease.core.identity = attempt ∧
    ∃ expires, timestamp lease.core.expiresAt = .ok expires
  increasing : history.acquired.Pairwise (· < ·)
  positive : ∀ token ∈ history.acquired, 1 ≤ token
  tokens : history.acquired.getLast? =
    history.leases.getLast?.map fun lease => lease.core.fenceToken
  newest : ∀ last ∈ history.leases.getLast?, Newest history last

theorem fresh_ordered : Ordered attempt LeaseHistory.fresh := by
  constructor <;> simp [LeaseHistory.fresh]

omit [Engine] in
theorem increment_positive (token : Nat) : 1 ≤ increment token := by
  unfold increment
  split
  · omega
  · next large => exact Nat.one_le_iff_ne_zero.mpr fun zero => large (by rw [zero]; exact Nat.zero_le _)

omit [Engine] in
theorem concat_increasing {tokens : List Nat} {token : Nat} (ordered : tokens.Pairwise (· < ·))
    (greater : ∀ last ∈ tokens.getLast?, last < token) : (tokens ++ [token]).Pairwise (· < ·) := by
  rcases List.eq_nil_or_concat tokens with rfl | ⟨front, last, rfl⟩
  · exact List.pairwise_singleton _ _
  · rw [List.concat_eq_append] at *
    have bound := greater last (by simp)
    rw [List.pairwise_append] at ordered
    refine List.pairwise_append.mpr ⟨List.pairwise_append.mpr ordered, List.pairwise_singleton _ _, ?_⟩
    intro earlier listed _ single
    obtain rfl := List.mem_singleton.mp single
    rcases List.mem_append.mp listed with before | same
    · exact lt_trans (ordered.2.2 earlier before last (List.mem_singleton_self _)) bound
    · rw [List.mem_singleton.mp same]
      exact bound

theorem renewed_step {input : RenewLease} {later : LeaseFenceV1} (ordered : Ordered attempt history)
    (follows : Follows attempt history (.renew input)) (renews : Renews input later) :
    Ordered attempt { history with
      current := some later
      leases := history.leases ++ [later]
      clock := history.clockAt input.now } := by
  have last := ordered.current input.lease follows.current.symm
  have listed := List.mem_of_getLast? last
  have newest := ordered.newest input.lease last
  constructor
  · rintro _ ⟨⟩
    exact List.getLast?_concat
  · intro lease member
    rcases List.mem_append.mp member with before | same
    · exact ordered.made lease before
    · rw [List.mem_singleton.mp same]
      exact ⟨renews.identity.trans (ordered.made input.lease listed).1, renews.ends⟩
  · exact ordered.increasing
  · exact ordered.positive
  · rw [ordered.tokens, last, List.getLast?_concat, Option.map_some, Option.map_some,
      renews.fenceToken]
  · rw [List.getLast?_concat]
    rintro _ ⟨⟩
    constructor
    · intro lease member
      rw [renews.fenceToken]
      rcases List.mem_append.mp member with before | same
      · exact newest.low lease before
      · rw [List.mem_singleton.mp same, renews.fenceToken]
    · intro lease member
      rw [renews.ownerId, renews.fenceToken]
      rcases List.mem_append.mp member with before | same
      · exact (newest.others lease before).imp id (expired_later (clock_later follows))
      · rw [List.mem_singleton.mp same]
        exact .inl ⟨renews.ownerId, renews.fenceToken⟩

-- A lease that is clear goes above all that were made before it, and they have expired.
theorem acquired_step {input : AcquireLease} {now expires : Int} {lease : LeaseFenceV1}
    (ordered : Ordered attempt history) (follows : Follows attempt history (.acquire input))
    (granted : Grants input now expires lease) (clear : Clear history (.acquire input)) :
    Ordered attempt
      { current := some lease
        leases := history.leases ++ [lease]
        acquired := history.acquired ++ [lease.core.fenceToken]
        clock := some now } := by
  have token : lease.core.fenceToken =
      increment ((history.current.map fun held => held.core.fenceToken).getD 0) := by
    rw [granted.core, AcquireLease.granted, follows.current.symm, LeaseCall.given]
  -- the token of the newest lease before, where there is one
  have above : ∀ last ∈ history.leases.getLast?, last.core.fenceToken < lease.core.fenceToken ∧
      ∀ other ∈ history.leases, Expired other (some now) := by
    intro last found
    rcases clear input now expires lease rfl granted with empty | ⟨current, held, countable, passed⟩
    · rw [empty] at found
      cases found
    · have same : some current = some last := (ordered.current current held).symm.trans found
      obtain rfl := Option.some.inj same
      rw [token, held, Option.map_some, Option.getD_some, increment, if_pos countable]
      exact ⟨Nat.lt_succ_self _, fun other listed => ⟨now, rfl, passed other listed⟩⟩
  constructor
  · rintro _ ⟨⟩
    exact List.getLast?_concat
  · intro other member
    rcases List.mem_append.mp member with before | same
    · exact ordered.made other before
    · rw [List.mem_singleton.mp same, granted.core]
      exact ⟨follows.attempt input rfl, expires, granted.ends⟩
  · apply concat_increasing ordered.increasing
    intro last found
    rw [ordered.tokens] at found
    obtain ⟨newest, there, rfl⟩ := Option.map_eq_some_iff.mp found
    exact (above newest there).1
  · intro other member
    rcases List.mem_append.mp member with before | same
    · exact ordered.positive other before
    · rw [List.mem_singleton.mp same, token]
      exact increment_positive _
  · rw [List.getLast?_concat, List.getLast?_concat, Option.map_some]
  · rw [List.getLast?_concat]
    rintro _ ⟨⟩
    have earlier : ∀ other ∈ history.leases, other.core.fenceToken ≤ lease.core.fenceToken ∧
        Expired other (some now) := by
      intro other listed
      rcases h : history.leases.getLast? with _ | last
      · rw [List.getLast?_eq_none_iff.mp h] at listed
        cases listed
      · have both := above last h
        exact ⟨le_of_lt (lt_of_le_of_lt ((ordered.newest last h).low other listed) both.1),
          both.2 other listed⟩
    constructor
    · intro other member
      rcases List.mem_append.mp member with before | same
      · exact (earlier other before).1
      · rw [List.mem_singleton.mp same]
    · intro other member
      rcases List.mem_append.mp member with before | same
      · exact .inr (earlier other before).2
      · rw [List.mem_singleton.mp same]
        exact .inl ⟨rfl, rfl⟩

theorem ordered_step (ordered : Ordered attempt history) (follows : Follows attempt history call)
    (clear : Clear history call) : Ordered attempt (history.after call) := by
  have effect := call_effect follows
  generalize history.after call = after at effect
  cases effect with
  | kept current held =>
      refine ⟨fun lease there => ordered.current lease (held lease there), ordered.made,
        ordered.increasing, ordered.positive, ordered.tokens, fun last found => ?_⟩
      have newest := ordered.newest last found
      exact ⟨newest.low, fun lease listed =>
        (newest.others lease listed).imp id (expired_later (clock_later follows))⟩
  | renewed input later shape renews =>
      subst shape
      exact renewed_step ordered follows renews
  | acquired input now expires lease shape granted =>
      subst shape
      exact acquired_step ordered follows granted clear

def Live (lease : LeaseFenceV1) (now : Int) : Prop :=
  ∃ expires, timestamp lease.core.expiresAt = .ok expires ∧ now < expires

theorem accepted_live {lease : LeaseFenceV1} {now : JsString} {time : Int}
    (read : timestamp now = .ok time) (accepted : Accepted attempt lease now) : Live lease time := by
  rcases accepted with ⟨given, ownerId, fenceToken, _, passed⟩
  rcases fence_ok_iff.mp passed with ⟨_, same, expires, again, until_, early⟩
  obtain rfl : time = same := Except.ok.inj (read.symm.trans again)
  exact ⟨expires, until_, early⟩

theorem ordered_fenced (ordered : Ordered attempt history) : Fenced attempt history := by
  refine ⟨ordered.increasing, ?_⟩
  intro now time read later first listed second also accepted too
  rcases h : history.leases.getLast? with _ | last
  · rw [List.getLast?_eq_none_iff.mp h] at listed
    cases listed
  · -- a lease that is accepted has the terms of the newest one
    have terms : ∀ lease ∈ history.leases, Accepted attempt lease now →
        lease.core.ownerId = last.core.ownerId ∧
          lease.core.fenceToken = last.core.fenceToken := by
      intro lease member accepted
      rcases (ordered.newest last h).others lease member with same | ⟨clock, there, passed⟩
      · exact same
      · rcases accepted_live read accepted with ⟨expires, until_, early⟩
        have order := later clock there
        have gone := passed expires until_
        omega
    have one := terms first listed accepted
    have two := terms second also too
    exact ⟨one.1.trans two.1.symm, one.2.trans two.2.symm⟩

theorem live_accepted {lease : LeaseFenceV1} {now : JsString} {time : Int} {given : BoundAttemptV1}
    (read : timestamp now = .ok time) (mine : given.core.identity = attempt)
    (same : lease.core.identity = attempt) (live : Live lease time) : Accepted attempt lease now := by
  rcases live with ⟨expires, until_, early⟩
  exact ⟨given, lease.core.ownerId, lease.core.fenceToken, mine,
    fence_ok_iff.mpr ⟨⟨same.trans mine.symm, rfl, rfl⟩, time, expires, read, until_, early⟩⟩

theorem after_acquired {input : AcquireLease} {now expires : Int} {lease : LeaseFenceV1}
    (granted : Grants input now expires lease) : history.after (.acquire input) =
      { current := some lease
        leases := history.leases ++ [lease]
        acquired := history.acquired ++ [lease.core.fenceToken]
        clock := some now } := by
  have answered := acquire_ok_iff.mpr (.inr ⟨now, expires, lease, rfl, granted⟩)
  simp only [LeaseHistory.after, LeaseCall.perform, LeaseCall.now, answered, LeaseHistory.clockAt,
    granted.begins]

theorem fenced_clear (ordered : Ordered attempt history) (follows : Follows attempt history call)
    (fenced : Fenced attempt (history.after call)) : Clear history call := by
  rintro input now expires lease rfl granted
  rw [after_acquired granted] at fenced
  rcases h : history.leases.getLast? with _ | last
  · exact .inl (List.getLast?_eq_none_iff.mp h)
  right
  have newest := ordered.newest last h
  have mine := follows.attempt input rfl
  have token : lease.core.fenceToken =
      increment ((history.current.map fun held => held.core.fenceToken).getD 0) := by
    rw [granted.core, AcquireLease.granted, follows.current.symm, LeaseCall.given]
  have recorded : last.core.fenceToken ∈ history.acquired :=
    List.mem_of_getLast? (by rw [ordered.tokens, h, Option.map_some])
  have greater : last.core.fenceToken < lease.core.fenceToken :=
    (List.pairwise_append.mp fenced.increasing).2.2 _ recorded _ (List.mem_singleton_self _)
  cases held : history.current with
  | none =>
      -- counting starts again at one
      rw [held, Option.map_none, Option.getD_none, increment, if_pos (Nat.zero_le _)] at token
      have one := ordered.positive _ recorded
      omega
  | some current =>
      have same := (ordered.current current held).symm.trans h
      obtain rfl := Option.some.inj same
      rw [held, Option.map_some, Option.getD_some] at token
      refine ⟨current, rfl, ?_, ?_⟩
      · by_contra large
        rw [increment, if_neg large] at token
        omega
      · intro other listed expired until_
        by_contra late
        have both := fenced.exclusive input.now now granted.begins
          (by rintro _ ⟨⟩; exact le_refl _) other (List.mem_append_left _ listed) lease
          (List.mem_append_right _ (List.mem_singleton_self _))
          (live_accepted granted.begins mine (ordered.made other listed).1
            ⟨expired, until_, not_le.mp late⟩)
          (live_accepted granted.begins mine (by rw [granted.core]; exact mine)
            ⟨expires, by rw [granted.core]; exact granted.ends, granted.later⟩)
        have low := newest.low other listed
        have equal := both.2
        omega

variable {labels : List (LeaseHistory × LeaseCall)}

theorem ordered_run (run : Runs (LeaseStep attempt) .fresh labels history)
    (clear : ∀ taken ∈ labels, Clear taken.1 taken.2) : Ordered attempt history := by
  induction run with
  | start => exact fresh_ordered
  | step before moved ih =>
      rcases moved with ⟨call, follows, rfl, rfl⟩
      rw [List.forall_mem_append] at clear
      exact ordered_step (ih clear.1) follows (clear.2 _ (List.mem_singleton_self _))

end Histories

section Recorded

def minuteLater : JsString := js "2026-01-01T00:01:00.000Z"

def leaseTimes : List (JsString × Int) :=
  recordedTimes ++ [(minuteLater, 1767225660000)]

@[reducible] def leaseEngine : Engine :=
  { shortEngine with
    dateParse := fun text => leaseTimes.lookup text
    toISOString := fun time =>
      ((leaseTimes.find? (fun entry => entry.2 = time)).map Prod.fst).getD [] }

attribute [local instance] leaseEngine

def sampleAcquire (attempt : BoundAttemptV1) (ownerId now expiresAt : JsString) : AcquireLease :=
  { attempt := attempt
    current := none
    leaseId := js "l"
    ownerId := ownerId
    bootId := js "b"
    processId := js "p"
    authorityCursor := sampleCursor
    now := now
    expiresAt := expiresAt }

instance sample_attempt_valid : Fact (JsonPaths.Valid sampleAttempt.toJson ∧
    validateAttemptCore sampleAttempt = .ok ()) := ⟨by decide +kernel⟩

theorem sample_leases_valid (attempt : BoundAttemptV1) (same : attempt.core = sampleAttempt) :
    JsonPaths.Valid ((sampleAcquire attempt (js "one") startOfYear secondLater).granted
        1767225600000 1767225601000).toJson ∧
      JsonPaths.Valid ((sampleAcquire attempt (js "two") secondLater minuteLater).granted
        1767225601000 1767225660000).toJson := by
  simp only [AcquireLease.granted, sampleAcquire, same]
  decide +kernel

theorem sample_granted {attempt : BoundAttemptV1} {lease : LeaseFenceV1}
    {ownerId now expiresAt : JsString} {begins ends : Int} (same : attempt.core = sampleAttempt)
    (from_ : timestamp now = .ok begins) (until_ : timestamp expiresAt = .ok ends) (later : begins < ends)
    (named : ownerId ≠ [])
    (core : lease.core = (sampleAcquire attempt ownerId now expiresAt).granted begins ends) :
    Grants (sampleAcquire attempt ownerId now expiresAt) begins ends lease := by
  refine ⟨?_, from_, until_, later, ⟨?_, named, ?_, ?_⟩, ?_, core⟩
  · exact congrArg BoundAttemptCoreV1.outcome same
  · exact (by decide : js "l" ≠ [])
  · exact (by decide : js "b" ≠ [])
  · exact (by decide : js "p" ≠ [])
  · rintro _ ⟨⟩

end Recorded

end Horseness.LeaseFences
