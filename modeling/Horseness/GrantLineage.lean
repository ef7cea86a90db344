import Horseness.GrantStore
import Horseness.IdealDigests
import Horseness.Lineages

/-!
The grants of a workspace over whole histories. Parents are stored before their children and
stay, so that a lineage is finite and the walk that asks for its activity ends at its root.
-/

namespace Horseness.GrantLineage

open FallibleRuns Records ScriptText JsonValues ScriptEngine ExecutionStore ServiceViews GrantStore
  RecordedRuns JsonText

section States

def Ancestor (state : GrantAuthorityStateV1) : JsString → JsString → Prop :=
  Lineages.Ancestor StoredGrantV1.digest StoredGrantV1.parentGrantDigest state.grants

def Founded (state : GrantAuthorityStateV1) : Prop :=
  Lineages.Founded StoredGrantV1.digest StoredGrantV1.parentGrantDigest state.grants

def Stored (state : GrantAuthorityStateV1) (digest : JsString) : Prop :=
  ∃ stored, state.find digest = some stored

def Revoked (state : GrantAuthorityStateV1) (digest : JsString) : Prop :=
  ∃ stored, state.find digest = some stored ∧ stored.revoked = true

theorem stored_iff (state : GrantAuthorityStateV1) (digest : JsString) :
    Stored state digest ↔ digest ∈ state.grants.map StoredGrantV1.digest :=
  Lineages.lookup_exists_iff

theorem find_digest {state : GrantAuthorityStateV1} {digest : JsString} {stored : StoredGrantV1}
    (found : state.find digest = some stored) : stored.digest = digest :=
  Lineages.lookup_key found

theorem find_mem {state : GrantAuthorityStateV1} {digest : JsString} {stored : StoredGrantV1}
    (found : state.find digest = some stored) : stored ∈ state.grants :=
  Lineages.lookup_mem found

@[simp] theorem mark_digest (grantReference : JsString) (stored : StoredGrantV1) :
    (markRevoked grantReference stored).digest = stored.digest := by
  unfold markRevoked
  split <;> rfl

@[simp] theorem mark_parent (grantReference : JsString) (stored : StoredGrantV1) :
    (markRevoked grantReference stored).parentGrantDigest = stored.parentGrantDigest := by
  unfold markRevoked
  split <;> rfl

@[simp] theorem mark_grant (grantReference : JsString) (stored : StoredGrantV1) :
    (markRevoked grantReference stored).grant = stored.grant := by
  unfold markRevoked
  split <;> rfl

@[simp] theorem mark_reference (grantReference : JsString) (stored : StoredGrantV1) :
    (markRevoked grantReference stored).grantReference = stored.grantReference := by
  unfold markRevoked
  split <;> rfl

theorem mark_revoked (grantReference : JsString) {stored : StoredGrantV1}
    (revoked : stored.revoked = true ∨ stored.grantReference = grantReference) :
    (markRevoked grantReference stored).revoked = true := by
  unfold markRevoked
  split <;> simp_all

end States

section Reading

variable [Engine]

theorem parse_state_iff (state : GrantAuthorityStateV1) : parseState state = .ok () ↔
    (state.grants.map StoredGrantV1.grantReference).Nodup ∧
    (state.grants.map StoredGrantV1.digest).Nodup ∧
    (∀ stored ∈ state.grants, grantDigestOf stored.grant = .ok stored.digest) ∧
    ∀ issuances ∈ state.issuances, ∀ issuance ∈ issuances.values,
      issuance.grantDigest ∈ state.grants.map StoredGrantV1.digest ∧
        (Engine.dateParse issuance.issuedAt).isSome = true := by
  simp only [parseState, List.forM_eq_forM, bind_ok_iff, ensure_ok_iff, forM_ok_iff,
    map_error_ok_iff, Option.mem_toList]
  constructor
  · rintro ⟨_, ⟨references, digests⟩, _, sealed, recorded⟩
    refine ⟨references, digests, ?_, recorded⟩
    intro stored member
    obtain ⟨digest, hashed, rfl⟩ := sealed stored member
    exact hashed
  · rintro ⟨references, digests, sealed, recorded⟩
    exact ⟨(), ⟨references, digests⟩, (), fun stored member => ⟨_, sealed stored member, rfl⟩,
      recorded⟩

def live (now : Int) (stored : StoredGrantV1) : Bool :=
  !stored.revoked && (Engine.dateParse stored.grant.expiresAt).any fun expiry => now < expiry

theorem live_iff (now : Int) (stored : StoredGrantV1) : live now stored = true ↔
    stored.revoked = false ∧ ∃ expiry, Engine.dateParse stored.grant.expiresAt = some expiry ∧
      now < expiry := by
  simp [live, Option.any_eq_true]

theorem active_from_walk (state : GrantAuthorityStateV1) (now : Int) (steps : Nat)
    (seen : List JsString) (stored : StoredGrantV1) :
    activeFrom state now steps seen stored = Lineages.walk StoredGrantV1.digest
      StoredGrantV1.parentGrantDigest (live now) state.grants steps seen stored := by
  induction steps generalizing seen stored with
  | zero => rfl
  | succ steps ih =>
      have dead : live now stored = false ↔ stored.revoked = true ∨
          ¬ ∃ expiry ∈ Engine.dateParse stored.grant.expiresAt, now < expiry := by
        rw [← Bool.not_eq_true, live_iff, not_and_or, Bool.not_eq_false]
        rfl
      rw [activeFrom, Lineages.walk]
      simp only [← or_assoc, ← dead]
      split
      · rfl
      · cases stored.parentGrantDigest with
        | none => rfl
        | some parent =>
            have same : Lineages.lookup StoredGrantV1.digest state.grants parent = state.find parent :=
              rfl
            simp only [same]
            cases state.find parent with
            | none => rfl
            | some next => exact ih _ _

/-- A stored grant is active if and only if it and all its ancestors are neither revoked nor
expired. -/
def Active (state : GrantAuthorityStateV1) (now : Int) (digest : JsString) : Prop :=
  ∀ above stored, Ancestor state digest above → state.find above = some stored →
    stored.revoked = false ∧ ∃ expiry, Engine.dateParse stored.grant.expiresAt = some expiry ∧
      now < expiry

theorem active_in_lineage_iff {clock : JsString} {now : Int} {state : GrantAuthorityStateV1}
    (time : Engine.dateParse clock = some now) (founded : Founded state) {digest : JsString}
    {stored : StoredGrantV1} (found : state.find digest = some stored) :
    activeInLineage clock state stored = true ↔ Active state now digest := by
  simp only [activeInLineage, time, active_from_walk, Active, ← live_iff]
  exact Lineages.walk_whole founded (live now) found

end Reading

section Contents

theorem nullable_meaning {Item : Type} {write : Item → JsValue}
    (known : ∀ left right, meaning (write left) = meaning (write right) → left = right)
    (filled : ∀ item, meaning (write item) ≠ .null) {left right : Option Item}
    (same : meaning (nullable write left) = meaning (nullable write right)) : left = right := by
  cases left with
  | none =>
      cases right with
      | none => rfl
      | some item => exact absurd same.symm (by simpa [nullable, meaning] using filled item)
  | some item =>
      cases right with
      | none => exact absurd same (by simpa [nullable, meaning] using filled item)
      | some other => exact congrArg some (known item other same)

theorem nullable_text_meaning {left right : Option JsString}
    (same : meaning (nullable .str left) = meaning (nullable .str right)) : left = right :=
  nullable_meaning (fun _ _ equal => by simpa [meaning] using equal) (fun _ => by simp [meaning]) same

theorem nullable_natural_meaning {left right : Option Nat}
    (same : meaning (nullable natural left) = meaning (nullable natural right)) : left = right :=
  nullable_meaning (fun _ _ equal => by simpa [natural, meaning, JsNumber.meaning] using equal)
    (fun _ => by simp [natural, meaning, JsNumber.meaning]) same

theorem texts_meaning {left right : List JsString}
    (same : meaning (texts left) = meaning (texts right)) : left = right := by
  simp only [texts, meaning, meaning_items, JsonTree.arr.injEq, List.map_map] at same
  exact List.map_injective_iff.mpr (fun _ _ equal => by simpa [meaning] using equal) same

def contents (grant : AuthenticatedGrantV1) : AuthenticatedGrantV1 := { grant with grantDigest := [] }

theorem grant_contents [Engine] (ideal : Function.Injective Engine.sha256Hex)
    {left right : AuthenticatedGrantV1} {digest : JsString} (first : grantDigestOf left = .ok digest)
    (second : grantDigestOf right = .ok digest) : contents left = contents right := by
  have fields := object_meaning (IdealDigests.digest_meaning ideal first second) rfl
    (by simp only [coreFields, List.map_cons, List.map_nil]; decide +kernel)
  simp only [coreFields, List.map_cons, List.map_nil, List.cons.injEq, and_true, true_and] at fields
  obtain ⟨principal, role, peer, expires, workspace, run, task, attempt, generation, proposal, adapter,
    methods⟩ := fields
  simp only [meaning, JsonTree.str.injEq] at principal role peer expires workspace
  have roles := role_text_injective role
  have allowed := List.map_injective_iff.mpr (fun _ _ => method_text_injective) (texts_meaning methods)
  cases left
  cases right
  simp only [contents, AuthenticatedGrantV1.mk.injEq, and_true]
  exact ⟨principal, roles, peer, workspace, nullable_text_meaning run, nullable_text_meaning task,
    nullable_text_meaning attempt, nullable_natural_meaning generation,
    nullable_text_meaning proposal, nullable_text_meaning adapter, allowed, expires⟩

end Contents

section Issuing

variable [Engine] {clock uuid : JsString} {record next : GrantRecord} {input : IssueGrantV1}
  {parent : Option JsString} {operation : Option GrantOperation} {issued : IssuedGrant}

def recorded (state : GrantAuthorityStateV1) (id : JsString) : Option GrantIssuance :=
  state.issuances.bind fun issuances => issuances.get id

/-- The input is granted: the grant with these contents is there already, under the same
parent, or it is added. -/
structure Grants (clock uuid : JsString) (record : GrantRecord) (input : IssueGrantV1)
    (parent : Option JsString) (operation : Option GrantOperation) (issued : IssuedGrant)
    (next : GrantRecord) : Prop where
  parentActive : ∀ digest ∈ parent, ∃ stored, record.state.find digest = some stored ∧
    activeInLineage clock record.state stored = true
  expires : ∃ expiry, Engine.dateParse input.expiresAt = some expiry ∧
    ∀ now ∈ Engine.dateParse clock, now < expiry
  methods : input.allowed.mapM methodDefinition = some issued.grant.allowedMethods
  sealed : grantDigestOf (input.core issued.grant.allowedMethods) = .ok issued.grant.grantDigest
  grant : issued.grant = { input.core issued.grant.allowedMethods with
    grantDigest := issued.grant.grantDigest }
  revoked : issued.revoked = false
  time : issued.issuedAt = clock
  stored : (∃ existing, record.state.find issued.grant.grantDigest = some existing ∧
      existing.revoked = false ∧ existing.parentGrantDigest = parent ∧
      issued.grantReference = existing.grantReference ∧ next.state.grants = record.state.grants) ∨
    (record.state.find issued.grant.grantDigest = none ∧
      issued.grantReference = js "grant:" ++ uuid ∧
      next.state.grants = record.state.grants ++ [⟨issued.grant, false, issued.grantReference, parent⟩])
  issuances : next.state.issuances = match operation with
    | none => record.state.issuances
    | some operation => some ((record.state.issuances.getD ∅).set operation.id
        ⟨operation.requestDigest, issued.grant.grantDigest, clock⟩)

theorem Grants.own (granted : Grants clock uuid record input parent operation issued next) :
    grantDigestOf issued.grant = .ok issued.grant.grantDigest := by
  rw [granted.grant]
  exact granted.sealed

theorem replace_ok {state : GrantAuthorityStateV1} (replaced : replace record state = .ok next) :
    next.state = state := by
  simp only [replace, bind_ok_iff, pure_ok_iff] at replaced
  obtain ⟨_, -, rfl⟩ := replaced
  rfl

theorem issue_new_ok
    (accepted : issueNew clock uuid record input parent operation = .ok (issued, next)) :
    Grants clock uuid record input parent operation issued next := by
  simp only [issueNew, List.forM_eq_forM, bind_ok_iff, forM_ok_iff, required_ok_iff, ensure_ok_iff,
    map_error_ok_iff, Option.mem_toList] at accepted
  obtain ⟨_, active, methods, defined, _, -, expiry, parsed, _, timely, digest, sealed, _, unspoilt,
    rest⟩ := accepted
  cases found : record.state.find digest with
  | none =>
      simp only [found, Option.map_none, Option.getD_none, Option.isSome_none, Bool.false_eq_true,
        if_false] at rest
      cases operation with
      | none =>
          obtain ⟨after, replaced, ended⟩ := bind_ok_iff.mp rest
          obtain ⟨rfl, rfl⟩ := Prod.mk.inj ((pure_ok_iff _ _).mp ended)
          have written := replace_ok replaced
          exact ⟨active, ⟨expiry, parsed, timely⟩, defined, sealed, rfl, rfl, rfl,
            Or.inr ⟨found, rfl, by rw [written]⟩, by rw [written]⟩
      | some operation =>
          obtain ⟨after, replaced, ended⟩ := bind_ok_iff.mp rest
          obtain ⟨rfl, rfl⟩ := Prod.mk.inj ((pure_ok_iff _ _).mp ended)
          have written := replace_ok replaced
          exact ⟨active, ⟨expiry, parsed, timely⟩, defined, sealed, rfl, rfl, rfl,
            Or.inr ⟨found, rfl, by rw [written]⟩, by rw [written]⟩
  | some existing =>
      obtain ⟨unrevoked, same⟩ := unspoilt existing found
      simp only [found, Option.map_some, Option.getD_some, Option.isSome_some, if_true] at rest
      cases operation with
      | none =>
          obtain ⟨rfl, rfl⟩ := Prod.mk.inj ((pure_ok_iff _ _).mp rest)
          exact ⟨active, ⟨expiry, parsed, timely⟩, defined, sealed, rfl, rfl, rfl,
            Or.inl ⟨existing, found, unrevoked, same, rfl, rfl⟩, rfl⟩
      | some operation =>
          obtain ⟨after, replaced, ended⟩ := bind_ok_iff.mp rest
          obtain ⟨rfl, rfl⟩ := Prod.mk.inj ((pure_ok_iff _ _).mp ended)
          have written := replace_ok replaced
          exact ⟨active, ⟨expiry, parsed, timely⟩, defined, sealed, rfl, rfl, rfl,
            Or.inl ⟨existing, found, unrevoked, same, rfl, by rw [written]⟩, by rw [written]⟩

-- An accepted call repeats what its operation issued before, or it grants its input.
theorem issue_ok {workspaceId : JsString} {authorization : Option ExecutionGrantObservationV1}
    (accepted : issue clock uuid record workspaceId input parent operation authorization =
      .ok (issued, next)) :
    input.workspaceId = workspaceId ∧ parseState record.state = .ok () ∧
    assertMutationAuthority clock record authorization = .ok () ∧
    (∀ asked ∈ operation, asked.id ≠ [] ∧ asked.requestDigest ≠ []) ∧
    ((∃ repeated prior stored, operation = some repeated ∧
        recorded record.state repeated.id = some prior ∧
        prior.requestDigest = repeated.requestDigest ∧
        record.state.find prior.grantDigest = some stored ∧
        issued = ⟨stored.grantReference, stored.grant, stored.revoked, prior.issuedAt⟩ ∧
        next = record) ∨
      ((∀ first ∈ operation, recorded record.state first.id = none) ∧
        Grants clock uuid record input parent operation issued next)) := by
  simp only [issue, bind_ok_iff, ensure_ok_iff] at accepted
  obtain ⟨_, own, _, parsed, _, authorized, before, looked, rest⟩ := accepted
  refine ⟨own, parsed, authorized, ?_⟩
  cases operation with
  | none =>
      obtain rfl : [] = before := by simpa [pure, Except.pure] using looked
      exact ⟨by simp, Or.inr ⟨by simp, issue_new_ok rest⟩⟩
  | some operation =>
      simp only [Option.toList_some, List.mapM_cons, List.mapM_nil, bind_ok_iff, pure_ok_iff]
        at looked
      obtain ⟨answer, asked, _, rfl, rfl⟩ := looked
      simp only [issuedBefore, bind_ok_iff, ensure_ok_iff] at asked
      obtain ⟨_, named, answered⟩ := asked
      refine ⟨by simpa using named, ?_⟩
      rw [← recorded] at answered
      cases known : recorded record.state operation.id with
      | none =>
          rw [known] at answered
          obtain rfl := (pure_ok_iff _ _).mp answered
          exact Or.inr ⟨by simpa using known, issue_new_ok rest⟩
      | some prior =>
          simp only [known, bind_ok_iff, ensure_ok_iff, required_ok_iff, pure_ok_iff] at answered
          obtain ⟨_, same, stored, found, rfl⟩ := answered
          obtain ⟨rfl, rfl⟩ := Prod.mk.inj ((pure_ok_iff _ _).mp rest)
          exact Or.inl ⟨operation, prior, stored, rfl, known, same, found, rfl, rfl⟩

theorem revoke_ok {grantReference : JsString} {authorization : Option ExecutionGrantObservationV1}
    {answer : Bool} (accepted : revoke clock record grantReference authorization = .ok (answer, next)) :
    parseState record.state = .ok () ∧ assertMutationAuthority clock record authorization = .ok () ∧
    ((answer = false ∧ next = record) ∨
      (answer = true ∧ (∃ existing ∈ record.state.grants, existing.grantReference = grantReference) ∧
        next.state = { record.state with
          grants := record.state.grants.map (markRevoked grantReference) })) := by
  simp only [revoke, bind_ok_iff] at accepted
  obtain ⟨_, parsed, _, authorized, rest⟩ := accepted
  refine ⟨parsed, authorized, ?_⟩
  cases found : record.state.grants.find? fun stored => stored.grantReference = grantReference with
  | none =>
      rw [found] at rest
      obtain ⟨rfl, rfl⟩ := Prod.mk.inj ((pure_ok_iff _ _).mp rest)
      exact Or.inl ⟨rfl, rfl⟩
  | some existing =>
      rw [found] at rest
      simp only at rest
      split at rest
      · obtain ⟨rfl, rfl⟩ := Prod.mk.inj ((pure_ok_iff _ _).mp rest)
        exact Or.inl ⟨rfl, rfl⟩
      · obtain ⟨after, replaced, ended⟩ := bind_ok_iff.mp rest
        obtain ⟨rfl, rfl⟩ := Prod.mk.inj ((pure_ok_iff _ _).mp ended)
        exact Or.inr ⟨rfl, ⟨existing, List.mem_of_find?_eq_some found,
          by simpa using List.find?_some found⟩, replace_ok replaced⟩

end Issuing

section Histories

variable {before after later : GrantAuthorityStateV1}

/-- A later state: grants and issuances stay, and what was revoked stays revoked. -/
structure Kept (before after : GrantAuthorityStateV1) : Prop where
  grants : ∀ digest stored, before.find digest = some stored → ∃ current,
    after.find digest = some current ∧ current.grant = stored.grant ∧
      current.grantReference = stored.grantReference ∧
      current.parentGrantDigest = stored.parentGrantDigest ∧
      (stored.revoked = true → current.revoked = true)
  issuances : ∀ id prior, recorded before id = some prior → recorded after id = some prior

theorem Kept.refl (state : GrantAuthorityStateV1) : Kept state state :=
  ⟨fun _ stored found => ⟨stored, found, rfl, rfl, rfl, id⟩, fun _ _ known => known⟩

theorem Kept.trans (first : Kept before after) (second : Kept after later) : Kept before later where
  grants digest stored found := by
    obtain ⟨middle, known, grant, reference, parent, revoked⟩ := first.grants digest stored found
    obtain ⟨current, there, sameGrant, sameReference, sameParent, stays⟩ :=
      second.grants digest middle known
    exact ⟨current, there, sameGrant.trans grant, sameReference.trans reference,
      sameParent.trans parent, fun once => stays (revoked once)⟩
  issuances id prior known := second.issuances id prior (first.issuances id prior known)

theorem Kept.revoked (kept : Kept before after) {digest : JsString} (revoked : Revoked before digest) :
    Revoked after digest := by
  obtain ⟨stored, found, spoilt⟩ := revoked
  obtain ⟨current, there, -, -, -, stays⟩ := kept.grants digest stored found
  exact ⟨current, there, stays spoilt⟩

theorem Kept.ancestor (kept : Kept before after) {digest above : JsString}
    (up : Ancestor before digest above) : Ancestor after digest above := by
  apply Lineages.ancestor_mono _ up
  intro child parent named
  obtain ⟨stored, found, own⟩ := Option.bind_eq_some_iff.mp named
  obtain ⟨current, there, -, -, same, -⟩ := kept.grants child stored found
  exact Option.bind_eq_some_iff.mpr ⟨current, there, same.trans own⟩

theorem initial_founded (grantReference : JsString) (grant : AuthenticatedGrantV1) (revoked : Bool) :
    Founded (initialState grantReference grant revoked) :=
  Lineages.founded_root rfl

theorem marked_kept (state : GrantAuthorityStateV1) (reference : JsString) :
    Kept state { state with grants := state.grants.map (markRevoked reference) } := by
  constructor
  · intro digest stored found
    have marked : (state.grants.map (markRevoked reference)).find? (fun other => other.digest = digest) =
        some (markRevoked reference stored) := by
      have moved : Lineages.lookup StoredGrantV1.digest (state.grants.map (markRevoked reference))
          digest = (state.find digest).map (markRevoked reference) :=
        Lineages.lookup_map (mark_digest reference) digest
      rw [found] at moved
      exact moved
    exact ⟨_, marked, mark_grant _ _, mark_reference _ _, mark_parent _ _,
      fun spoilt => mark_revoked _ (Or.inl spoilt)⟩
  · exact fun _ _ known => known

variable [Engine]

/-- What the code reads back, with every parent before its child. -/
structure Sound (state : GrantAuthorityStateV1) : Prop where
  parsed : parseState state = .ok ()
  founded : Founded state

/-- One call on the store, at a time. -/
inductive GrantCall where
  | issue (uuid : JsString) (input : IssueGrantV1) (parent : Option JsString)
      (operation : Option GrantOperation) (authorization : Option ExecutionGrantObservationV1)
  | revoke (grantReference : JsString) (authorization : Option ExecutionGrantObservationV1)
  | observe (digest : JsString)

def grantStep (workspaceId : JsString) (record : GrantRecord) (input : JsString × GrantCall) :
    Except Failure GrantRecord :=
  match input.2 with
  | .issue uuid asked parent operation authorization => do
      let result ← GrantStore.issue input.1 uuid record workspaceId asked parent operation authorization
      return result.2
  | .revoke grantReference authorization => do
      let result ← GrantStore.revoke input.1 record grantReference authorization
      return result.2
  | .observe digest => do
      let _ ← GrantStore.observe input.1 record digest
      return record

def GrantCall.drawn : GrantCall → Option JsString
  | .issue uuid _ _ _ _ => some uuid
  | _ => none

/-- The clock can be read, and an identifier that is drawn is a new one. -/
def Timed (record : GrantRecord) (input : JsString × GrantCall) : Prop :=
  (Engine.dateParse input.1).isSome = true ∧ ∀ uuid ∈ input.2.drawn,
    js "grant:" ++ uuid ∉ record.state.grants.map StoredGrantV1.grantReference

instance (record : GrantRecord) (input : JsString × GrantCall) : Decidable (Timed record input) :=
  inferInstanceAs (Decidable (_ ∧ _))

theorem grants_sound {clock uuid : JsString} {record next : GrantRecord} {input : IssueGrantV1}
    {parent : Option JsString} {operation : Option GrantOperation} {issued : IssuedGrant}
    (sound : Sound record.state) (granted : Grants clock uuid record input parent operation issued next)
    (readable : (Engine.dateParse clock).isSome = true)
    (fresh : js "grant:" ++ uuid ∉ record.state.grants.map StoredGrantV1.grantReference) :
    Sound next.state := by
  obtain ⟨references, digests, sealed, known⟩ := (parse_state_iff _).mp sound.parsed
  -- The issuances name stored grants, however the list has grown.
  have issuances (grown : record.state.grants.map StoredGrantV1.digest ⊆
      next.state.grants.map StoredGrantV1.digest)
      (own : issued.grant.grantDigest ∈ next.state.grants.map StoredGrantV1.digest) :
      ∀ issuances ∈ next.state.issuances, ∀ issuance ∈ issuances.values,
        issuance.grantDigest ∈ next.state.grants.map StoredGrantV1.digest ∧
          (Engine.dateParse issuance.issuedAt).isSome = true := by
    intro all listed issuance member
    rw [granted.issuances] at listed
    cases operation with
    | none =>
        obtain ⟨stored, time⟩ := known all listed issuance member
        exact ⟨grown stored, time⟩
    | some operation =>
        obtain rfl := Option.some.inj listed
        obtain ⟨id, found⟩ := (Record.mem_values_iff _ _).mp member
        rw [Record.get_set] at found
        split at found
        · obtain rfl := Option.some.inj found
          exact ⟨own, readable⟩
        · cases earlier : record.state.issuances with
          | none => simp [earlier] at found
          | some issuances =>
              rw [earlier] at found
              obtain ⟨stored, time⟩ := known issuances earlier issuance
                ((Record.mem_values_iff _ _).mpr ⟨id, found⟩)
              exact ⟨grown stored, time⟩
  rcases granted.stored with ⟨existing, found, -, -, -, same⟩ | ⟨absent, reference, grown⟩
  · have own : issued.grant.grantDigest ∈ next.state.grants.map StoredGrantV1.digest := by
      rw [same]
      exact (stored_iff _ _).mp ⟨existing, found⟩
    constructor
    · exact (parse_state_iff _).mpr ⟨same ▸ references, same ▸ digests, same ▸ sealed,
        issuances (by rw [same]; exact List.Subset.refl _) own⟩
    · rw [Founded, same]
      exact sound.founded
  · have unused : issued.grant.grantDigest ∉ record.state.grants.map StoredGrantV1.digest := by
      intro member
      obtain ⟨stored, found⟩ := (stored_iff _ _).mpr member
      exact Option.some_ne_none stored (found.symm.trans absent)
    constructor
    · apply (parse_state_iff _).mpr
      refine ⟨?_, ?_, ?_, issuances ?_ ?_⟩
      · rw [grown, List.map_append]
        simpa using references.concat (reference ▸ fresh)
      · rw [grown, List.map_append]
        simpa [StoredGrantV1.digest] using digests.concat unused
      · intro stored member
        rw [grown, List.mem_append, List.mem_singleton] at member
        rcases member with old | rfl
        · exact sealed stored old
        · exact granted.own
      · rw [grown, List.map_append]
        exact List.subset_append_left _ _
      · rw [grown]
        simp [StoredGrantV1.digest]
    · rw [Founded, grown]
      apply Lineages.founded_append sound.founded
      intro name named
      obtain ⟨above, found, -⟩ := granted.parentActive name named
      exact (stored_iff _ _).mp ⟨above, found⟩

theorem grants_kept {clock uuid : JsString} {record next : GrantRecord} {input : IssueGrantV1}
    {parent : Option JsString} {operation : Option GrantOperation} {issued : IssuedGrant}
    (granted : Grants clock uuid record input parent operation issued next)
    (first : ∀ asked ∈ operation, recorded record.state asked.id = none) :
    Kept record.state next.state := by
  constructor
  · intro digest stored found
    rcases granted.stored with ⟨_, -, -, -, -, same⟩ | ⟨absent, -, grown⟩
    · exact ⟨stored, by rw [GrantAuthorityStateV1.find, same]; exact found, rfl, rfl, rfl, id⟩
    · have kept : next.state.find digest = some stored := by
        rw [GrantAuthorityStateV1.find, grown, List.find?_append]
        change (record.state.find digest).or _ = _
        rw [found, Option.some_or]
      exact ⟨stored, kept, rfl, rfl, rfl, id⟩
  · intro name prior known
    rw [recorded, granted.issuances]
    cases operation with
    | none => exact known
    | some operation =>
        have different : operation.id ≠ name := by
          rintro rfl
          exact Option.some_ne_none prior (known.symm.trans (first operation rfl))
        obtain ⟨issuances, there, found⟩ := Option.bind_eq_some_iff.mp known
        simp [there, Record.get_set_other _ _ different, found]

theorem marked_sound {state : GrantAuthorityStateV1} (sound : Sound state) (reference : JsString) :
    Sound { state with grants := state.grants.map (markRevoked reference) } := by
  obtain ⟨references, digests, sealed, known⟩ := (parse_state_iff _).mp sound.parsed
  have sameDigests : (state.grants.map (markRevoked reference)).map StoredGrantV1.digest =
      state.grants.map StoredGrantV1.digest := by simp [Function.comp_def]
  constructor
  · apply (parse_state_iff _).mpr
    refine ⟨by simpa [Function.comp_def] using references, sameDigests ▸ digests, ?_, ?_⟩
    · intro stored member
      obtain ⟨old, there, rfl⟩ := List.mem_map.mp member
      simpa using sealed old there
    · rw [sameDigests]
      exact known
  · exact Lineages.founded_map sound.founded (mark_digest reference) (mark_parent reference)

theorem grant_step {workspaceId : JsString} {record next : GrantRecord} {input : JsString × GrantCall}
    (accepted : grantStep workspaceId record input = .ok next) (sound : Sound record.state)
    (timed : Timed record input) : Sound next.state ∧ Kept record.state next.state := by
  obtain ⟨clock, call⟩ := input
  obtain ⟨readable, fresh⟩ := timed
  cases call with
  | issue uuid asked parent operation authorization =>
      obtain ⟨⟨issued, after⟩, answered, rest⟩ := bind_ok_iff.mp accepted
      obtain rfl := (pure_ok_iff _ _).mp rest
      obtain ⟨-, -, -, -, ⟨_, _, _, -, -, -, -, -, rfl⟩ | ⟨first, granted⟩⟩ := issue_ok answered
      · exact ⟨sound, .refl _⟩
      · exact ⟨grants_sound sound granted readable (fresh uuid rfl), grants_kept granted first⟩
  | revoke reference authorization =>
      obtain ⟨⟨answer, after⟩, answered, rest⟩ := bind_ok_iff.mp accepted
      obtain rfl := (pure_ok_iff _ _).mp rest
      obtain ⟨-, -, ⟨-, rfl⟩ | ⟨-, -, written⟩⟩ := revoke_ok answered
      · exact ⟨sound, .refl _⟩
      · simp only
        rw [written]
        exact ⟨marked_sound sound reference, marked_kept _ reference⟩
  | observe digest =>
      obtain ⟨_, -, rest⟩ := bind_ok_iff.mp accepted
      obtain rfl := (pure_ok_iff _ _).mp rest
      exact ⟨sound, .refl _⟩

theorem grant_run {workspaceId : JsString} {record later : GrantRecord} (sound : Sound record.state)
    (run : Reaches (grantStep workspaceId) Timed record later) :
    Sound later.state ∧ Kept record.state later.state := by
  apply reaches_invariant (fun current => Sound current.state ∧ Kept record.state current.state)
    ⟨sound, .refl _⟩ _ run
  rintro state input after - ⟨still, kept⟩ timed accepted
  obtain ⟨next, more⟩ := grant_step accepted still timed
  exact ⟨next, kept.trans more⟩

end Histories

section Answers

variable [Engine] {clock : JsString} {record : GrantRecord}

theorem observe_some_iff {now : Int} (time : Engine.dateParse clock = some now)
    (sound : Sound record.state) (digest : JsString) (observation : ExecutionGrantObservationV1) :
    observe clock record digest = .ok (some observation) ↔
      ∃ stored, record.state.find digest = some stored ∧ Active record.state now digest ∧
        observation = ⟨stored.grant, record.expectation⟩ := by
  simp only [observe, bind_ok_iff, pure_ok_iff, sound.parsed, exists_const, true_and,
    Option.bind_eq_some_iff]
  constructor
  · rintro ⟨stored, found, answer⟩
    split at answer
    · rename_i active
      exact ⟨stored, found, (active_in_lineage_iff time sound.founded found).mp active,
        (Option.some.inj answer).symm⟩
    · cases answer
  · rintro ⟨stored, found, active, rfl⟩
    have walked := (active_in_lineage_iff time sound.founded found).mpr active
    exact ⟨stored, found, by simp [walked]⟩

theorem lookup_some_iff {now : Int} (time : Engine.dateParse clock = some now)
    (sound : Sound record.state) (peerIdentity grantReference : JsString)
    (grant : AuthenticatedGrantV1) :
    lookupActiveGrant clock record peerIdentity grantReference = .ok (some grant) ↔
      ∃ stored ∈ record.state.grants, stored.grantReference = grantReference ∧
        stored.grant.peerIdentity = peerIdentity ∧ Active record.state now stored.digest ∧
        grant = stored.grant := by
  obtain ⟨references, digests, -⟩ := (parse_state_iff _).mp sound.parsed
  have own {stored : StoredGrantV1} (member : stored ∈ record.state.grants) :
      record.state.find stored.digest = some stored := Lineages.lookup_unique digests member
  simp only [lookupActiveGrant, bind_ok_iff, pure_ok_iff, Option.bind_eq_some_iff]
  constructor
  · rintro ⟨_, -, stored, found, answer⟩
    have member := List.mem_of_find?_eq_some found
    obtain ⟨reference, peer⟩ := by simpa using List.find?_some found
    split at answer
    · rename_i active
      exact ⟨stored, member, reference, peer,
        (active_in_lineage_iff time sound.founded (own member)).mp active,
        (Option.some.inj answer).symm⟩
    · cases answer
  · rintro ⟨stored, member, reference, peer, active, rfl⟩
    have walked := (active_in_lineage_iff time sound.founded (own member)).mpr active
    refine ⟨(), sound.parsed, stored, ?_, by simp [walked]⟩
    -- The reference is that of this grant alone.
    have present : (record.state.grants.find? fun other : StoredGrantV1 =>
        decide (other.grantReference = grantReference ∧
          other.grant.peerIdentity = peerIdentity)).isSome = true :=
      List.find?_isSome.mpr ⟨stored, member, by simpa using ⟨reference, peer⟩⟩
    obtain ⟨other, found⟩ := Option.isSome_iff_exists.mp present
    obtain ⟨sameReference, -⟩ := by simpa using List.find?_some found
    have same := List.inj_on_of_nodup_map references (List.mem_of_find?_eq_some found) member
      (sameReference.trans reference.symm)
    rw [found, same]

theorem inactive_unobserved {now : Int} (time : Engine.dateParse clock = some now)
    (sound : Sound record.state) {digest : JsString} (inactive : ¬ Active record.state now digest) :
    observe clock record digest = .ok none := by
  refine bind_ok_iff.mpr ⟨(), sound.parsed, (pure_ok_iff _ _).mpr ?_⟩
  cases found : record.state.find digest with
  | none => rfl
  | some stored =>
      rw [Option.bind_some, if_neg]
      intro active
      exact inactive ((active_in_lineage_iff time sound.founded found).mp active)

theorem revoked_unobserved (sound : Sound record.state) {digest above : JsString}
    (up : Ancestor record.state digest above) (revoked : Revoked record.state above) (clock : JsString) :
    observe clock record digest = .ok none := by
  obtain ⟨spoilt, there, marked⟩ := revoked
  cases time : Engine.dateParse clock with
  | none =>
      refine bind_ok_iff.mpr ⟨(), sound.parsed, (pure_ok_iff _ _).mpr ?_⟩
      cases record.state.find digest <;> simp [activeInLineage, time]
  | some now =>
      apply inactive_unobserved time sound
      intro active
      obtain ⟨unrevoked, -⟩ := active above spoilt up there
      simp [marked] at unrevoked

theorem revoked_unfound (sound : Sound record.state) {digest above : JsString}
    (up : Ancestor record.state digest above) (revoked : Revoked record.state above)
    (clock peerIdentity grantReference : JsString) (grant : AuthenticatedGrantV1)
    (found : lookupActiveGrant clock record peerIdentity grantReference = .ok (some grant)) :
    grant.grantDigest ≠ digest := by
  obtain ⟨spoilt, there, marked⟩ := revoked
  cases time : Engine.dateParse clock with
  | none =>
      simp only [lookupActiveGrant, bind_ok_iff, pure_ok_iff, activeInLineage, time,
        Bool.false_eq_true, if_false, Option.bind_eq_some_iff, reduceCtorEq, and_false,
        exists_false] at found
  | some now =>
      obtain ⟨stored, -, -, -, active, rfl⟩ := (lookup_some_iff time sound _ _ _).mp found
      rintro rfl
      obtain ⟨unrevoked, -⟩ := active above spoilt up there
      simp [marked] at unrevoked

-- Whom a call returned stays returned: its operation is recorded with the grant.
theorem issued_recorded {workspaceId uuid : JsString} {input : IssueGrantV1} {parent : Option JsString}
    {operation : GrantOperation} {authorization : Option ExecutionGrantObservationV1}
    {issued : IssuedGrant} {next : GrantRecord} (accepted : issue clock uuid record workspaceId input
      parent (some operation) authorization = .ok (issued, next)) :
    ∃ stored, recorded next.state operation.id =
        some ⟨operation.requestDigest, issued.grant.grantDigest, issued.issuedAt⟩ ∧
      next.state.find issued.grant.grantDigest = some stored ∧
      stored.grantReference = issued.grantReference ∧
      (Function.Injective Engine.sha256Hex → stored.grant = issued.grant) := by
  obtain ⟨-, parsed, -, -, ⟨repeated, prior, stored, same, known, request, found, rfl, rfl⟩ |
    ⟨first, granted⟩⟩ := issue_ok accepted
  · obtain rfl := Option.some.inj same
    have own := find_digest found
    refine ⟨stored, ?_, ?_, rfl, fun _ => rfl⟩
    · rw [known]
      change some prior = some ⟨_, stored.digest, prior.issuedAt⟩
      rw [own, ← request]
    · rw [show stored.grant.grantDigest = prior.grantDigest from own, found]
  · have entry : recorded next.state operation.id =
        some ⟨operation.requestDigest, issued.grant.grantDigest, issued.issuedAt⟩ := by
      rw [recorded, granted.issuances, granted.time]
      simp
    rcases granted.stored with ⟨existing, found, -, -, reference, same⟩ | ⟨absent, -, grown⟩
    · have there : next.state.find issued.grant.grantDigest = some existing := by
        rw [GrantAuthorityStateV1.find, same]
        exact found
      refine ⟨existing, entry, there, reference.symm, ?_⟩
      intro ideal
      obtain ⟨-, -, sealed, -⟩ := (parse_state_iff _).mp parsed
      have digest := find_digest found
      have alike := grant_contents ideal (digest ▸ sealed existing (find_mem found)) granted.own
      have both : existing.grant.grantDigest = issued.grant.grantDigest := digest
      calc existing.grant = { contents existing.grant with
              grantDigest := existing.grant.grantDigest } := rfl
        _ = { contents issued.grant with grantDigest := issued.grant.grantDigest } := by
            rw [alike, both]
        _ = issued.grant := rfl
    · refine ⟨⟨issued.grant, false, issued.grantReference, parent⟩, entry, ?_, rfl, fun _ => rfl⟩
      rw [GrantAuthorityStateV1.find, grown, List.find?_append]
      change (record.state.find _).or _ = _
      rw [absent]
      simp [StoredGrantV1.digest]

-- A recorded operation is answered with its grant, and nothing is written.
theorem issue_repeated {workspaceId uuid : JsString} {input : IssueGrantV1} {parent : Option JsString}
    {operation : GrantOperation} {authorization : Option ExecutionGrantObservationV1}
    {prior : GrantIssuance} {stored : StoredGrantV1} (sound : Sound record.state)
    (own : input.workspaceId = workspaceId) (named : operation.id ≠ [] ∧ operation.requestDigest ≠ [])
    (authorized : assertMutationAuthority clock record authorization = .ok ())
    (known : recorded record.state operation.id = some prior)
    (same : prior.requestDigest = operation.requestDigest)
    (found : record.state.find prior.grantDigest = some stored) :
    issue clock uuid record workspaceId input parent (some operation) authorization =
      .ok (⟨stored.grantReference, stored.grant, stored.revoked, prior.issuedAt⟩, record) := by
  have asked : issuedBefore record operation =
      .ok (some ⟨stored.grantReference, stored.grant, stored.revoked, prior.issuedAt⟩) := by
    refine bind_ok_iff.mpr ⟨(), (ensure_ok_iff _ _ _).mpr named, ?_⟩
    rw [← recorded, known]
    refine bind_ok_iff.mpr ⟨(), (ensure_ok_iff _ _ _).mpr same, ?_⟩
    exact bind_ok_iff.mpr ⟨stored, (required_ok_iff _ _ _).mpr found, rfl⟩
  refine bind_ok_iff.mpr ⟨(), (ensure_ok_iff _ _ _).mpr own, ?_⟩
  refine bind_ok_iff.mpr ⟨(), sound.parsed, bind_ok_iff.mpr ⟨(), authorized, ?_⟩⟩
  refine bind_ok_iff.mpr ⟨[some ⟨stored.grantReference, stored.grant, stored.revoked,
    prior.issuedAt⟩], ?_, rfl⟩
  simp [asked, List.mapM_cons, pure, Except.pure]

end Answers

section Lineages

/-- Every parent is stored before its child, and no grant is above itself. -/
def FiniteLineages (state : GrantAuthorityStateV1) : Prop :=
  (∀ front stored rest, state.grants = front ++ stored :: rest →
    ∀ parent ∈ stored.parentGrantDigest, parent ∈ front.map StoredGrantV1.digest) ∧
  ∀ child stored parent, state.find child = some stored → stored.parentGrantDigest = some parent →
    ¬ Ancestor state parent child

theorem finite_lineages {state : GrantAuthorityStateV1} (founded : Founded state) :
    FiniteLineages state := by
  refine ⟨founded, ?_⟩
  intro child stored parent found named
  exact Lineages.ancestor_acyclic founded (Option.bind_eq_some_iff.mpr ⟨stored, found, named⟩)

variable [Engine] {workspaceId : JsString} {start record : GrantRecord}

/-- A grant is returned exactly while it and its ancestors are neither revoked nor expired. -/
def ReturnsActive (record : GrantRecord) : Prop :=
  ∀ clock now, Engine.dateParse clock = some now →
    (∀ digest observation, observe clock record digest = .ok (some observation) ↔
      ∃ stored, record.state.find digest = some stored ∧ Active record.state now digest ∧
        observation = ⟨stored.grant, record.expectation⟩) ∧
    ∀ peerIdentity grantReference grant,
      lookupActiveGrant clock record peerIdentity grantReference = .ok (some grant) ↔
        ∃ stored ∈ record.state.grants, stored.grantReference = grantReference ∧
          stored.grant.peerIdentity = peerIdentity ∧ Active record.state now stored.digest ∧
          grant = stored.grant

/-- Neither the grant nor a descendant is returned, in this state and in those after it. -/
def NeverReturned (workspaceId : JsString) (record : GrantRecord) (above : JsString) : Prop :=
  ∀ later, Reaches (grantStep workspaceId) Timed record later →
    (∀ digest, Ancestor record.state digest above → Ancestor later.state digest above) ∧
    (∀ digest, Ancestor later.state digest above → ∀ clock,
      observe clock later digest = .ok none ∧
      ∀ peerIdentity grantReference grant,
        lookupActiveGrant clock later peerIdentity grantReference = .ok (some grant) →
          grant.grantDigest ≠ digest) ∧
    ∀ clock uuid input parent operation authorization issued next,
      issue clock uuid later workspaceId input parent operation authorization = .ok (issued, next) →
        issued.grant.grantDigest = above → issued.revoked = true

/-- Once an operation has issued a grant, it is answered with it and adds nothing. -/
def AnsweredOnce (workspaceId : JsString) (record : GrantRecord) : Prop :=
  ∀ clock uuid input parent operation authorization issued next,
    Timed record (clock, .issue uuid input parent (some operation) authorization) →
    issue clock uuid record workspaceId input parent (some operation) authorization =
      .ok (issued, next) →
    ∀ later, Reaches (grantStep workspaceId) Timed next later →
      ∀ time fresh again other permission, again.workspaceId = workspaceId →
        assertMutationAuthority time later permission = .ok () →
        ∃ same, issue time fresh later workspaceId again other (some operation) permission =
            .ok (same, later) ∧
          same.grantReference = issued.grantReference ∧
          same.grant.grantDigest = issued.grant.grantDigest ∧ same.issuedAt = issued.issuedAt ∧
          (Function.Injective Engine.sha256Hex → same.grant = issued.grant)

theorem never_returned (sound : Sound record.state) {above : JsString}
    (revoked : Revoked record.state above) : NeverReturned workspaceId record above := by
  intro later run
  obtain ⟨still, kept⟩ := grant_run sound run
  have spoilt := kept.revoked revoked
  refine ⟨fun _ up => kept.ancestor up, ?_, ?_⟩
  · intro digest up clock
    exact ⟨revoked_unobserved still up spoilt clock, revoked_unfound still up spoilt clock⟩
  · rintro clock uuid input parent operation authorization issued next answered rfl
    obtain ⟨current, found, marked⟩ := spoilt
    obtain ⟨-, -, -, -, ⟨_, prior, stored, -, -, -, there, rfl, rfl⟩ | ⟨-, granted⟩⟩ :=
      issue_ok answered
    · have own : stored.grant.grantDigest = prior.grantDigest := find_digest there
      simp only [own] at found
      exact Option.some.inj (there.symm.trans found) ▸ marked
    · rcases granted.stored with ⟨existing, there, unrevoked, -⟩ | ⟨absent, -⟩
      · obtain rfl := Option.some.inj (there.symm.trans found)
        simp [marked] at unrevoked
      · exact absurd (absent.symm.trans found) (by simp)

theorem answered_once (sound : Sound record.state) : AnsweredOnce workspaceId record := by
  intro clock uuid input parent operation authorization issued next timed accepted later run time
    fresh again other permission own authorized
  have step : grantStep workspaceId record (clock, .issue uuid input parent (some operation)
      authorization) = .ok next := bind_ok_iff.mpr ⟨_, accepted, rfl⟩
  obtain ⟨nextSound, -⟩ := grant_step step sound timed
  obtain ⟨still, kept⟩ := grant_run nextSound run
  obtain ⟨-, -, -, named, -⟩ := issue_ok accepted
  obtain ⟨stored, known, found, reference, equal⟩ := issued_recorded accepted
  obtain ⟨current, there, sameGrant, sameReference, -, -⟩ := kept.grants _ _ found
  refine ⟨_, issue_repeated still own (named operation rfl) authorized (kept.issuances _ _ known)
    rfl there, sameReference.trans reference, find_digest there, rfl, ?_⟩
  exact fun ideal => sameGrant.trans (equal ideal)

/-- The lineages of a workspace's grants, in every state that its calls can reach. -/
theorem grant_lineages {grantReference : JsString} {grant : AuthenticatedGrantV1} {revoked : Bool}
    (initial : start.state = initialState grantReference grant revoked)
    (valid : parseState start.state = .ok ())
    (reached : Reaches (grantStep workspaceId) Timed start record) :
    FiniteLineages record.state ∧ ReturnsActive record ∧
    (∀ above, Revoked record.state above → NeverReturned workspaceId record above) ∧
    (∀ clock reference authorization next, GrantStore.revoke clock record reference authorization =
      .ok (true, next) → ∃ stored ∈ record.state.grants, stored.grantReference = reference ∧
        Revoked next.state stored.digest ∧ NeverReturned workspaceId next stored.digest) ∧
    AnsweredOnce workspaceId record := by
  have founded : Founded start.state := initial ▸ initial_founded grantReference grant revoked
  obtain ⟨sound, -⟩ := grant_run ⟨valid, founded⟩ reached
  refine ⟨finite_lineages sound.founded, ?_, fun _ spoilt => never_returned sound spoilt, ?_,
    answered_once sound⟩
  · intro clock now time
    exact ⟨observe_some_iff time sound, lookup_some_iff time sound⟩
  · intro clock reference authorization next answered
    obtain ⟨-, -, ⟨different, -⟩ | ⟨-, ⟨stored, member, named⟩, written⟩⟩ := revoke_ok answered
    · cases different
    · obtain ⟨-, digests, -⟩ := (parse_state_iff _).mp sound.parsed
      have found : record.state.find stored.digest = some stored :=
        Lineages.lookup_unique digests member
      have marked : Revoked next.state stored.digest := by
        refine ⟨markRevoked reference stored, ?_, mark_revoked _ (Or.inr named)⟩
        rw [written]
        exact (Lineages.lookup_map (mark_digest reference) _).trans (congrArg _ found)
      exact ⟨stored, member, named, marked,
        never_returned (written ▸ marked_sound sound reference) marked⟩

end Lineages

section Recorded

def ownerGrant : AuthenticatedGrantV1 where
  principalId := js "owner"
  principalRole := .authority
  peerIdentity := js "owner"
  workspaceId := js "w"
  runId := none
  taskId := none
  attemptId := none
  generation := none
  proposalId := none
  adapterId := none
  allowedMethods := [.grantDelegate, .grantIssue, .taskGet]
  expiresAt := secondLater
  grantDigest := js "10a4752308a1e52b98de645f4e3be175ec4a52384a13f7d9de2902ab745aad83"

def helperInput : IssueGrantV1 where
  peerIdentity := js "owner"
  principalId := js "helper"
  principalRole := .authority
  workspaceId := js "w"
  runId := none
  taskId := none
  attemptId := none
  generation := none
  proposalId := none
  adapterId := none
  allowedMethods := [js "task.get.v1"]
  expiresAt := secondLater

def helperDigest : JsString :=
  js "c308cdd5164b457b4cf6ec1632dbf1852a4a472030409cb3d4b91a6d24c9e607"

def ownerState (revoked : Bool) : GrantAuthorityStateV1 :=
  ⟨[⟨ownerGrant, revoked, js "grant:r", none⟩,
      ⟨{ helperInput.core [.taskGet] with grantDigest := helperDigest }, false, js "grant:u",
        some ownerGrant.grantDigest⟩],
    some (Record.empty.set (js "op") ⟨js "d", helperDigest, startOfYear⟩)⟩

def grantDigests : List (JsString × JsString) :=
  let text {Value : Type} (domain : String) (json : Value → JsValue) (value : Value) : JsString :=
    js domain ++ 0 :: @serialize recordedEngine.toNumberFormat (json value)
  [(text "horseness.daemon-grant.v1" (fun grant => object (coreFields grant)) ownerGrant,
      ownerGrant.grantDigest),
    (text "horseness.daemon-grant.v1" (fun grant => object (coreFields grant))
      (helperInput.core [.taskGet]), helperDigest),
    (text "horseness.workspace-authority-state.v1" GrantAuthorityStateV1.toJson (ownerState false),
      js "29b74736b39d31909125ad69fb26e8bbb67470f7820bfa52c229d41c120c79fd"),
    (text "horseness.workspace-authority-state.v1" GrantAuthorityStateV1.toJson (ownerState true),
      js "ab58d156c4c2e9ffc34736050fc7ce411f80144819ac67b72767f76d8986e344")]

@[reducible] def grantEngine : Engine :=
  { recordedEngine with sha256Hex := IdealDigests.tableDigest grantDigests }

attribute [local instance] grantEngine

def ownerRecord : GrantRecord := ⟨1, [], initialState (js "grant:r") ownerGrant false⟩

def ownerRun : Except Failure GrantRecord :=
  [(startOfYear, GrantCall.issue (js "u") helperInput (some ownerGrant.grantDigest)
      (some ⟨js "op", js "d"⟩) none),
    (startOfYear, GrantCall.revoke (js "grant:r") none)].foldlM
    (guardedStep (grantStep (js "w")) (fun record input => decide (Timed record input)) plainError)
    ownerRecord

def revokedRecord : GrantRecord := finalOf ownerRecord ownerRun

theorem owner_run_reaches : Reaches (grantStep (js "w")) Timed ownerRecord revokedRecord := by
  have ended : endsIn (fun record => record.state.grants.length = 2) ownerRun = true := by
    decide +kernel
  obtain ⟨run, -⟩ := ends_in_final ownerRecord ended
  have reached : Reaches (grantStep (js "w")) (fun record input => decide (Timed record input) = true)
      ownerRecord revokedRecord := guarded_reaches _ _ _ run
  refine reaches_weaken ?_ reached
  intro record input timed
  simpa using timed

theorem grant_lineages_owner : FiniteLineages revokedRecord.state ∧ ReturnsActive revokedRecord ∧
    (∀ above, Revoked revokedRecord.state above → NeverReturned (js "w") revokedRecord above) ∧
    (∀ clock reference authorization next,
      GrantStore.revoke clock revokedRecord reference authorization = .ok (true, next) →
        ∃ stored ∈ revokedRecord.state.grants, stored.grantReference = reference ∧
          Revoked next.state stored.digest ∧ NeverReturned (js "w") next stored.digest) ∧
    AnsweredOnce (js "w") revokedRecord := by
  have readable : endsIn (fun _ => true) (parseState ownerRecord.state) = true := by decide +kernel
  obtain ⟨_, valid, -⟩ := ends_in_exists readable
  exact grant_lineages rfl valid owner_run_reaches

end Recorded

end Horseness.GrantLineage
