import Mathlib.Data.List.Dedup
import Horseness.GrantRequests

/-!
What a request for a grant is answered with, in every history of requests: the grant that was
asked for, under the parent that was named. A delegated grant says no more than its parent, and
so no more than any grant above it in a chain of delegations.
-/

namespace Horseness.GrantAttenuation

open FallibleRuns Records ScriptText JsonValues JsonText ScriptEngine Canonical Cursors TaskPlans
  ExecutionStore ServiceViews GrantStore GrantLineage GrantRequests IdealDigests RecordedRuns

section Narrowing

/-- Bound wherever the other is, and to the same. -/
structure Narrows (child parent : GrantBindings) : Prop where
  runId : ∀ own ∈ parent.runId, child.runId = some own
  taskId : ∀ own ∈ parent.taskId, child.taskId = some own
  attemptId : ∀ own ∈ parent.attemptId, child.attemptId = some own
  generation : ∀ own ∈ parent.generation, child.generation = some own
  proposalId : ∀ own ∈ parent.proposalId, child.proposalId = some own
  adapterId : ∀ own ∈ parent.adapterId, child.adapterId = some own

theorem Narrows.refl (bindings : GrantBindings) : Narrows bindings bindings :=
  ⟨fun _ own => own, fun _ own => own, fun _ own => own, fun _ own => own, fun _ own => own,
    fun _ own => own⟩

theorem Narrows.trans {child middle parent : GrantBindings} (first : Narrows child middle)
    (second : Narrows middle parent) : Narrows child parent where
  runId own bound := first.runId own (second.runId own bound)
  taskId own bound := first.taskId own (second.taskId own bound)
  attemptId own bound := first.attemptId own (second.attemptId own bound)
  generation own bound := first.generation own (second.generation own bound)
  proposalId own bound := first.proposalId own (second.proposalId own bound)
  adapterId own bound := first.adapterId own (second.adapterId own bound)

def selectedBindings (scope : List (JsString × JsValue)) : GrantBindings :=
  ⟨scopeText scope "runId", scopeText scope "taskId", scopeText scope "attemptId",
    scopeGeneration scope, scopeText scope "proposalId", scopeText scope "adapterId"⟩

theorem bind_text_ok {scope : List (JsString × JsValue)} {key : String}
    {limits : List (Option JsString)} {selected : Option JsString}
    (bound : bindText scope key limits = .ok selected) :
    selected = scopeText scope key ∧ within selected limits := by
  simp only [bindText, bind_ok_iff, ensure_ok_iff, pure_ok_iff] at bound
  obtain ⟨_, -, _, inside, rfl⟩ := bound
  exact ⟨rfl, inside⟩

theorem bind_generation_ok {scope : List (JsString × JsValue)} {limits : List (Option Nat)}
    {selected : Option Nat} (bound : bindGeneration scope limits = .ok selected) :
    selected = scopeGeneration scope ∧ within selected limits := by
  simp only [bindGeneration, bind_ok_iff, ensure_ok_iff, pure_ok_iff] at bound
  obtain ⟨_, -, _, inside, rfl⟩ := bound
  exact ⟨rfl, inside⟩

theorem bind_scope_ok {scope : List (JsString × JsValue)} {limits : List GrantBindings}
    {bindings : GrantBindings} (bound : bindScope scope limits = .ok bindings) :
    bindings = selectedBindings scope ∧ ∀ limit ∈ limits, Narrows bindings limit := by
  simp only [bindScope, bind_ok_iff, pure_ok_iff] at bound
  obtain ⟨run, runs, task, tasks, attempt, attempts, proposal, proposals, adapter, adapters,
    generation, generations, rfl⟩ := bound
  obtain ⟨rfl, runInside⟩ := bind_text_ok runs
  obtain ⟨rfl, taskInside⟩ := bind_text_ok tasks
  obtain ⟨rfl, attemptInside⟩ := bind_text_ok attempts
  obtain ⟨rfl, proposalInside⟩ := bind_text_ok proposals
  obtain ⟨rfl, adapterInside⟩ := bind_text_ok adapters
  obtain ⟨rfl, generationInside⟩ := bind_generation_ok generations
  refine ⟨rfl, ?_⟩
  intro limit member
  exact ⟨runInside _ (List.mem_map_of_mem member), taskInside _ (List.mem_map_of_mem member),
    attemptInside _ (List.mem_map_of_mem member), generationInside _ (List.mem_map_of_mem member),
    proposalInside _ (List.mem_map_of_mem member), adapterInside _ (List.mem_map_of_mem member)⟩

variable [Engine]

/-- The grant expires no later, and is bound wherever the other is. -/
structure Bounded (child parent : AuthenticatedGrantV1) : Prop where
  expiry : ∀ limit, Engine.dateParse parent.expiresAt = some limit →
    ∃ expires, Engine.dateParse child.expiresAt = some expires ∧ expires ≤ limit
  bindings : Narrows (bindingsOf child) (bindingsOf parent)

theorem Bounded.refl (grant : AuthenticatedGrantV1) : Bounded grant grant :=
  ⟨fun limit parsed => ⟨limit, parsed, le_rfl⟩, .refl _⟩

theorem Bounded.trans {child middle parent : AuthenticatedGrantV1} (first : Bounded child middle)
    (second : Bounded middle parent) : Bounded child parent where
  expiry limit parsed := by
    obtain ⟨between, known, below⟩ := second.expiry limit parsed
    obtain ⟨expires, own, lower⟩ := first.expiry between known
    exact ⟨expires, own, lower.trans below⟩
  bindings := first.bindings.trans second.bindings

/-- The grant allows no more than the other, for the same role. -/
structure Attenuates (child parent : AuthenticatedGrantV1) : Prop where
  methods : child.allowedMethods ⊆ parent.allowedMethods
  role : child.principalRole = parent.principalRole
  bounded : Bounded child parent

theorem Attenuates.refl (grant : AuthenticatedGrantV1) : Attenuates grant grant :=
  ⟨List.Subset.refl _, rfl, .refl grant⟩

theorem Attenuates.trans {child middle parent : AuthenticatedGrantV1}
    (first : Attenuates child middle) (second : Attenuates middle parent) :
    Attenuates child parent :=
  ⟨List.Subset.trans first.methods second.methods, first.role.trans second.role,
    first.bounded.trans second.bounded⟩

end Narrowing

section Wanted

def wanted (params : GrantParams) (principalId : JsString) (role : PrincipalRole) :
    Option AuthenticatedGrantV1 := do
  let actions ← readActions params.actions
  let input := grantInput params principalId role actions (selectedBindings params.resourceScope)
  let methods ← input.allowed.mapM methodDefinition
  return input.core methods

def treeText : JsonTree → Option JsString
  | .str text => some text
  | _ => none

def treeGeneration : JsonTree → Option Nat
  | .num value =>
      if value.den = 1 ∧ 1 ≤ value.num ∧ value.num ≤ maxSafeInteger then some value.num.toNat
      else none
  | _ => none

theorem scope_text_tree (scope : List (JsString × JsValue)) (key : String) :
    scopeText scope key = ((findEntry (js key) scope).map meaning).bind treeText := by
  unfold scopeText
  cases findEntry (js key) scope with
  | none => rfl
  | some value =>
      cases value with
      | num number => cases number <;> rfl
      | _ => rfl

theorem scope_generation_tree (scope : List (JsString × JsValue)) :
    scopeGeneration scope = ((findEntry (js "generation") scope).map meaning).bind treeGeneration := by
  unfold scopeGeneration
  cases findEntry (js "generation") scope with
  | none => rfl
  | some value =>
      cases value with
      | num number => cases number <;> simp [meaning, JsNumber.meaning, treeGeneration]
      | _ => rfl

theorem read_actions_tree (actions : List JsValue) :
    readActions actions = (actions.map meaning).mapM treeText := by
  rw [readActions, List.mapM_map]
  congr 1
  funext action
  cases action with
  | num number => cases number <;> rfl
  | _ => rfl

theorem wanted_meaning {left right : GrantParams} (workspace : left.workspaceId = right.workspaceId)
    (expires : left.expiresAt = right.expiresAt)
    (actions : meaning (.arr left.actions) = meaning (.arr right.actions))
    (scopes : meaning (.obj .object left.resourceScope) = meaning (.obj .object right.resourceScope))
    (principalId : JsString) (role : PrincipalRole) :
    wanted left principalId role = wanted right principalId role := by
  have entries (key : String) : (findEntry (js key) left.resourceScope).map meaning =
      (findEntry (js key) right.resourceScope).map meaning := by
    have found := congrFun (JsonTree.obj.inj scopes) (js key)
    simpa only [meaning_fields] using found
  have listed : readActions left.actions = readActions right.actions := by
    simp only [meaning, meaning_items, JsonTree.arr.injEq] at actions
    rw [read_actions_tree, read_actions_tree, actions]
  have texts (key : String) :
      scopeText left.resourceScope key = scopeText right.resourceScope key := by
    rw [scope_text_tree, scope_text_tree, entries]
  have generation : scopeGeneration left.resourceScope = scopeGeneration right.resourceScope := by
    rw [scope_generation_tree, scope_generation_tree, entries]
  simp only [wanted, grantInput, selectedBindings, listed, texts, generation, workspace, expires]

theorem params_meaning {left right : GrantParams} {method : ProtocolMethodV1}
    {first second : List (String × JsValue)}
    (same : meaning (left.toJson method first) = meaning (right.toJson method second))
    (names : first.map Prod.fst = second.map Prod.fst)
    (unique : ((first.map Prod.fst ++ ["operationId", "actions", "resourceScope", "expiresAt"]).map
      js).Nodup) :
    left.workspaceId = right.workspaceId ∧ left.expiresAt = right.expiresAt ∧
      meaning (.arr left.actions) = meaning (.arr right.actions) ∧
      meaning (.obj .object left.resourceScope) = meaning (.obj .object right.resourceScope) ∧
      first.map (fun field => meaning field.2) = second.map (fun field => meaning field.2) := by
  have outer := object_meaning same rfl
    (by simp only [List.map_cons, List.map_nil]; decide)
  simp only [List.map_cons, List.map_nil, List.cons.injEq, true_and, and_true] at outer
  obtain ⟨-, -, bodies⟩ := outer
  have middle := object_meaning bodies rfl
    (by simp only [List.map_cons, List.map_nil]; decide)
  simp only [List.map_cons, List.map_nil, List.cons.injEq, true_and, and_true] at middle
  obtain ⟨workspace, inputs⟩ := middle
  have inner := object_meaning inputs rfl
    (by simp only [List.map_cons, List.map_nil]; decide)
  simp only [List.map_cons, List.map_nil, List.cons.injEq, true_and, and_true] at inner
  have values := object_meaning inner (by simp [names]) (by simpa [List.map_map, Function.comp_def]
    using unique)
  rw [List.map_append, List.map_append] at values
  obtain ⟨own, rest⟩ := List.append_inj values (by
    have sized := congrArg List.length names
    simpa using sized)
  simp only [List.map_cons, List.map_nil, List.cons.injEq, and_true] at rest
  obtain ⟨-, actions, scopes, expires⟩ := rest
  simp only [meaning, JsonTree.str.injEq] at workspace expires
  exact ⟨workspace, expires, actions, scopes, own⟩

variable [Engine]

theorem domains_apart (ideal : Function.Injective Engine.sha256Hex) {first second digest : JsString}
    {left right : JsValue} (one : domainDigest first left = .ok digest)
    (other : domainDigest second right = .ok digest) (plain : 0 ∉ first ∧ 0 ∉ second) :
    first = second := by
  have texts := ideal (((digest_ok_iff first left digest).mp one).2.trans
    ((digest_ok_iff second right digest).mp other).2.symm)
  -- A domain ends where the text has its first zero.
  have ends {domain : JsString} (clean : 0 ∉ domain) (rest : JsString) :
      (domain ++ 0 :: rest).takeWhile (fun unit => unit ≠ 0) = domain := by
    rw [List.takeWhile_append_of_pos]
    · simp
    · intro unit member
      have nonzero : unit ≠ 0 := fun zero => clean (zero ▸ member)
      simpa using nonzero
  rw [← ends plain.1, texts, ends plain.2]

theorem issue_wanted (ideal : Function.Injective Engine.sha256Hex) {left right : IssueRequestV1}
    {domain digest : JsString} (first : domainDigest domain left.toJson = .ok digest)
    (second : domainDigest domain right.toJson = .ok digest) :
    left.principalRole = right.principalRole ∧ ∀ role,
      wanted left.params left.principalId role = wanted right.params right.principalId role := by
  obtain ⟨workspace, expires, actions, scopes, own⟩ := params_meaning
    (digest_meaning ideal first second) rfl (by
      simp only [List.map_cons, List.map_nil, List.cons_append, List.nil_append]
      decide)
  simp only [List.map_cons, List.map_nil, List.cons.injEq, and_true, meaning,
    JsonTree.str.injEq] at own
  obtain ⟨principal, role⟩ := own
  refine ⟨role, fun role => ?_⟩
  rw [principal]
  exact wanted_meaning workspace expires actions scopes _ role

theorem delegate_wanted (ideal : Function.Injective Engine.sha256Hex) {left right : DelegateRequestV1}
    {domain digest : JsString} (first : domainDigest domain left.toJson = .ok digest)
    (second : domainDigest domain right.toJson = .ok digest) :
    left.parentGrantDigest = right.parentGrantDigest ∧ ∀ role,
      wanted left.params left.delegatePrincipalId role =
        wanted right.params right.delegatePrincipalId role := by
  obtain ⟨workspace, expires, actions, scopes, own⟩ := params_meaning
    (digest_meaning ideal first second) rfl (by
      simp only [List.map_cons, List.map_nil, List.cons_append, List.nil_append]
      decide)
  simp only [List.map_cons, List.map_nil, List.cons.injEq, and_true, meaning,
    JsonTree.str.injEq] at own
  obtain ⟨parent, principal⟩ := own
  refine ⟨parent, fun role => ?_⟩
  rw [principal]
  exact wanted_meaning workspace expires actions scopes _ role

end Wanted

section Answers

variable [Engine] {clock uuid workspaceId : JsString} {record next : GrantRecord}
  {context : AuthenticatedGrantV1} {authorization : ExecutionGrantObservationV1}
  {issued : IssuedGrant}

def ActiveNow (clock : JsString) (record : GrantRecord) (digest : JsString)
    (grant : AuthenticatedGrantV1) : Prop :=
  ∃ stored, record.state.find digest = some stored ∧ stored.grant = grant ∧
    activeInLineage clock record.state stored = true

theorem observe_active {digest : JsString} {observation : ExecutionGrantObservationV1}
    (observed : observe clock record digest = .ok (some observation)) :
    ActiveNow clock record digest observation.grant ∧
      observation.expectation = record.expectation := by
  simp only [observe, bind_ok_iff, pure_ok_iff, Option.bind_eq_some_iff] at observed
  obtain ⟨_, -, stored, found, answer⟩ := observed
  split at answer
  · rename_i active
    obtain rfl := Option.some.inj answer
    exact ⟨⟨stored, found, rfl, active⟩, rfl⟩
  · cases answer

theorem active_grant_ok {digest : JsString} {grant : AuthenticatedGrantV1}
    (accepted : activeGrant clock record digest = .ok grant) : ActiveNow clock record digest grant := by
  simp only [activeGrant, bind_ok_iff, required_ok_iff, pure_ok_iff] at accepted
  obtain ⟨_, observed, observation, rfl, rfl⟩ := accepted
  exact (observe_active observed).1

theorem ActiveNow.expiry {digest : JsString} {grant : AuthenticatedGrantV1}
    (active : ActiveNow clock record digest grant) :
    ∃ limit, Engine.dateParse grant.expiresAt = some limit := by
  obtain ⟨stored, -, rfl, walked⟩ := active
  unfold activeInLineage at walked
  split at walked
  · cases walked
  · rw [activeFrom] at walked
    split at walked
    · cases walked
    · rename_i alive
      simp only [not_or, Decidable.not_not] at alive
      obtain ⟨-, ⟨expiry, parsed, -⟩, -⟩ := alive
      exact ⟨expiry, parsed⟩

theorem authorize_ok {method : ProtocolMethodV1} {requested : JsString}
    {cursor : WorkspaceOnlyCursorV1}
    (accepted : authorizeRequest clock record context method requested cursor = .ok authorization) :
    ActiveNow clock record context.grantDigest authorization.grant := by
  simp only [authorizeRequest, bind_ok_iff, ensure_ok_iff, required_ok_iff, pure_ok_iff] at accepted
  obtain ⟨_, -, _, -, _, observed, observation, rfl, _, -, rfl⟩ := accepted
  exact (observe_active observed).1

/-- What the handler of `grant.issue.v1` has checked when it calls the store. -/
structure Issuing (clock uuid workspaceId : JsString) (record : GrantRecord)
    (context : AuthenticatedGrantV1) (authorization : ExecutionGrantObservationV1)
    (request : IssueRequestV1) (role : PrincipalRole) (actions : List JsString)
    (issuer : AuthenticatedGrantV1) (requestDigest : JsString) (issued : IssuedGrant)
    (next : GrantRecord) : Prop where
  named : readRole request.principalRole = some role
  listed : readActions request.params.actions = some actions
  active : ActiveNow clock record context.grantDigest issuer
  expiry : ∃ expires, Engine.dateParse request.params.expiresAt = some expires ∧
    ∀ limit ∈ Engine.dateParse issuer.expiresAt, expires ≤ limit
  bindings : Narrows (selectedBindings request.params.resourceScope) (bindingsOf issuer)
  digested : domainDigest (js "horseness.grant-issue-request.v1") request.toJson = .ok requestDigest
  stored : issue clock uuid record workspaceId (grantInput request.params request.principalId role
      actions (selectedBindings request.params.resourceScope)) none
    (some ⟨js "grant.issue:" ++ context.principalId ++ js ":" ++ request.params.operationId,
      requestDigest⟩) (some authorization) = .ok (issued, next)

theorem grant_issue_ok {request : IssueRequestV1} (accepted : grantIssue clock uuid record workspaceId
      context authorization request = .ok (issued, next)) :
    ∃ role actions issuer requestDigest, Issuing clock uuid workspaceId record context authorization
      request role actions issuer requestDigest issued next := by
  simp only [grantIssue, bind_ok_iff, ensure_ok_iff, required_ok_iff, map_error_ok_iff] at accepted
  obtain ⟨_, -, actions, read, _, -, role, named, issuer, found, expires, parsed, _, timely, _, -,
    bindings, bound, requestDigest, digested, stored⟩ := accepted
  obtain ⟨rfl, narrow⟩ := bind_scope_ok bound
  exact ⟨role, actions, issuer, requestDigest, named, read, active_grant_ok found,
    ⟨expires, parsed, timely⟩, narrow _ (List.mem_singleton_self _), digested, stored⟩

/-- What the handler of `grant.delegate.v1` has checked when it calls the store. -/
structure Delegating (clock uuid workspaceId : JsString) (record : GrantRecord)
    (context : AuthenticatedGrantV1) (authorization : ExecutionGrantObservationV1)
    (request : DelegateRequestV1) (actions : List JsString) (parent : AuthenticatedGrantV1)
    (requestDigest : JsString) (issued : IssuedGrant) (next : GrantRecord) : Prop where
  listed : readActions request.params.actions = some actions
  active : ActiveNow clock record request.parentGrantDigest parent
  expiry : ∃ expires, Engine.dateParse request.params.expiresAt = some expires ∧
    ∀ limit ∈ Engine.dateParse parent.expiresAt,
      ∀ other ∈ Engine.dateParse authorization.grant.expiresAt, expires ≤ min limit other
  below : Narrows (selectedBindings request.params.resourceScope) (bindingsOf parent)
  bindings : Narrows (selectedBindings request.params.resourceScope)
    (bindingsOf authorization.grant)
  allowed : ∀ action ∈ actions, action ∈ parent.allowedMethods.map ProtocolMethodV1.text
  digested : domainDigest (js "horseness.grant-delegate-request.v1") request.toJson =
    .ok requestDigest
  stored : issue clock uuid record workspaceId (grantInput request.params request.delegatePrincipalId
      parent.principalRole actions (selectedBindings request.params.resourceScope))
    (some request.parentGrantDigest)
    (some ⟨js "grant.delegate:" ++ context.principalId ++ js ":" ++ request.params.operationId,
      requestDigest⟩) (some authorization) = .ok (issued, next)

theorem grant_delegate_ok {request : DelegateRequestV1} (accepted : grantDelegate clock uuid record
      workspaceId context authorization request = .ok (issued, next)) :
    ∃ actions parent requestDigest, Delegating clock uuid workspaceId record context authorization
      request actions parent requestDigest issued next := by
  simp only [grantDelegate, bind_ok_iff, ensure_ok_iff, required_ok_iff, map_error_ok_iff] at accepted
  obtain ⟨_, -, actions, read, _, -, parent, found, expires, parsed, _, timely, bindings, bound, _,
    allowed, requestDigest, digested, stored⟩ := accepted
  obtain ⟨rfl, narrow⟩ := bind_scope_ok bound
  exact ⟨actions, parent, requestDigest, read, active_grant_ok found, ⟨expires, parsed, timely⟩,
    narrow _ (List.mem_cons_self ..), narrow _ (List.mem_cons_of_mem _ (List.mem_cons_self ..)),
    allowed, digested, stored⟩

end Answers

section Origins

variable [Engine] {clock uuid workspaceId : JsString} {record next : GrantRecord}

/-- Which request an issuance answered, and that its grant is the one asked for. -/
inductive Origin (state : GrantAuthorityStateV1) (prior : GrantIssuance) : Prop
  | issued (request : IssueRequestV1) (role : PrincipalRole) (stored : StoredGrantV1)
      (digested : domainDigest (js "horseness.grant-issue-request.v1") request.toJson =
        .ok prior.requestDigest)
      (named : readRole request.principalRole = some role)
      (found : state.find prior.grantDigest = some stored)
      (asked : wanted request.params request.principalId role = some (contents stored.grant))
  | delegated (request : DelegateRequestV1) (parent stored : StoredGrantV1)
      (digested : domainDigest (js "horseness.grant-delegate-request.v1") request.toJson =
        .ok prior.requestDigest)
      (above : state.find request.parentGrantDigest = some parent)
      (found : state.find prior.grantDigest = some stored)
      (below : stored.parentGrantDigest = some request.parentGrantDigest)
      (asked : wanted request.params request.delegatePrincipalId parent.grant.principalRole =
        some (contents stored.grant))
  | produced (request : ProducerRequest)
      (digested : domainDigest (js "horseness.task-producer-grant.v1")
        (ProducerRequest.toJson request) = .ok prior.requestDigest)

def Traced (state : GrantAuthorityStateV1) : Prop :=
  ∀ id prior, recorded state id = some prior → Origin state prior

theorem Origin.kept {before after : GrantAuthorityStateV1} {prior : GrantIssuance}
    (origin : Origin before prior) (kept : Kept before after) : Origin after prior := by
  cases origin with
  | issued request role stored digested named found asked =>
      obtain ⟨current, there, same, -⟩ := kept.grants _ _ found
      exact .issued request role current digested named there (same ▸ asked)
  | delegated request parent stored digested above found below asked =>
      obtain ⟨current, there, same, -, sameParent, -⟩ := kept.grants _ _ found
      obtain ⟨top, known, sameTop, -⟩ := kept.grants _ _ above
      exact .delegated request top current digested known there (sameParent.trans below)
        (by rw [sameTop, same]; exact asked)
  | produced request digested => exact .produced request digested

-- The grant with the contents of the answer is stored, under the parent.
theorem granted_stored {input : IssueGrantV1} {parent : Option JsString}
    {operation : Option GrantOperation} {issued : IssuedGrant}
    (ideal : Function.Injective Engine.sha256Hex) (sound : Sound record.state)
    (granted : Grants clock uuid record input parent operation issued next) :
    ∃ stored, next.state.find issued.grant.grantDigest = some stored ∧
      stored.parentGrantDigest = parent ∧ contents stored.grant = contents issued.grant := by
  rcases granted.stored with ⟨existing, found, -, same, -, kept⟩ | ⟨absent, -, grown⟩
  · obtain ⟨-, -, sealed, -⟩ := (parse_state_iff _).mp sound.parsed
    have own : existing.digest = issued.grant.grantDigest := find_digest found
    refine ⟨existing, ?_, same,
      grant_contents ideal (own ▸ sealed existing (find_mem found)) granted.own⟩
    rw [GrantAuthorityStateV1.find, kept]
    exact found
  · refine ⟨⟨issued.grant, false, issued.grantReference, parent⟩, ?_, rfl, rfl⟩
    rw [GrantAuthorityStateV1.find, grown, List.find?_append]
    change (record.state.find _).or _ = _
    rw [absent]
    simp [StoredGrantV1.digest]

theorem granted_wanted {params : GrantParams} {principalId : JsString} {role : PrincipalRole}
    {actions : List JsString} {parent : Option JsString} {operation : Option GrantOperation}
    {issued : IssuedGrant} (listed : readActions params.actions = some actions)
    (granted : Grants clock uuid record (grantInput params principalId role actions
      (selectedBindings params.resourceScope)) parent operation issued next) :
    wanted params principalId role = some (contents issued.grant) := by
  have same : contents issued.grant = (grantInput params principalId role actions
      (selectedBindings params.resourceScope)).core issued.grant.allowedMethods := by
    rw [granted.grant]
    rfl
  simp only [wanted, listed, Option.bind_eq_bind, Option.bind_some, granted.methods, same]
  rfl

theorem traced_step {input : IssueGrantV1} {parent : Option JsString} {operation : GrantOperation}
    {authorization : Option ExecutionGrantObservationV1} {issued : IssuedGrant}
    (traced : Traced record.state) (accepted : issue clock uuid record workspaceId input parent
      (some operation) authorization = .ok (issued, next))
    (origin : Grants clock uuid record input parent (some operation) issued next →
      Origin next.state ⟨operation.requestDigest, issued.grant.grantDigest, clock⟩) :
    Traced next.state := by
  obtain ⟨-, -, -, -, ⟨_, _, _, -, -, -, -, -, rfl⟩ | ⟨first, granted⟩⟩ := issue_ok accepted
  · exact traced
  · intro id prior known
    rw [recorded, granted.issuances] at known
    simp only [Option.bind_some, Record.get_set] at known
    split at known
    · exact Option.some.inj known ▸ origin granted
    · have earlier : recorded record.state id = some prior := by
        cases listed : record.state.issuances with
        | none => simp [listed] at known
        | some issuances => simpa [recorded, listed] using known
      exact (traced id prior earlier).kept (grants_kept granted first)

variable {context : AuthenticatedGrantV1} {authorization : ExecutionGrantObservationV1}
  {issued : IssuedGrant} {requestDigest : JsString} {actions : List JsString}

/-- Whether the grant is new, there already or repeated, `grant.issue.v1` is answered with the
grant that it asks for. -/
theorem issued_answer {request : IssueRequestV1} {role : PrincipalRole}
    {issuer : AuthenticatedGrantV1} (ideal : Function.Injective Engine.sha256Hex)
    (sound : Sound record.state) (traced : Traced record.state)
    (issuing : Issuing clock uuid workspaceId record context authorization request role actions
      issuer requestDigest issued next) :
    (∃ stored, next.state.find issued.grant.grantDigest = some stored ∧
      wanted request.params request.principalId role = some (contents stored.grant)) ∧
    Traced next.state := by
  have asked (granted : Grants clock uuid record (grantInput request.params request.principalId role
      actions (selectedBindings request.params.resourceScope)) none (some ⟨js "grant.issue:" ++
      context.principalId ++ js ":" ++ request.params.operationId, requestDigest⟩) issued next) :
      ∃ stored, next.state.find issued.grant.grantDigest = some stored ∧
        wanted request.params request.principalId role = some (contents stored.grant) := by
    obtain ⟨stored, found, -, alike⟩ := granted_stored ideal sound granted
    exact ⟨stored, found, alike ▸ granted_wanted issuing.listed granted⟩
  constructor
  · obtain ⟨-, -, -, -, ⟨repeated, prior, stored, same, known, digest, found, rfl, rfl⟩ |
      ⟨-, granted⟩⟩ := issue_ok issuing.stored
    · obtain rfl := Option.some.inj same
      have own : stored.grant.grantDigest = prior.grantDigest := find_digest found
      refine ⟨stored, by rw [own, found], ?_⟩
      -- The operation was recorded for a request of the same JSON.
      cases traced _ prior known with
      | issued earlier role' stored' digested named there asked' =>
          obtain rfl := Option.some.inj (there.symm.trans found)
          obtain ⟨roles, alike⟩ := issue_wanted ideal (digest ▸ digested) issuing.digested
          rw [roles, issuing.named] at named
          obtain rfl := Option.some.inj named
          rw [← alike, asked']
      | delegated earlier parent stored' digested above there below asked' =>
          exact absurd (domains_apart ideal (digest ▸ digested) issuing.digested (by decide +kernel))
            (by decide +kernel)
      | produced earlier digested =>
          exact absurd (domains_apart ideal (digest ▸ digested) issuing.digested (by decide +kernel))
            (by decide +kernel)
    · exact asked granted
  · apply traced_step traced issuing.stored
    intro granted
    obtain ⟨stored, found, alike⟩ := asked granted
    exact .issued request role stored issuing.digested issuing.named found alike

/-- `grant.delegate.v1` is answered with the grant that it asks for, under the parent that it
names. -/
theorem delegated_answer {request : DelegateRequestV1} {parent : AuthenticatedGrantV1}
    (ideal : Function.Injective Engine.sha256Hex) (sound : Sound record.state)
    (traced : Traced record.state)
    (delegating : Delegating clock uuid workspaceId record context authorization request actions
      parent requestDigest issued next) (kept : Kept record.state next.state) :
    (∃ stored, next.state.find issued.grant.grantDigest = some stored ∧
      stored.parentGrantDigest = some request.parentGrantDigest ∧
      wanted request.params request.delegatePrincipalId parent.principalRole =
        some (contents stored.grant)) ∧
    Traced next.state := by
  obtain ⟨top, above, rfl, -⟩ := delegating.active
  have asked (granted : Grants clock uuid record (grantInput request.params
      request.delegatePrincipalId top.grant.principalRole actions
      (selectedBindings request.params.resourceScope)) (some request.parentGrantDigest)
      (some ⟨js "grant.delegate:" ++ context.principalId ++ js ":" ++ request.params.operationId,
        requestDigest⟩) issued next) :
      ∃ stored, next.state.find issued.grant.grantDigest = some stored ∧
        stored.parentGrantDigest = some request.parentGrantDigest ∧
        wanted request.params request.delegatePrincipalId top.grant.principalRole =
          some (contents stored.grant) := by
    obtain ⟨stored, found, below, alike⟩ := granted_stored ideal sound granted
    exact ⟨stored, found, below, alike ▸ granted_wanted delegating.listed granted⟩
  constructor
  · obtain ⟨-, -, -, -, ⟨repeated, prior, stored, same, known, digest, found, rfl, rfl⟩ |
      ⟨-, granted⟩⟩ := issue_ok delegating.stored
    · obtain rfl := Option.some.inj same
      have own : stored.grant.grantDigest = prior.grantDigest := find_digest found
      refine ⟨stored, by rw [own, found], ?_⟩
      cases traced _ prior known with
      | issued earlier role stored' digested named there asked' =>
          exact absurd (domains_apart ideal (digest ▸ digested) delegating.digested
            (by decide +kernel)) (by decide +kernel)
      | delegated earlier top' stored' digested above' there below asked' =>
          obtain rfl := Option.some.inj (there.symm.trans found)
          obtain ⟨parents, alike⟩ := delegate_wanted ideal (digest ▸ digested) delegating.digested
          rw [parents] at above' below
          obtain rfl := Option.some.inj (above'.symm.trans above)
          exact ⟨below, by rw [← alike, asked']⟩
      | produced earlier digested =>
          exact absurd (domains_apart ideal (digest ▸ digested) delegating.digested
            (by decide +kernel)) (by decide +kernel)
    · exact asked granted
  · apply traced_step traced delegating.stored
    intro granted
    obtain ⟨stored, found, below, alike⟩ := asked granted
    obtain ⟨current, known, sameTop, -⟩ := kept.grants _ _ above
    exact .delegated request current stored delegating.digested known found below
      (by rw [sameTop]; exact alike)

omit [Engine] in
-- Every result of a search that finds all has what it was found for.
theorem mapM_member {Item Found : Type} {search : Item → Option Found} {items : List Item}
    {all : List Found} (found : items.mapM search = some all) {result : Found}
    (member : result ∈ all) : ∃ item ∈ items, search item = some result := by
  induction items generalizing all with
  | nil =>
      obtain rfl : [] = all := by simpa using found
      simp at member
  | cons item rest ih =>
      simp only [List.mapM_cons, Option.bind_eq_bind, Option.bind_eq_some_iff] at found
      obtain ⟨first, here, later, mapped, same⟩ := found
      obtain rfl := Option.some.inj same
      rcases List.mem_cons.mp member with rfl | further
      · exact ⟨item, List.mem_cons_self, here⟩
      · obtain ⟨other, among, hit⟩ := ih mapped further
        exact ⟨other, List.mem_cons_of_mem _ among, hit⟩

omit [Engine] in
theorem wanted_says {params : GrantParams} {principalId : JsString} {role : PrincipalRole}
    {grant : AuthenticatedGrantV1} (listed : readActions params.actions = some actions)
    (asked : wanted params principalId role = some (contents grant)) :
    grant.principalRole = role ∧ grant.expiresAt = params.expiresAt ∧
      bindingsOf grant = selectedBindings params.resourceScope ∧
      ∀ method ∈ grant.allowedMethods, ProtocolMethodV1.text method ∈ actions := by
  simp only [wanted, listed, Option.bind_eq_bind, Option.bind_some, Option.bind_eq_some_iff] at asked
  obtain ⟨methods, defined, same⟩ := asked
  have equal := Option.some.inj same
  have roles : role = grant.principalRole := congrArg AuthenticatedGrantV1.principalRole equal
  have expires : params.expiresAt = grant.expiresAt := congrArg AuthenticatedGrantV1.expiresAt equal
  have bound : selectedBindings params.resourceScope = bindingsOf grant := congrArg bindingsOf equal
  have allowed : methods = grant.allowedMethods := congrArg AuthenticatedGrantV1.allowedMethods equal
  refine ⟨roles.symm, expires.symm, bound.symm, ?_⟩
  intro method member
  rw [← allowed] at member
  obtain ⟨text, among, definition⟩ := mapM_member defined member
  have spelled : ProtocolMethodV1.text method = text := by simpa using List.find?_some definition
  rw [spelled]
  simpa [IssueGrantV1.allowed, List.mem_insertionSort, List.mem_dedup, grantInput] using among

theorem issued_bounded {request : IssueRequestV1} {role : PrincipalRole}
    {issuer grant : AuthenticatedGrantV1} (issuing : Issuing clock uuid workspaceId record context
      authorization request role actions issuer requestDigest issued next)
    (asked : wanted request.params request.principalId role = some (contents grant)) :
    Bounded grant issuer := by
  obtain ⟨-, expires, bound, -⟩ := wanted_says issuing.listed asked
  obtain ⟨time, parsed, timely⟩ := issuing.expiry
  exact ⟨fun limit known => ⟨time, expires ▸ parsed, timely limit known⟩, bound ▸ issuing.bindings⟩

-- What is delegated is bounded by the grant of the connection too.
theorem delegated_bounded {request : DelegateRequestV1} {parent grant : AuthenticatedGrantV1}
    (delegating : Delegating clock uuid workspaceId record context authorization request actions
      parent requestDigest issued next)
    (asked : wanted request.params request.delegatePrincipalId parent.principalRole =
      some (contents grant)) : Bounded grant authorization.grant := by
  obtain ⟨-, expires, bound, -⟩ := wanted_says delegating.listed asked
  obtain ⟨time, parsed, timely⟩ := delegating.expiry
  obtain ⟨other, above⟩ := delegating.active.expiry
  refine ⟨?_, bound ▸ delegating.bindings⟩
  intro limit known
  exact ⟨time, expires ▸ parsed, (timely other above limit known).trans (min_le_right _ _)⟩

theorem delegated_attenuates {request : DelegateRequestV1} {parent grant : AuthenticatedGrantV1}
    (delegating : Delegating clock uuid workspaceId record context authorization request actions
      parent requestDigest issued next)
    (own : ∃ limit, Engine.dateParse authorization.grant.expiresAt = some limit)
    (asked : wanted request.params request.delegatePrincipalId parent.principalRole =
      some (contents grant)) : Attenuates grant parent := by
  obtain ⟨role, expires, bound, allowed⟩ := wanted_says delegating.listed asked
  obtain ⟨time, parsed, timely⟩ := delegating.expiry
  obtain ⟨other, known⟩ := own
  refine ⟨?_, role, ?_, bound ▸ delegating.below⟩
  · intro method member
    obtain ⟨same, there, spelled⟩ := List.mem_map.mp (delegating.allowed _ (allowed method member))
    exact method_text_injective spelled ▸ there
  · intro limit above
    exact ⟨time, expires ▸ parsed, (timely limit above other known).trans (min_le_left _ _)⟩

end Origins

section Histories

variable [Engine] {workspaceId : JsString}

/-- The grants, and those that `grant.delegate.v1` was answered with. -/
structure GrantHistory where
  record : GrantRecord
  delegated : List JsString

/-- One request under the grant of a connection, or the grant of a producer. -/
inductive GrantAction where
  | issue (uuid : JsString) (context : AuthenticatedGrantV1) (request : IssueRequestV1)
  | delegate (uuid : JsString) (context : AuthenticatedGrantV1) (request : DelegateRequestV1)
  | revoke (context : AuthenticatedGrantV1) (request : RevokeRequestV1)
  | produce (uuid : JsString) (contracts : Record JsString TaskContractV2) (request : ProducerRequest)

def GrantAction.drawn : GrantAction → Option JsString
  | .issue uuid _ _ => some uuid
  | .delegate uuid _ _ => some uuid
  | .produce uuid _ _ => some uuid
  | .revoke _ _ => none

def GrantAction.delegates : GrantAction → Bool
  | .delegate _ _ _ => true
  | _ => false

/-- What a request is answered with: the grant that its connection is given, if it asks for
one. -/
def respond (workspaceId : JsString) (record : GrantRecord) (input : JsString × GrantAction) :
    Except Failure (Option JsString × GrantRecord) :=
  let clock := input.1
  match input.2 with
  | .issue uuid context request => do
      let authorization ← authorizeRequest clock record context .grantIssue
        request.params.workspaceId request.params.observationCursor
      let result ← grantIssue clock uuid record workspaceId context authorization request
      return (some result.1.grant.grantDigest, result.2)
  | .delegate uuid context request => do
      let authorization ← authorizeRequest clock record context .grantDelegate
        request.params.workspaceId request.params.observationCursor
      let result ← grantDelegate clock uuid record workspaceId context authorization request
      return (some result.1.grant.grantDigest, result.2)
  | .revoke context request => do
      let authorization ← authorizeRequest clock record context .grantRevoke request.workspaceId
        request.observationCursor
      let next ← grantRevoke clock record context authorization request
      return (none, next)
  | .produce uuid contracts request => do
      let result ← GrantRequests.producer clock uuid record workspaceId contracts request
      return (none, result.2)

def actionStep (workspaceId : JsString) (history : GrantHistory) (input : JsString × GrantAction) :
    Except Failure GrantHistory := do
  let (answer, next) ← respond workspaceId history.record input
  return ⟨next, if input.2.delegates then answer.toList ++ history.delegated else history.delegated⟩

/-- The clock can be read, and an identifier that is drawn is a new one. -/
def Served (record : GrantRecord) (input : JsString × GrantAction) : Prop :=
  (Engine.dateParse input.1).isSome = true ∧ ∀ uuid ∈ input.2.drawn,
    js "grant:" ++ uuid ∉ record.state.grants.map StoredGrantV1.grantReference

instance (record : GrantRecord) (input : JsString × GrantAction) : Decidable (Served record input) :=
  inferInstanceAs (Decidable (_ ∧ _))

/-- A grant that was delegated, and the one it was delegated from. -/
def DelegatedFrom (history : GrantHistory) (child parent : JsString) : Prop :=
  child ∈ history.delegated ∧ ∃ stored, history.record.state.find child = some stored ∧
    stored.parentGrantDigest = some parent

/-- What holds in every history of requests. -/
structure Regular (history : GrantHistory) : Prop where
  sound : Sound history.record.state
  traced : Traced history.record.state
  delegated : ∀ child ∈ history.delegated, ∃ stored above parent,
    history.record.state.find child = some stored ∧ stored.parentGrantDigest = some above ∧
      history.record.state.find above = some parent ∧ Attenuates stored.grant parent.grant

theorem initial_regular {record : GrantRecord} {grantReference : JsString}
    {grant : AuthenticatedGrantV1} {revoked : Bool}
    (initial : record.state = initialState grantReference grant revoked)
    (valid : parseState record.state = .ok ()) : Regular ⟨record, []⟩ where
  sound := ⟨valid, initial ▸ initial_founded grantReference grant revoked⟩
  traced id prior known := by
    rw [recorded, initial] at known
    cases known
  delegated child member := by simp at member

theorem delegated_kept {before after : GrantAuthorityStateV1} (kept : Kept before after)
    {child : JsString} (delegated : ∃ stored above parent, before.find child = some stored ∧
      stored.parentGrantDigest = some above ∧ before.find above = some parent ∧
      Attenuates stored.grant parent.grant) :
    ∃ stored above parent, after.find child = some stored ∧
      stored.parentGrantDigest = some above ∧ after.find above = some parent ∧
      Attenuates stored.grant parent.grant := by
  obtain ⟨stored, above, parent, found, named, known, attenuates⟩ := delegated
  obtain ⟨current, there, same, -, sameParent, -⟩ := kept.grants _ _ found
  obtain ⟨top, top_there, sameTop, -⟩ := kept.grants _ _ known
  exact ⟨current, above, top, there, sameParent.trans named, top_there,
    by rw [same, sameTop]; exact attenuates⟩

variable {clock uuid : JsString} {record next : GrantRecord}

theorem issue_keeps {input : IssueGrantV1} {parent : Option JsString}
    {operation : Option GrantOperation} {authorization : Option ExecutionGrantObservationV1}
    {issued : IssuedGrant} (sound : Sound record.state)
    (readable : (Engine.dateParse clock).isSome = true)
    (fresh : js "grant:" ++ uuid ∉ record.state.grants.map StoredGrantV1.grantReference)
    (accepted : issue clock uuid record workspaceId input parent operation authorization =
      .ok (issued, next)) : Sound next.state ∧ Kept record.state next.state := by
  have step : grantStep workspaceId record (clock, .issue uuid input parent operation authorization) =
      .ok next := bind_ok_iff.mpr ⟨_, accepted, rfl⟩
  apply grant_step step sound
  exact ⟨readable, fun drawn same => Option.some.inj same ▸ fresh⟩

theorem grant_revoke_ok {context : AuthenticatedGrantV1}
    {authorization : ExecutionGrantObservationV1} {request : RevokeRequestV1}
    (accepted : grantRevoke clock record context authorization request = .ok next) :
    ∃ reference, GrantStore.revoke clock record reference (some authorization) = .ok (true, next) := by
  simp only [grantRevoke, bind_ok_iff, ensure_ok_iff, required_ok_iff, pure_ok_iff] at accepted
  obtain ⟨_, -, _, -, target, -, _, -, ⟨revoked, after⟩, answered, _, confirmed, rfl⟩ := accepted
  exact ⟨target.grantReference, confirmed ▸ answered⟩

theorem producer_ok {contracts : Record JsString TaskContractV2} {request : ProducerRequest}
    {issued : IssuedGrant} (accepted : GrantRequests.producer clock uuid record workspaceId contracts
      request = .ok (issued, next)) :
    ∃ input operation authorization, issue clock uuid record workspaceId input
        (some request.actor.grantDigest) (some operation) authorization = .ok (issued, next) ∧
      domainDigest (js "horseness.task-producer-grant.v1") (ProducerRequest.toJson request) =
        .ok operation.requestDigest := by
  simp only [GrantRequests.producer, bind_ok_iff, ensure_ok_iff, required_ok_iff,
    map_error_ok_iff] at accepted
  obtain ⟨_, -, _, -, _, -, _, -, requestDigest, digested, stored⟩ := accepted
  exact ⟨_, _, _, stored, digested⟩

/-- A grant that was given, with what it says no more than. -/
inductive Response (record next : GrantRecord) : GrantAction → Option JsString → Prop
  | issued {uuid digest : JsString} {context : AuthenticatedGrantV1} {request : IssueRequestV1}
      {stored issuer : StoredGrantV1} (found : next.state.find digest = some stored)
      (held : record.state.find context.grantDigest = some issuer)
      (bounded : Bounded stored.grant issuer.grant) :
      Response record next (.issue uuid context request) (some digest)
  | delegated {uuid digest : JsString} {context : AuthenticatedGrantV1}
      {request : DelegateRequestV1} {stored issuer parent : StoredGrantV1}
      (found : next.state.find digest = some stored)
      (below : stored.parentGrantDigest = some request.parentGrantDigest)
      (held : record.state.find context.grantDigest = some issuer)
      (bounded : Bounded stored.grant issuer.grant)
      (above : record.state.find request.parentGrantDigest = some parent)
      (attenuates : Attenuates stored.grant parent.grant) :
      Response record next (.delegate uuid context request) (some digest)
  | revoked {context : AuthenticatedGrantV1} {request : RevokeRequestV1} :
      Response record next (.revoke context request) none
  | produced {uuid : JsString} {contracts : Record JsString TaskContractV2}
      {request : ProducerRequest} : Response record next (.produce uuid contracts request) none

theorem respond_step (ideal : Function.Injective Engine.sha256Hex) {input : JsString × GrantAction}
    {answer : Option JsString} (sound : Sound record.state) (traced : Traced record.state)
    (served : Served record input) (accepted : respond workspaceId record input = .ok (answer, next)) :
    Sound next.state ∧ Traced next.state ∧ Kept record.state next.state ∧
      Response record next input.2 answer := by
  obtain ⟨clock, action⟩ := input
  obtain ⟨readable, fresh⟩ := served
  cases action with
  | issue uuid context request =>
      obtain ⟨authorization, -, answered⟩ := bind_ok_iff.mp accepted
      obtain ⟨⟨issued, after⟩, granted, rest⟩ := bind_ok_iff.mp answered
      obtain ⟨rfl, rfl⟩ := Prod.mk.inj ((pure_ok_iff _ _).mp rest)
      obtain ⟨role, actions, issuer, requestDigest, issuing⟩ := grant_issue_ok granted
      obtain ⟨later, kept⟩ := issue_keeps sound readable (fresh uuid rfl) issuing.stored
      obtain ⟨⟨stored, found, asked⟩, still⟩ := issued_answer ideal sound traced issuing
      have bounded := issued_bounded issuing asked
      obtain ⟨own, held, rfl, -⟩ := issuing.active
      exact ⟨later, still, kept, .issued found held bounded⟩
  | delegate uuid context request =>
      obtain ⟨authorization, authorized, answered⟩ := bind_ok_iff.mp accepted
      obtain ⟨⟨issued, after⟩, granted, rest⟩ := bind_ok_iff.mp answered
      obtain ⟨rfl, rfl⟩ := Prod.mk.inj ((pure_ok_iff _ _).mp rest)
      obtain ⟨actions, parent, requestDigest, delegating⟩ := grant_delegate_ok granted
      obtain ⟨later, kept⟩ := issue_keeps sound readable (fresh uuid rfl) delegating.stored
      obtain ⟨⟨stored, found, below, asked⟩, still⟩ :=
        delegated_answer ideal sound traced delegating kept
      have active := authorize_ok authorized
      have bounded := delegated_bounded delegating asked
      have attenuates := delegated_attenuates delegating active.expiry asked
      obtain ⟨top, above, rfl, -⟩ := delegating.active
      obtain ⟨own, held, same, -⟩ := active
      exact ⟨later, still, kept, .delegated found below held (same ▸ bounded) above attenuates⟩
  | revoke context request =>
      obtain ⟨authorization, -, answered⟩ := bind_ok_iff.mp accepted
      obtain ⟨after, marked, rest⟩ := bind_ok_iff.mp answered
      obtain ⟨rfl, rfl⟩ := Prod.mk.inj ((pure_ok_iff _ _).mp rest)
      obtain ⟨reference, revoked⟩ := grant_revoke_ok marked
      obtain ⟨-, -, ⟨different, -⟩ | ⟨-, -, written⟩⟩ := revoke_ok revoked
      · cases different
      · have kept : Kept record.state after.state := written ▸ marked_kept _ reference
        refine ⟨written ▸ marked_sound sound reference, ?_, kept, .revoked⟩
        intro id prior known
        have earlier : recorded record.state id = some prior := by
          rw [written] at known
          exact known
        exact (traced id prior earlier).kept kept
  | produce uuid contracts request =>
      obtain ⟨⟨issued, after⟩, granted, rest⟩ := bind_ok_iff.mp accepted
      obtain ⟨rfl, rfl⟩ := Prod.mk.inj ((pure_ok_iff _ _).mp rest)
      obtain ⟨asked, operation, authorization, stored, digested⟩ := producer_ok granted
      obtain ⟨later, kept⟩ := issue_keeps sound readable (fresh uuid rfl) stored
      exact ⟨later, traced_step traced stored fun _ => .produced request digested, kept, .produced⟩

theorem action_step (ideal : Function.Injective Engine.sha256Hex) {history after : GrantHistory}
    {input : JsString × GrantAction} (regular : Regular history) (served : Served history.record input)
    (accepted : actionStep workspaceId history input = .ok after) :
    Regular after ∧ Kept history.record.state after.record.state := by
  obtain ⟨⟨answer, next⟩, answered, rest⟩ := bind_ok_iff.mp accepted
  obtain rfl := (pure_ok_iff _ _).mp rest
  obtain ⟨sound, traced, kept, response⟩ :=
    respond_step ideal regular.sound regular.traced served answered
  refine ⟨⟨sound, traced, ?_⟩, kept⟩
  obtain ⟨clock, action⟩ := input
  have earlier := fun child member => delegated_kept kept (regular.delegated child member)
  cases response with
  | issued => exact earlier
  | revoked => exact earlier
  | produced => exact earlier
  | delegated found below held bounded above attenuates =>
      intro child member
      rcases List.mem_cons.mp member with rfl | before
      · obtain ⟨current, there, same, -⟩ := kept.grants _ _ above
        exact ⟨_, _, current, found, below, there, by rw [same]; exact attenuates⟩
      · exact earlier child before

theorem action_run (ideal : Function.Injective Engine.sha256Hex) {history later : GrantHistory}
    (regular : Regular history) (run : Reaches (actionStep workspaceId)
      (fun current => Served current.record) history later) :
    Regular later ∧ Kept history.record.state later.record.state := by
  apply reaches_invariant (fun current => Regular current ∧
    Kept history.record.state current.record.state) ⟨regular, .refl _⟩ _ run
  rintro state input after - ⟨still, kept⟩ served accepted
  obtain ⟨next, more⟩ := action_step ideal still served accepted
  exact ⟨next, kept.trans more⟩

/-- Along a chain of delegations each grant says no more than those above it. -/
theorem delegations_attenuate (ideal : Function.Injective Engine.sha256Hex)
    {grantReference : JsString} {grant : AuthenticatedGrantV1} {revoked : Bool}
    {history : GrantHistory} (initial : record.state = initialState grantReference grant revoked)
    (valid : parseState record.state = .ok ())
    (reached : Reaches (actionStep workspaceId) (fun current => Served current.record) ⟨record, []⟩
      history) {digest above : JsString}
    (chain : Relation.ReflTransGen (DelegatedFrom history) digest above)
    {child ancestor : StoredGrantV1} (found : history.record.state.find digest = some child)
    (known : history.record.state.find above = some ancestor) :
    Attenuates child.grant ancestor.grant := by
  obtain ⟨regular, -⟩ := action_run ideal (initial_regular initial valid) reached
  induction chain generalizing ancestor with
  | refl =>
      obtain rfl := Option.some.inj (found.symm.trans known)
      exact .refl _
  | tail _ step ih =>
      obtain ⟨member, stored, there, named⟩ := step
      obtain ⟨own, parent, top, same, sameParent, above, attenuates⟩ := regular.delegated _ member
      obtain rfl := Option.some.inj (same.symm.trans there)
      obtain rfl := Option.some.inj (sameParent.symm.trans named)
      obtain rfl := Option.some.inj (above.symm.trans known)
      exact (ih there).trans attenuates

end Histories

section Recorded

def requested (actions : List String) (scope : List (JsString × JsValue)) : GrantParams where
  workspaceId := js "w"
  observationCursor := ⟨js "w", 0, js "h", 1⟩
  idempotencyKey := js "k"
  operationId := js "k"
  actions := actions.map fun action => .str (js action)
  resourceScope := scope
  expiresAt := secondLater

def helperRequest : DelegateRequestV1 where
  params := requested ["grant.delegate.v1", "task.get.v1"] [(js "runId", .str (js "r"))]
  parentGrantDigest := ownerGrant.grantDigest
  delegatePrincipalId := js "helper"

def helperGrant : AuthenticatedGrantV1 where
  principalId := js "helper"
  principalRole := .authority
  peerIdentity := js "helper"
  workspaceId := js "w"
  runId := some (js "r")
  taskId := none
  attemptId := none
  generation := none
  proposalId := none
  adapterId := none
  allowedMethods := [.grantDelegate, .taskGet]
  expiresAt := secondLater
  grantDigest := js "d399447a3cadc9a4efed164140ed2fd2c962fb4035d10257d89d8170808407a7"

def assistantRequest : DelegateRequestV1 where
  params := requested ["task.get.v1"] [(js "runId", .str (js "r"))]
  parentGrantDigest := helperGrant.grantDigest
  delegatePrincipalId := js "assistant"

def assistantGrant : AuthenticatedGrantV1 :=
  { helperGrant with
    principalId := js "assistant"
    peerIdentity := js "assistant"
    allowedMethods := [.taskGet]
    grantDigest := js "df6f30039d609012521715be39504556956b356eb2d5fdbd5b8ad63dff2796f8" }

def helperIssuance : JsString × GrantIssuance :=
  (js "grant.delegate:owner:k",
    ⟨js "22614ca36103fc714ed4b7849069ac6790e44b02c111c5f7c81dfa23407330d3",
      helperGrant.grantDigest, startOfYear⟩)

def assistantIssuance : JsString × GrantIssuance :=
  (js "grant.delegate:helper:k",
    ⟨js "a568fd37c941de65758145b94db2d577e5a0cc19e142a09e7e80eb0f9ee9b6ab",
      assistantGrant.grantDigest, startOfYear⟩)

def helperState : GrantAuthorityStateV1 :=
  ⟨[⟨ownerGrant, false, js "grant:r", none⟩,
      ⟨helperGrant, false, js "grant:u", some ownerGrant.grantDigest⟩],
    some (Record.empty.set helperIssuance.1 helperIssuance.2)⟩

def assistantState : GrantAuthorityStateV1 :=
  ⟨helperState.grants ++
      [⟨assistantGrant, false, js "grant:v", some helperGrant.grantDigest⟩],
    some ((Record.empty.set helperIssuance.1 helperIssuance.2).set assistantIssuance.1
      assistantIssuance.2)⟩

def digestedText {Value : Type} (domain : String) (json : Value → JsValue) (value : Value) : JsString :=
  js domain ++ 0 :: @serialize recordedEngine.toNumberFormat (json value)

def grantText (grant : AuthenticatedGrantV1) : JsString :=
  digestedText "horseness.daemon-grant.v1" (fun grant => object (coreFields grant)) grant

def delegationDigests : List (JsString × JsString) :=
  [ownerGrant, helperGrant, assistantGrant].map (fun grant => (grantText grant, grant.grantDigest)) ++
  [(digestedText "horseness.grant-delegate-request.v1" DelegateRequestV1.toJson helperRequest,
      helperIssuance.2.requestDigest),
    (digestedText "horseness.grant-delegate-request.v1" DelegateRequestV1.toJson assistantRequest,
      assistantIssuance.2.requestDigest),
    (digestedText "horseness.workspace-authority-state.v1" GrantAuthorityStateV1.toJson helperState,
      js "9a324936effe9961943eb74b441476abe9d0107ab26db0a1ae3fb41f921e13ad"),
    (digestedText "horseness.workspace-authority-state.v1" GrantAuthorityStateV1.toJson assistantState,
      js "59c69d51115ade427e69adc2612497670658c62b6390d8459af4bb8ff987419e")]

@[reducible] def delegationEngine : Engine :=
  { recordedEngine with sha256Hex := IdealDigests.tableDigest delegationDigests }

attribute [local instance] delegationEngine

def delegationRun : Except Failure GrantHistory :=
  [(startOfYear, GrantAction.delegate (js "u") ownerGrant helperRequest),
    (startOfYear, GrantAction.delegate (js "v") helperGrant assistantRequest)].foldlM
    (guardedStep (actionStep (js "w"))
      (fun history input => decide (Served history.record input)) plainError) ⟨ownerRecord, []⟩

def delegatedHistory : GrantHistory := finalOf ⟨ownerRecord, []⟩ delegationRun

instance delegation_computed : Fact (endsIn (fun _ => true) delegationRun = true ∧
    delegatedHistory.record.state.grants = assistantState.grants ∧
    delegatedHistory.delegated = [assistantGrant.grantDigest, helperGrant.grantDigest]) :=
  ⟨by decide +kernel⟩

theorem delegation_run_reaches :
    Reaches (actionStep (js "w")) (fun history => Served history.record) ⟨ownerRecord, []⟩
      delegatedHistory := by
  obtain ⟨run, -⟩ := ends_in_final ⟨ownerRecord, []⟩ delegation_computed.out.1
  have reached : Reaches (actionStep (js "w"))
      (fun history input => decide (Served history.record input) = true) ⟨ownerRecord, []⟩
      delegatedHistory := guarded_reaches _ _ _ run
  refine reaches_weaken ?_ reached
  intro history input served
  simpa using served

theorem delegations_attenuate_assistant : Attenuates assistantGrant ownerGrant := by
  have readable : endsIn (fun _ => true) (parseState ownerRecord.state) = true := by decide +kernel
  obtain ⟨_, valid, -⟩ := ends_in_exists readable
  obtain ⟨-, grants, delegated⟩ := delegation_computed.out
  have finds (digest : JsString) :
      delegatedHistory.record.state.find digest = assistantState.find digest := by
    rw [GrantAuthorityStateV1.find, grants]
    rfl
  have assistant : delegatedHistory.record.state.find assistantGrant.grantDigest =
      some ⟨assistantGrant, false, js "grant:v", some helperGrant.grantDigest⟩ :=
    (finds _).trans (by decide +kernel)
  have helper : delegatedHistory.record.state.find helperGrant.grantDigest =
      some ⟨helperGrant, false, js "grant:u", some ownerGrant.grantDigest⟩ :=
    (finds _).trans (by decide +kernel)
  have owner : delegatedHistory.record.state.find ownerGrant.grantDigest =
      some ⟨ownerGrant, false, js "grant:r", none⟩ := (finds _).trans (by decide +kernel)
  have lower : DelegatedFrom delegatedHistory assistantGrant.grantDigest helperGrant.grantDigest :=
    ⟨by simp [delegated], _, assistant, rfl⟩
  have upper : DelegatedFrom delegatedHistory helperGrant.grantDigest ownerGrant.grantDigest :=
    ⟨by simp [delegated], _, helper, rfl⟩
  have injective : Function.Injective Engine.sha256Hex :=
    table_injective (table_of_digests (by decide +kernel) (by decide +kernel))
  exact delegations_attenuate injective rfl valid delegation_run_reaches
    ((Relation.ReflTransGen.single lower).tail upper) assistant owner

end Recorded

end Horseness.GrantAttenuation
