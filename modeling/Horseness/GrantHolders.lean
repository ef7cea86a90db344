import Horseness.GrantAttenuation

/-!
What the holders of one grant can obtain from it, whatever they and others ask for. A grant that
they are given ends with theirs and is bound where theirs is; only along delegations does it
also allow no more, and end when theirs is revoked. `grant.issue.v1` gives any method.
-/

namespace Horseness.GrantHolders

open FallibleRuns Records ScriptText ScriptEngine ExecutionStore ServiceViews GrantStore
  GrantLineage GrantRequests GrantAttenuation IdealDigests RecordedRuns

section Holdings

/-- The grants, what the holders of one of them have obtained, and what of that came by
delegations from their own grant. -/
structure Holdings where
  record : GrantRecord
  obtained : List JsString
  descended : List JsString

def holder : GrantAction → Option JsString
  | .issue _ context _ => some context.grantDigest
  | .delegate _ context _ => some context.grantDigest
  | .revoke context _ => some context.grantDigest
  | .produce _ _ _ => none

def named : GrantAction → Option JsString
  | .delegate _ _ request => some request.parentGrantDigest
  | _ => none

/-- The request is made under the holders' own grant or under one that they obtained. -/
def Holding (own : JsString) (held : Holdings) (action : GrantAction) : Prop :=
  ∃ digest ∈ holder action, digest ∈ own :: held.obtained

def Descending (own : JsString) (held : Holdings) (action : GrantAction) : Prop :=
  Holding own held action ∧ ∃ digest ∈ named action, digest ∈ own :: held.descended

instance (own : JsString) (held : Holdings) (action : GrantAction) :
    Decidable (Holding own held action) :=
  inferInstanceAs (Decidable (∃ digest ∈ holder action, digest ∈ own :: held.obtained))

instance (own : JsString) (held : Holdings) (action : GrantAction) :
    Decidable (Descending own held action) :=
  inferInstanceAs (Decidable (_ ∧ ∃ digest ∈ named action, digest ∈ own :: held.descended))

variable [Engine] {workspaceId own : JsString}

def holdingStep (workspaceId own : JsString) (held : Holdings) (input : JsString × GrantAction) :
    Except Failure Holdings := do
  let (answer, next) ← respond workspaceId held.record input
  return ⟨next,
    if Holding own held input.2 then answer.toList ++ held.obtained else held.obtained,
    if Descending own held input.2 then answer.toList ++ held.descended else held.descended⟩

/-- What holds of everything obtained from a grant. -/
structure Confined (own : JsString) (grant : AuthenticatedGrantV1) (held : Holdings) : Prop where
  sound : Sound held.record.state
  traced : Traced held.record.state
  source : ∃ stored, held.record.state.find own = some stored ∧ stored.grant = grant
  obtained : ∀ digest ∈ held.obtained, ∃ stored, held.record.state.find digest = some stored ∧
    Bounded stored.grant grant
  descended : ∀ digest ∈ held.descended, digest ∈ held.obtained ∧
    Ancestor held.record.state digest own ∧
    ∃ stored, held.record.state.find digest = some stored ∧ Attenuates stored.grant grant

variable {grant : AuthenticatedGrantV1} {held after : Holdings}

theorem Confined.bounded (confined : Confined own grant held) {digest : JsString}
    (member : digest ∈ own :: held.obtained) {stored : StoredGrantV1}
    (found : held.record.state.find digest = some stored) : Bounded stored.grant grant := by
  rcases List.mem_cons.mp member with rfl | obtained
  · obtain ⟨source, there, rfl⟩ := confined.source
    obtain rfl := Option.some.inj (found.symm.trans there)
    exact .refl _
  · obtain ⟨other, there, bounded⟩ := confined.obtained digest obtained
    obtain rfl := Option.some.inj (found.symm.trans there)
    exact bounded

theorem Confined.attenuates (confined : Confined own grant held) {digest : JsString}
    (member : digest ∈ own :: held.descended) {stored : StoredGrantV1}
    (found : held.record.state.find digest = some stored) :
    Attenuates stored.grant grant ∧ Ancestor held.record.state digest own := by
  rcases List.mem_cons.mp member with rfl | descended
  · obtain ⟨source, there, rfl⟩ := confined.source
    obtain rfl := Option.some.inj (found.symm.trans there)
    exact ⟨.refl _, .refl⟩
  · obtain ⟨-, up, other, there, attenuates⟩ := confined.descended digest descended
    obtain rfl := Option.some.inj (found.symm.trans there)
    exact ⟨attenuates, up⟩

-- Everything stays confined while grants are only added and revoked.
theorem Confined.kept (confined : Confined own grant held) {next : GrantRecord}
    (sound : Sound next.state) (traced : Traced next.state)
    (kept : Kept held.record.state next.state) :
    Confined own grant ⟨next, held.obtained, held.descended⟩ where
  sound := sound
  traced := traced
  source := by
    obtain ⟨stored, found, rfl⟩ := confined.source
    obtain ⟨current, there, same, -⟩ := kept.grants _ _ found
    exact ⟨current, there, same⟩
  obtained digest member := by
    obtain ⟨stored, found, bounded⟩ := confined.obtained digest member
    obtain ⟨current, there, same, -⟩ := kept.grants _ _ found
    exact ⟨current, there, same ▸ bounded⟩
  descended digest member := by
    obtain ⟨also, up, stored, found, attenuates⟩ := confined.descended digest member
    obtain ⟨current, there, same, -⟩ := kept.grants _ _ found
    exact ⟨also, kept.ancestor up, current, there, same ▸ attenuates⟩

theorem Confined.obtain (confined : Confined own grant held) {digest : JsString}
    {stored : StoredGrantV1} (found : held.record.state.find digest = some stored)
    (bounded : Bounded stored.grant grant) :
    Confined own grant { held with obtained := digest :: held.obtained } where
  sound := confined.sound
  traced := confined.traced
  source := confined.source
  obtained other member := by
    rcases List.mem_cons.mp member with rfl | earlier
    · exact ⟨stored, found, bounded⟩
    · exact confined.obtained other earlier
  descended other member := by
    obtain ⟨also, rest⟩ := confined.descended other member
    exact ⟨List.mem_cons_of_mem _ also, rest⟩

theorem Confined.descend (confined : Confined own grant held) {digest : JsString}
    {stored : StoredGrantV1} (member : digest ∈ held.obtained)
    (found : held.record.state.find digest = some stored) (up : Ancestor held.record.state digest own)
    (attenuates : Attenuates stored.grant grant) :
    Confined own grant { held with descended := digest :: held.descended } where
  sound := confined.sound
  traced := confined.traced
  source := confined.source
  obtained := confined.obtained
  descended other among := by
    rcases List.mem_cons.mp among with rfl | earlier
    · exact ⟨member, up, stored, found, attenuates⟩
    · exact confined.descended other earlier

theorem holding_step (ideal : Function.Injective Engine.sha256Hex) {input : JsString × GrantAction}
    (confined : Confined own grant held) (served : Served held.record input)
    (accepted : holdingStep workspaceId own held input = .ok after) : Confined own grant after := by
  obtain ⟨⟨answer, next⟩, answered, rest⟩ := bind_ok_iff.mp accepted
  obtain rfl := (pure_ok_iff _ _).mp rest
  obtain ⟨sound, traced, kept, response⟩ :=
    respond_step ideal confined.sound confined.traced served answered
  have still := confined.kept sound traced kept
  obtain ⟨clock, action⟩ := input
  cases response with
  | revoked => simpa using still
  | produced => simpa using still
  | @issued uuid digest context request stored issuer found above bounded =>
      have level : ¬ Descending own held (.issue uuid context request) := by
        rintro ⟨-, _, absent, -⟩
        cases absent
      by_cases holding : Holding own held (.issue uuid context request)
      · obtain ⟨_, same, member⟩ := id holding
        obtain rfl := Option.some.inj same
        have grown := still.obtain found (bounded.trans (confined.bounded member above))
        simpa [holding, level] using grown
      · simpa [holding, level] using still
  | @delegated uuid digest context request stored issuer parent found below source bounded above
      attenuates =>
      by_cases holding : Holding own held (.delegate uuid context request)
      · obtain ⟨_, same, member⟩ := id holding
        obtain rfl := Option.some.inj same
        have grown := still.obtain found (bounded.trans (confined.bounded member source))
        by_cases descending : Descending own held (.delegate uuid context request)
        · obtain ⟨-, _, sameParent, named⟩ := id descending
          obtain rfl := Option.some.inj sameParent
          obtain ⟨narrows, up⟩ := confined.attenuates named above
          -- The delegated grant is stored right below the one it was asked for.
          have lineage : Ancestor next.state digest own :=
            Relation.ReflTransGen.head (Option.bind_eq_some_iff.mpr ⟨stored, found, below⟩)
              (kept.ancestor up)
          have lower := grown.descend List.mem_cons_self found lineage (attenuates.trans narrows)
          simpa [holding, descending] using lower
        · simpa [holding, descending] using grown
      · have outside : ¬ Descending own held (.delegate uuid context request) :=
          fun descending => holding descending.1
        simpa [holding, outside] using still

theorem holding_run (ideal : Function.Injective Engine.sha256Hex) (confined : Confined own grant held)
    (run : Reaches (holdingStep workspaceId own) (fun current => Served current.record) held after) :
    Confined own grant after := by
  apply reaches_invariant (Confined own grant) confined _ run
  intro state input next _ still served accepted
  exact holding_step ideal still served accepted

end Holdings

section Confinement

variable [Engine] {workspaceId own clock : JsString} {record : GrantRecord} {held : Holdings}
  {grant : AuthenticatedGrantV1}

def ExpiredAt (clock : JsString) (grant : AuthenticatedGrantV1) : Prop :=
  ∃ limit now, Engine.dateParse grant.expiresAt = some limit ∧ Engine.dateParse clock = some now ∧
    limit ≤ now

theorem Confined.expired (confined : Confined own grant held) {digest : JsString}
    (member : digest ∈ held.obtained) (expired : ExpiredAt clock grant) :
    observe clock held.record digest = .ok none := by
  obtain ⟨limit, now, parsed, time, past⟩ := expired
  obtain ⟨stored, found, bounded⟩ := confined.obtained digest member
  obtain ⟨expires, known, below⟩ := bounded.expiry limit parsed
  apply inactive_unobserved time confined.sound
  intro active
  obtain ⟨-, expiry, same, later⟩ := active digest stored .refl found
  obtain rfl := Option.some.inj (same.symm.trans known)
  omega

/-- What the holders of a grant obtain ends with it and stays within its bindings; and what comes
by delegations from it allows no other methods, and ends when it is revoked. -/
theorem obtained_confined (ideal : Function.Injective Engine.sha256Hex) {grantReference : JsString}
    {first : AuthenticatedGrantV1} {revoked : Bool} {history : GrantHistory} {source : StoredGrantV1}
    (initial : record.state = initialState grantReference first revoked)
    (valid : parseState record.state = .ok ())
    (reached : Reaches (actionStep workspaceId) (fun current => Served current.record) ⟨record, []⟩
      history) (found : history.record.state.find own = some source)
    (run : Reaches (holdingStep workspaceId own) (fun current => Served current.record)
      ⟨history.record, [], []⟩ held) :
    (∀ digest ∈ held.obtained, ∃ stored, held.record.state.find digest = some stored ∧
      Bounded stored.grant source.grant ∧
      ∀ clock, ExpiredAt clock source.grant → observe clock held.record digest = .ok none) ∧
    ∀ digest ∈ held.descended, ∃ stored, held.record.state.find digest = some stored ∧
      stored.grant.allowedMethods ⊆ source.grant.allowedMethods ∧
      ∀ clock, Revoked held.record.state own ∨ ExpiredAt clock source.grant →
        observe clock held.record digest = .ok none := by
  obtain ⟨regular, -⟩ := action_run ideal (initial_regular initial valid) reached
  have start : Confined own source.grant ⟨history.record, [], []⟩ :=
    ⟨regular.sound, regular.traced, ⟨source, found, rfl⟩, by simp, by simp⟩
  have confined := holding_run ideal start run
  constructor
  · intro digest member
    obtain ⟨stored, there, bounded⟩ := confined.obtained digest member
    exact ⟨stored, there, bounded, fun _ expired => confined.expired member expired⟩
  · intro digest member
    obtain ⟨also, up, stored, there, attenuates⟩ := confined.descended digest member
    refine ⟨stored, there, attenuates.methods, ?_⟩
    rintro clock (spoilt | expired)
    · exact revoked_unobserved confined.sound up spoilt clock
    · exact confined.expired also expired

end Confinement

section Recorded

def revokerRequest : IssueRequestV1 where
  params := requested ["grant.revoke.v1"] []
  principalId := js "setter"
  principalRole := js "authority"

def revokerGrant : AuthenticatedGrantV1 where
  principalId := js "setter"
  principalRole := .authority
  peerIdentity := js "setter"
  workspaceId := js "w"
  runId := none
  taskId := none
  attemptId := none
  generation := none
  proposalId := none
  adapterId := none
  allowedMethods := [.grantRevoke]
  expiresAt := secondLater
  grantDigest := js "d9dc136e4179cd88dee7926770fbc2a5d4743988a1989d75ad603fa614a2727c"

def revokerIssuance : JsString × GrantIssuance :=
  (js "grant.issue:owner:k",
    ⟨js "f584c2b0f710e44a0c360f0ad7453faa050d7b225c3ab21779d41aef6cd702ae",
      revokerGrant.grantDigest, startOfYear⟩)

def revokerState (revoked : Bool) : GrantAuthorityStateV1 :=
  ⟨[⟨ownerGrant, revoked, js "grant:r", none⟩,
      ⟨helperGrant, false, js "grant:u", some ownerGrant.grantDigest⟩,
      ⟨revokerGrant, false, js "grant:v", none⟩],
    some ((Record.empty.set helperIssuance.1 helperIssuance.2).set revokerIssuance.1
      revokerIssuance.2)⟩

def holdingDigests : List (JsString × JsString) :=
  delegationDigests ++
  [(grantText revokerGrant, revokerGrant.grantDigest),
    (digestedText "horseness.grant-issue-request.v1" IssueRequestV1.toJson revokerRequest,
      revokerIssuance.2.requestDigest),
    (digestedText "horseness.workspace-authority-state.v1" GrantAuthorityStateV1.toJson
      (revokerState false), js "46b7933f7f0a34a1f73036c1d439363e9037c18993b0149871a1ff805efa0526"),
    (digestedText "horseness.workspace-authority-state.v1" GrantAuthorityStateV1.toJson
      (revokerState true), js "e4515ef63d7b71eea78e69c2a284e55f08112807aea8405452f7ffc010809536")]

@[reducible] def holdingEngine : Engine :=
  { recordedEngine with sha256Hex := IdealDigests.tableDigest holdingDigests }

attribute [local instance] holdingEngine

def holdingRun : Except Failure Holdings :=
  [(startOfYear, GrantAction.delegate (js "u") ownerGrant helperRequest),
    (startOfYear, GrantAction.issue (js "v") ownerGrant revokerRequest),
    (startOfYear, GrantAction.revoke revokerGrant
      ⟨js "w", ⟨js "w", 0, js "h", 1⟩, ownerGrant.grantDigest⟩)].foldlM
    (guardedStep (holdingStep (js "w") ownerGrant.grantDigest)
      (fun held input => decide (Served held.record input)) plainError) ⟨ownerRecord, [], []⟩

def revokedHoldings : Holdings := finalOf ⟨ownerRecord, [], []⟩ holdingRun

/-- What is in force after the run, and what is still observed there. -/
instance holding_run_computed : Fact (endsIn (fun _ => true) holdingRun = true ∧
    revokedHoldings.record.state.grants = (revokerState true).grants ∧
    revokedHoldings.obtained = [revokerGrant.grantDigest, helperGrant.grantDigest] ∧
    revokedHoldings.descended = [helperGrant.grantDigest] ∧
    endsIn Option.isSome
      (observe startOfYear revokedHoldings.record revokerGrant.grantDigest) = true) :=
  ⟨by decide +kernel⟩

theorem holding_run_reaches : Reaches (holdingStep (js "w") ownerGrant.grantDigest)
    (fun held => Served held.record) ⟨ownerRecord, [], []⟩ revokedHoldings := by
  obtain ⟨run, -⟩ := ends_in_final ⟨ownerRecord, [], []⟩ holding_run_computed.out.1
  have reached : Reaches (holdingStep (js "w") ownerGrant.grantDigest)
      (fun held input => decide (Served held.record input) = true) ⟨ownerRecord, [], []⟩
      revokedHoldings := guarded_reaches _ _ _ run
  refine reaches_weaken ?_ reached
  intro held input served
  simpa using served

theorem revoked_holdings_find (digest : JsString) :
    revokedHoldings.record.state.find digest = (revokerState true).find digest := by
  rw [GrantAuthorityStateV1.find, holding_run_computed.out.2.1]
  rfl

/-- What the owner issues allows what the owner's grant does not, and outlives it. -/
theorem issue_escalates : Reaches (holdingStep (js "w") ownerGrant.grantDigest)
      (fun held => Served held.record) ⟨ownerRecord, [], []⟩ revokedHoldings ∧
    revokerGrant.grantDigest ∈ revokedHoldings.obtained ∧
    (∃ stored, revokedHoldings.record.state.find revokerGrant.grantDigest = some stored ∧
      .grantRevoke ∈ stored.grant.allowedMethods) ∧
    .grantRevoke ∉ ownerGrant.allowedMethods ∧
    Revoked revokedHoldings.record.state ownerGrant.grantDigest ∧
    ∃ observation, observe startOfYear revokedHoldings.record revokerGrant.grantDigest =
      .ok (some observation) := by
  obtain ⟨-, -, obtained, -, observed⟩ := holding_run_computed.out
  obtain ⟨_, answered, present⟩ := ends_in_exists observed
  obtain ⟨observation, rfl⟩ := Option.isSome_iff_exists.mp present
  have revoker : revokedHoldings.record.state.find revokerGrant.grantDigest =
      some ⟨revokerGrant, false, js "grant:v", none⟩ :=
    (revoked_holdings_find _).trans (by decide +kernel)
  have owner : revokedHoldings.record.state.find ownerGrant.grantDigest =
      some ⟨ownerGrant, true, js "grant:r", none⟩ :=
    (revoked_holdings_find _).trans (by decide +kernel)
  exact ⟨holding_run_reaches, by simp [obtained], ⟨_, revoker, by decide⟩, by decide,
    ⟨_, owner, rfl⟩, _, answered⟩

theorem obtained_confined_owner :
    (∀ digest ∈ revokedHoldings.obtained, ∃ stored,
      revokedHoldings.record.state.find digest = some stored ∧ Bounded stored.grant ownerGrant ∧
      ∀ clock, ExpiredAt clock ownerGrant →
        observe clock revokedHoldings.record digest = .ok none) ∧
    ∀ digest ∈ revokedHoldings.descended, ∃ stored,
      revokedHoldings.record.state.find digest = some stored ∧
      stored.grant.allowedMethods ⊆ ownerGrant.allowedMethods ∧
      ∀ clock, Revoked revokedHoldings.record.state ownerGrant.grantDigest ∨
          ExpiredAt clock ownerGrant →
        observe clock revokedHoldings.record digest = .ok none := by
  have readable : endsIn (fun _ => true) (parseState ownerRecord.state) = true := by decide +kernel
  obtain ⟨_, valid, -⟩ := ends_in_exists readable
  have injective : Function.Injective Engine.sha256Hex :=
    table_injective (table_of_digests (by decide +kernel) (by decide +kernel))
  have owner : ownerRecord.state.find ownerGrant.grantDigest =
      some ⟨ownerGrant, false, js "grant:r", none⟩ := by decide +kernel
  have quiet : Reaches (actionStep (js "w")) (fun history => Served history.record)
      ⟨ownerRecord, []⟩ ⟨ownerRecord, []⟩ := .start
  exact obtained_confined injective rfl valid quiet owner holding_run_reaches

end Recorded

end Horseness.GrantHolders
