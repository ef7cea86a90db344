import Horseness.DispatchAuthority
import Horseness.RetentionSafety

/-!
What becomes of content whose artifact was collected. Its digest keeps a retention intent, so it
gets no reference and no pin again; a request that wants neither of it does not notice.
-/

namespace Horseness.CollectedArtifacts

open FallibleRuns ScriptText ScriptEngine AuthorityLog AppendLog Retention RetentionSafety

section Refusals

variable {digest : JsString} {vault : Vault} {base : Surroundings} {request : PublishAndAppendRequest}

/-- The retention of the digest has completed. -/
structure Collected (vault : Vault) (digest : JsString) : Prop where
  intent : ∃ intent ∈ vault.intents, intent.digest = digest ∧ intent.state = .deleted
  row : vault.authority.artifacts.get digest = none
  file : vault.files.get digest = none

theorem Collected.retained (collected : Collected vault digest) : vault.retained digest = true := by
  rcases collected.intent with ⟨intent, member, same, -⟩
  exact (retained_iff _ _).mpr ⟨intent, member, same⟩

/-- The request publishes the content and gives it a reference or a pin. -/
def Uses (request : PublishAndAppendRequest) (digest : JsString) : Prop :=
  ∃ publication ∈ request.artifacts, publication.record.digest = digest ∧
    (publication.references ≠ [] ∨ publication.pins ≠ [])

def forget (vault : Vault) (digest : JsString) : Vault :=
  { vault with intents := vault.intents.filter fun intent => intent.digest ≠ digest }

theorem forget_retained {other : JsString} (different : other ≠ digest) :
    (forget vault digest).retained other = vault.retained other := by
  rw [Bool.eq_iff_iff, retained_iff, retained_iff]
  constructor
  · rintro ⟨intent, member, same⟩
    exact ⟨intent, List.mem_of_mem_filter member, same⟩
  · rintro ⟨intent, member, same⟩
    exact ⟨intent, List.mem_filter.mpr ⟨member, by simpa [same] using different⟩, same⟩

variable [Engine]

theorem uses_refused (retained : vault.retained digest = true) (uses : Uses request digest)
    (unrecorded : ¬ Recorded vault.authority request) :
    (∃ failure, (Retention.publishAppend vault base request).1 = .error failure) ∧
      (Retention.publishAppend vault base request).2.authority = vault.authority := by
  unfold Retention.publishAppend
  dsimp only
  split
  · exact ⟨⟨_, rfl⟩, rfl⟩
  · split
    · exact ⟨⟨_, rfl⟩, rfl⟩
    · rename_i answer state accepted
      rcases publish_grows accepted with ⟨recorded, -⟩ | ⟨-, free, -⟩
      · exact absurd recorded unrecorded
      · rcases uses with ⟨publication, member, rfl, owned⟩
        have released : vault.retained publication.record.digest = false :=
          free publication member owned
        rw [retained] at released
        cases released

omit [Engine] in
theorem fold_congr {Item : Type} {step other : Authority → Item → Except StoreError Authority}
    {items : List Item} (same : ∀ item ∈ items, ∀ state, step state item = other state item)
    (state : Authority) : items.foldlM step state = items.foldlM other state := by
  induction items generalizing state with
  | nil => rfl
  | cons item rest ih =>
      simp only [List.foldlM_cons, same item List.mem_cons_self]
      congr 1
      funext next
      exact ih (fun later member => same later (List.mem_cons_of_mem _ member)) next

omit [Engine] in
-- What is under retention matters to the artifacts that get a reference or a pin.
theorem owners_congr {around : Surroundings} {free : JsString → Bool} {workspaceId : JsString}
    {publication : ArtifactPublication}
    (same : publication.references ≠ [] ∨ publication.pins ≠ [] →
      free publication.record.digest = around.retained publication.record.digest)
    (state : Authority) :
    addOwners { around with retained := free } workspaceId state publication =
      addOwners around workspaceId state publication := by
  unfold addOwners
  have references (before : Authority) :
      publication.references.foldlM (AuthorityLog.addReference { around with retained := free }
        workspaceId publication.record.digest) before =
      publication.references.foldlM (AuthorityLog.addReference around workspaceId
        publication.record.digest) before := by
    apply fold_congr
    intro reference member state
    simp only [AuthorityLog.addReference, same (.inl (List.ne_nil_of_mem member))]
  have pins (before : Authority) :
      publication.pins.foldlM (addPin { around with retained := free } publication.record.digest)
        before =
      publication.pins.foldlM (addPin around publication.record.digest) before := by
    apply fold_congr
    intro pinId member state
    simp only [addPin, same (.inr (List.ne_nil_of_mem member))]
  simp only [references, pins]

theorem publish_congr {around : Surroundings} {free : JsString → Bool}
    (same : ∀ publication ∈ request.artifacts, publication.references ≠ [] ∨ publication.pins ≠ [] →
      free publication.record.digest = around.retained publication.record.digest)
    (state : Authority) :
    publishAndAppendAtomic { around with retained := free } request state =
      publishAndAppendAtomic around request state := by
  have owners (workspaceId : JsString) (before : Authority) :
      request.artifacts.foldlM (addOwners { around with retained := free } workspaceId) before =
        request.artifacts.foldlM (addOwners around workspaceId) before :=
    fold_congr (fun publication member state => owners_congr (same publication member) state) before
  have registers : register { around with retained := free } = register around := rfl
  have observes : verifyCurrentObservation { around with retained := free } =
      verifyCurrentObservation around := rfl
  have required : verifyRequired { around with retained := free } = verifyRequired around := rfl
  simp only [publishAndAppendAtomic, owners, registers, observes, required]

/-- Without a reference or a pin the answer, the tables and the files are those that there would be
without the retention. -/
theorem unused_unnoticed (unused : ¬ Uses request digest) :
    (Retention.publishAppend vault base request).1 =
        (Retention.publishAppend (forget vault digest) base request).1 ∧
      (Retention.publishAppend vault base request).2.authority =
        (Retention.publishAppend (forget vault digest) base request).2.authority ∧
      (Retention.publishAppend vault base request).2.files =
        (Retention.publishAppend (forget vault digest) base request).2.files := by
  have same (files : ObjectFiles) :
      publishAndAppendAtomic (Vault.around { forget vault digest with files := files } base) request
          vault.authority =
        publishAndAppendAtomic (Vault.around { vault with files := files } base) request
          vault.authority := by
    suffices whole : publishAndAppendAtomic
        { Vault.around { vault with files := files } base with retained := (forget vault digest).retained }
        request vault.authority = _ from whole
    apply publish_congr
    intro publication member owned
    apply forget_retained
    exact fun own => unused ⟨publication, member, own, owned⟩
  unfold Retention.publishAppend
  simp only [forget] at same ⊢
  simp only [same]
  split
  · exact ⟨rfl, rfl, rfl⟩
  · split <;> exact ⟨rfl, rfl, rfl⟩

/-- Under retention, content gets no reference and no pin; without them it is as if there were no
retention. -/
theorem collected_stays_out (retained : vault.retained digest = true) :
    (Uses request digest → ¬ Recorded vault.authority request →
      (∃ failure, (Retention.publishAppend vault base request).1 = .error failure) ∧
        (Retention.publishAppend vault base request).2.authority = vault.authority) ∧
    (¬ Uses request digest →
      (Retention.publishAppend vault base request).1 =
          (Retention.publishAppend (forget vault digest) base request).1 ∧
        (Retention.publishAppend vault base request).2.authority =
          (Retention.publishAppend (forget vault digest) base request).2.authority ∧
        (Retention.publishAppend vault base request).2.files =
          (Retention.publishAppend (forget vault digest) base request).2.files) :=
  ⟨uses_refused retained, unused_unnoticed⟩

end Refusals

section Recorded

attribute [local instance] RecordedRuns.shortEngine

def collectedSystem : System :=
  [Action.register openSession commonRecord, .plan (js "w") commonDigest (js "intent"),
    .resume 0 [commonTask .checking], .advance 0, .advance 0, .advance 0].foldl System.act .fresh

def commonRequest : PublishAndAppendRequest :=
  { DispatchAuthority.emptyAppend "c" with
    workspace := some ⟨.workspace, js "w", js "w", 0, none, [DispatchAuthority.workspaceEvent]⟩
    artifacts := [⟨commonRecord, [⟨js "event",
      DispatchAuthority.workspaceEvent.envelope.eventId, false⟩], []⟩]
    requiredArtifactDigests := [commonDigest]
    projections := []
    snapshots := [] }

theorem common_collected : Collected collectedSystem.vault commonDigest :=
  ⟨by decide +kernel, by decide +kernel, by decide +kernel⟩

instance common_computed : Fact (endsIn (fun _ => true) (Retention.publishAppend (forget collectedSystem.vault commonDigest)
      openSession commonRequest).1 = true ∧
    endsIn (fun _ => true) (readReferenced (Retention.publishAppend
      (forget collectedSystem.vault commonDigest) openSession commonRequest).2 commonDigest) = true ∧
    failsWith .constraint (Retention.publishAppend collectedSystem.vault openSession
      commonRequest).1 = true) := ⟨by decide +kernel⟩

/-- The request is valid but for the retention: without it, the artifact is there afterwards. -/
theorem collected_refused : Reaches vaultStep (fun _ _ => True) .fresh collectedSystem ∧
    Collected collectedSystem.vault commonDigest ∧
    (∃ answer, (Retention.publishAppend (forget collectedSystem.vault commonDigest) openSession
      commonRequest).1 = .ok answer) ∧
    readReferenced (Retention.publishAppend (forget collectedSystem.vault commonDigest) openSession
      commonRequest).2 commonDigest = .ok () ∧
    (Retention.publishAppend collectedSystem.vault openSession commonRequest).1 =
      .error .constraint := by
  rcases common_computed.out with ⟨accepted, readable, refused⟩
  rcases ends_in_exists accepted with ⟨answer, answered, -⟩
  rcases ends_in_exists readable with ⟨_, read, -⟩
  exact ⟨acts_reach _ .fresh, common_collected, ⟨answer, answered⟩, read, fails_with_eq refused⟩

theorem common_stays_out : ∃ failure,
    (Retention.publishAppend collectedSystem.vault openSession commonRequest).1 = .error failure := by
  have uses : Uses commonRequest commonDigest :=
    ⟨_, List.mem_cons_self, rfl, .inl (by simp)⟩
  have unrecorded : ¬ Recorded collectedSystem.vault.authority commonRequest := by
    rintro ⟨workspaceId, -, present⟩
    have quiet : collectedSystem.vault.authority.commands = [] := by decide +kernel
    simp [Authority.command, quiet] at present
  exact ((collected_stays_out common_collected.retained).1 uses unrecorded).1

end Recorded

end Horseness.CollectedArtifacts
