import Horseness.JoinEvaluations
import Horseness.PinnedPolicies
import Horseness.Proposals
import Horseness.StableOrders

/-!
Whether a seal depends on the order of the lists that stand for sets. Each list is sorted before
it is hashed, by `localeCompare` where its items are records; a verification sorts the sealed
list again, on a host whose collation may be another.
-/

namespace Horseness.SealOrders

open FallibleRuns ScriptText JsonText JsonValues ScriptEngine Canonical Tasks AttemptReceipts
  ForkContext Proposals TaskPlans Execution SearchOrders TaskGraphs IdealDigests StableOrders

section Collations

/-- The order of some collation. It may find different texts equal. -/
structure Collates (compare : JsString → JsString → Int) : Prop where
  flip : ∀ left right, compare left right ≤ 0 ↔ 0 ≤ compare right left
  trans : ∀ left middle right, compare left middle ≤ 0 → compare middle right ≤ 0 →
    compare left right ≤ 0

variable {compare : JsString → JsString → Int} {Item : Type}

def byText (compare : JsString → JsString → Int) (text : Item → JsString) (left right : Item) :
    Prop :=
  compare (text left) (text right) ≤ 0

instance (compare : JsString → JsString → Int) (text : Item → JsString) :
    DecidableRel (byText compare text) := fun left right =>
  inferInstanceAs (Decidable (compare (text left) (text right) ≤ 0))

def byTexts (compare : JsString → JsString → Int) (first second : Item → JsString)
    (left right : Item) : Prop :=
  (if compare (first left) (first right) = 0 then compare (second left) (second right)
    else compare (first left) (first right)) ≤ 0

instance (compare : JsString → JsString → Int) (first second : Item → JsString) :
    DecidableRel (byTexts compare first second) := fun left right =>
  inferInstanceAs (Decidable ((if compare (first left) (first right) = 0
    then compare (second left) (second right) else compare (first left) (first right)) ≤ 0))

theorem Collates.total (collates : Collates compare) (left right : JsString) :
    compare left right ≤ 0 ∨ compare right left ≤ 0 := by
  rw [collates.flip right left]
  exact Int.le_total _ _

theorem by_text_total (collates : Collates compare) (text : Item → JsString) :
    Std.Total (byText compare text) := ⟨fun _ _ => collates.total _ _⟩

theorem by_text_trans (collates : Collates compare) (text : Item → JsString) :
    IsTrans Item (byText compare text) := ⟨fun _ _ _ => collates.trans _ _ _⟩

theorem by_texts_iff (collates : Collates compare) {first second : Item → JsString}
    {left right : Item} : byTexts compare first second left right ↔
      compare (first left) (first right) ≤ 0 ∧ (compare (first right) (first left) ≤ 0 →
        compare (second left) (second right) ≤ 0) := by
  have turned := collates.flip (first right) (first left)
  unfold byTexts
  by_cases same : compare (first left) (first right) = 0
  · rw [if_pos same]
    constructor
    · exact fun later => ⟨by omega, fun _ => later⟩
    · exact fun both => both.2 (by omega)
  · rw [if_neg same]
    constructor
    · exact fun below => ⟨below, fun above => by omega⟩
    · exact And.left

theorem by_texts_total (collates : Collates compare) (first second : Item → JsString) :
    Std.Total (byTexts compare first second) := by
  constructor
  intro left right
  rw [by_texts_iff collates, by_texts_iff collates]
  rcases collates.total (first left) (first right) with below | below
  · by_cases above : compare (first right) (first left) ≤ 0
    · rcases collates.total (second left) (second right) with later | later
      · exact .inl ⟨below, fun _ => later⟩
      · exact .inr ⟨above, fun _ => later⟩
    · exact .inl ⟨below, fun turned => absurd turned above⟩
  · by_cases above : compare (first left) (first right) ≤ 0
    · rcases collates.total (second left) (second right) with later | later
      · exact .inl ⟨above, fun _ => later⟩
      · exact .inr ⟨below, fun _ => later⟩
    · exact .inr ⟨below, fun turned => absurd turned above⟩

theorem by_texts_trans (collates : Collates compare) (first second : Item → JsString) :
    IsTrans Item (byTexts compare first second) := by
  constructor
  intro left middle right
  rw [by_texts_iff collates, by_texts_iff collates, by_texts_iff collates]
  rintro ⟨below, later⟩ ⟨under, next⟩
  refine ⟨collates.trans _ _ _ below under, fun turned => ?_⟩
  apply collates.trans _ _ _ (later (collates.trans _ _ _ under turned))
  exact next (collates.trans _ _ _ turned below)

end Collations

section Documents

variable {Item Key : Type} {key : Item → Key}

/-- The keys of the items can be read off what the document means. -/
def Shows (document : List Item → JsValue) (key : Item → Key) : Prop :=
  ∀ left right, meaning (document left) = meaning (document right) → left.map key = right.map key

theorem items_shown {toJson : Item → JsValue} {left right : List Item}
    (shown : ∀ one other, meaning (toJson one) = meaning (toJson other) → key one = key other)
    (same : meaning (.arr (left.map toJson)) = meaning (.arr (right.map toJson))) :
    left.map key = right.map key := by
  rw [meaning, meaning, meaning_items, meaning_items, JsonTree.arr.injEq] at same
  induction left generalizing right with
  | nil =>
      cases right with
      | nil => rfl
      | cons other later => cases same
  | cons first rest ih =>
      cases right with
      | nil => cases same
      | cons other later =>
          simp only [List.map_cons, List.cons.injEq] at same
          rw [List.map_cons, List.map_cons, shown first other same.1, ih same.2]

theorem first_text {name : String} {text other : JsString} {rest more : List (String × JsValue)}
    (same : meaning (object ((name, .str text) :: rest)) =
      meaning (object ((name, .str other) :: more))) : text = other := by
  simp only [object, meaning, JsonTree.obj.injEq, meaning_fields] at same
  have here := congrFun same (js name)
  simpa [Records.findEntry, meaning] using here

end Documents

section Digests

variable [Engine] {Item Key : Type} {before again : Item → Item → Prop} [DecidableRel before]
  [DecidableRel again] {key : Item → Key} {items : List Item} {domain digest : JsString}
  {document : List Item → JsValue}

-- A digest of the sorted list is a digest of every order of it exactly if nothing ties.
theorem unmoved_digest_iff [Std.Total before] [IsTrans Item before]
    (ideal : Function.Injective Engine.sha256Hex) (shows : Shows document key)
    (unique : (items.map key).Nodup)
    (sealed : domainDigest domain (document (items.insertionSort before)) = .ok digest) :
    (∀ others, items.Perm others →
      domainDigest domain (document (others.insertionSort before)) = .ok digest) ↔
      Apart before items := by
  constructor
  · intro alike
    apply (unmoved_iff unique).mp
    intro others order
    exact shows _ _ (digest_meaning ideal (alike others order) sealed)
  · intro apart others order
    rw [sorted_unmoved apart order]
    exact sealed

-- It is the digest of the list sorted once more exactly if that order agrees.
theorem settled_digest_iff [Std.Total before] [IsTrans Item before] [Std.Total again]
    [IsTrans Item again] (ideal : Function.Injective Engine.sha256Hex)
    (shows : Shows document key) (unique : (items.map key).Nodup) (apart : Apart before items)
    (sealed : domainDigest domain (document (items.insertionSort before)) = .ok digest) :
    domainDigest domain (document ((items.insertionSort before).insertionSort again)) = .ok digest ↔
      Kept before again items := by
  rw [← settled_iff unique apart]
  constructor
  · intro resealed
    exact shows _ _ (digest_meaning ideal resealed sealed)
  · intro settled
    rw [settled_same unique settled]
    exact sealed

-- What holds of a seal with one list of records, and of its verification on another host.
theorem sealed_orders_iff [Std.Total before] [IsTrans Item before] [Std.Total again]
    [IsTrans Item again] (ideal : Function.Injective Engine.sha256Hex) (shows : Shows document key)
    (unique : (items.map key).Nodup)
    (sealed : domainDigest domain (document (items.insertionSort before)) = .ok digest)
    {alike : List Item → Prop} {verified : Prop}
    (resealed : ∀ others, items.Perm others → (alike others ↔
      domainDigest domain (document (others.insertionSort before)) = .ok digest))
    (verifies : verified ↔
      domainDigest domain (document ((items.insertionSort before).insertionSort again)) = .ok digest) :
    ((∀ others, items.Perm others → alike others) ∧ verified) ↔
      Apart before items ∧ Kept before again items := by
  have unmoved := unmoved_digest_iff ideal shows unique sealed
  rw [verifies]
  constructor
  · rintro ⟨every, resorted⟩
    have apart := unmoved.mp fun others order => (resealed others order).mp (every others order)
    exact ⟨apart, (settled_digest_iff ideal shows unique apart sealed).mp resorted⟩
  · rintro ⟨apart, kept⟩
    refine ⟨fun others order => ?_, (settled_digest_iff ideal shows unique apart sealed).mpr kept⟩
    exact (resealed others order).mpr (unmoved.mpr apart others order)

end Digests

section Hosts

variable [here : Engine]

theorem digest_filled (named : ∀ text, Engine.sha256Hex text ≠ []) {domain digest : JsString}
    {document : JsValue} (digested : domainDigest domain document = .ok digest) : digest ≠ [] := by
  rw [digest_ok_iff] at digested
  rcases digested with ⟨-, rfl⟩
  exact named _

@[reducible] def elsewhere (compare : JsString → JsString → Int) : Engine :=
  { here with localeCompare := compare }

end Hosts

section Receipts

variable [here : Engine] {compare : JsString → JsString → Int} {core : AttemptReceiptCoreV1}
  {envelope : AttemptReceiptEnvelopeV1} {evidence : List ReceiptEvidenceV1}

abbrev evidenceBefore (compare : JsString → JsString → Int) :
    ReceiptEvidenceV1 → ReceiptEvidenceV1 → Prop :=
  byText compare ReceiptEvidenceV1.digest

def receiptOf (core : AttemptReceiptCoreV1) (evidence : List ReceiptEvidenceV1) : JsValue :=
  ({ core with evidence := evidence } : AttemptReceiptCoreV1).toJson

theorem seal_receipt_iff : sealAttemptReceipt core = .ok envelope ↔
    validateAttemptReceiptCore core = .ok () ∧ ∃ digest,
      domainDigest (js "horseness.attempt-receipt.v1") (receiptOf core
        (core.evidence.insertionSort (evidenceBefore Engine.localeCompare))) = .ok digest ∧
      envelope = ⟨{ core with
        evidence := core.evidence.insertionSort (evidenceBefore Engine.localeCompare) },
        digestId (js "rcp_") digest, digest⟩ := by
  rw [sealAttemptReceipt, check_ok_iff]
  simp only [bind_ok_iff, pure_ok_iff, eq_comm (b := envelope)]
  exact Iff.rfl

omit here in
theorem receipt_shows (core : AttemptReceiptCoreV1) :
    Shows (receiptOf core) ReceiptEvidenceV1.digest := by
  intro left right same
  rw [receiptOf, receiptOf, AttemptReceiptCoreV1.toJson, AttemptReceiptCoreV1.toJson] at same
  have fields := object_meaning same rfl
    (by simp only [List.map_cons, List.map_nil]; decide)
  simp only [List.map_cons, List.cons.injEq] at fields
  obtain ⟨-, -, -, -, -, -, -, -, -, -, -, -, -, -, -, -, -, -, -, -, -, -, listed, -⟩ := fields
  exact items_shown (fun _ _ alike => first_text alike) listed

theorem evidence_unique (valid : validateAttemptReceiptCore core = .ok ()) :
    (core.evidence.map ReceiptEvidenceV1.digest).Nodup := by
  simp only [validateAttemptReceiptCore, check_ok_iff, ensure_ok_iff] at valid
  rcases valid with ⟨-, -, -, -, -, valid⟩
  split at valid
  · simp only [check_ok_iff, ensure_ok_iff] at valid
    exact valid.2.1.1
  · simp only [check_ok_iff, ensure_ok_iff] at valid
    exact valid.2.1.1

theorem receipt_order_valid (order : core.evidence.Perm evidence) :
    validateAttemptReceiptCore { core with evidence := evidence } = validateAttemptReceiptCore core := by
  have unique := (order.map ReceiptEvidenceV1.digest).nodup_iff
  have filled : (∀ item ∈ evidence, item.digest ≠ [] ∧ item.mediaType ≠ [] ∧
      item.size ≤ Cursors.maxSafeInteger) ↔ ∀ item ∈ core.evidence, item.digest ≠ [] ∧
      item.mediaType ≠ [] ∧ item.size ≤ Cursors.maxSafeInteger :=
    forall_congr' fun item => imp_congr_left order.mem_iff.symm
  simp only [validateAttemptReceiptCore, ← unique, filled, AttemptReceiptCoreV1.requiredTexts]

theorem verify_receipt_iff : verifyAttemptReceipt envelope = .ok () ↔ envelope.receiptId ≠ [] ∧
    envelope.receiptDigest ≠ [] ∧
    validateAttemptReceiptCore envelope.toAttemptReceiptCoreV1 = .ok () ∧
    ∃ expected, sealAttemptReceipt envelope.toAttemptReceiptCoreV1 = .ok expected ∧
      expected.receiptDigest = envelope.receiptDigest ∧
      expected.receiptId = envelope.receiptId := by
  rw [verifyAttemptReceipt, check_ok_iff, check_ok_iff, check_ok_iff, bind_ok_iff]
  simp only [receiptText, Cursors.nonEmpty, ensure_ok_iff]

theorem receipt_verified_iff (named : ∀ text, Engine.sha256Hex text ≠ [])
    (sealed : sealAttemptReceipt core = .ok envelope) :
    @verifyAttemptReceipt (elsewhere compare) envelope = .ok () ↔
      domainDigest (js "horseness.attempt-receipt.v1") (receiptOf core
        ((core.evidence.insertionSort (evidenceBefore Engine.localeCompare)).insertionSort
          (evidenceBefore compare))) = .ok envelope.receiptDigest := by
  obtain ⟨valid, digest, digested, rfl⟩ := seal_receipt_iff.mp sealed
  have still : validateAttemptReceiptCore { core with
      evidence := core.evidence.insertionSort (evidenceBefore Engine.localeCompare) } = .ok () :=
    (receipt_order_valid (List.perm_insertionSort _ _).symm).trans valid
  rw [@verify_receipt_iff (elsewhere compare)]
  constructor
  · rintro ⟨-, -, -, again, resealed, same, -⟩
    obtain ⟨-, other, redigested, rfl⟩ := (@seal_receipt_iff (elsewhere compare) _ _).mp resealed
    have agreed : other = digest := same
    rw [agreed] at redigested
    exact redigested
  · intro redigested
    refine ⟨List.append_ne_nil_of_left_ne_nil (by decide) _, digest_filled named digested, still, _,
      (@seal_receipt_iff (elsewhere compare) _ _).mpr ⟨still, digest, redigested, rfl⟩, rfl, rfl⟩

-- A receipt keeps its digest in every order, and passes elsewhere, if the collations allow it.
theorem receipt_orders_iff (ideal : Function.Injective Engine.sha256Hex)
    (named : ∀ text, Engine.sha256Hex text ≠ []) (sealing : Collates Engine.localeCompare)
    (verifying : Collates compare) (sealed : sealAttemptReceipt core = .ok envelope) :
    ((∀ evidence, core.evidence.Perm evidence →
      ∃ other, sealAttemptReceipt { core with evidence := evidence } = .ok other ∧
        other.receiptDigest = envelope.receiptDigest) ∧
      @verifyAttemptReceipt (elsewhere compare) envelope = .ok ()) ↔
      Apart (evidenceBefore Engine.localeCompare) core.evidence ∧
        Kept (evidenceBefore Engine.localeCompare) (evidenceBefore compare) core.evidence := by
  have := by_text_total sealing ReceiptEvidenceV1.digest
  have := by_text_trans sealing ReceiptEvidenceV1.digest
  have := by_text_total verifying ReceiptEvidenceV1.digest
  have := by_text_trans verifying ReceiptEvidenceV1.digest
  obtain ⟨valid, digest, digested, same⟩ := seal_receipt_iff.mp sealed
  have agreed : envelope.receiptDigest = digest := by rw [same]
  rw [agreed]
  apply sealed_orders_iff ideal (receipt_shows core) (evidence_unique valid) digested
  · intro evidence order
    constructor
    · rintro ⟨other, resealed, rfl⟩
      obtain ⟨-, found, redigested, rfl⟩ := seal_receipt_iff.mp resealed
      exact redigested
    · intro redigested
      refine ⟨_, seal_receipt_iff.mpr ⟨?_, digest, redigested, rfl⟩, rfl⟩
      exact (receipt_order_valid order).trans valid
  · rw [← agreed]
    exact receipt_verified_iff named sealed

end Receipts

section Proposals

variable [here : Engine] {compare : JsString → JsString → Int} {core : ProposalEnvelopeCoreV1}
  {envelope : ProposalEnvelopeV1} {claims : List EvidenceClaim} {digests : List JsString}

/-- Claims in the order of their digests, and of their texts where those are equal. -/
abbrev claimOrder (compare : JsString → JsString → Int) : EvidenceClaim → EvidenceClaim → Prop :=
  byTexts compare EvidenceClaim.digest EvidenceClaim.claim

def proposalOf (core : ProposalEnvelopeCoreV1) (claims : List EvidenceClaim) : JsValue :=
  ({ core with
    receiptDigests := core.receiptDigests.insertionSort (· ≤ ·)
    evidenceClaims := claims } : ProposalEnvelopeCoreV1).toJson

theorem seal_proposal_iff : sealProposal core = .ok envelope ↔
    validateProposalCore core = .ok () ∧ ∃ digest,
      domainDigest (js "horseness.proposal.v1") (proposalOf core
        (core.evidenceClaims.insertionSort (claimOrder Engine.localeCompare))) = .ok digest ∧
      envelope = ⟨{ core with
        receiptDigests := core.receiptDigests.insertionSort (· ≤ ·)
        evidenceClaims := core.evidenceClaims.insertionSort (claimOrder Engine.localeCompare) },
        digest, digestId (js "prp_") digest⟩ := by
  rw [sealProposal, check_ok_iff]
  simp only [bind_ok_iff, pure_ok_iff, eq_comm (b := envelope)]
  exact Iff.rfl

omit here in
theorem sorted_texts {others : List JsString} (order : digests.Perm others) :
    others.insertionSort (· ≤ ·) = digests.insertionSort (· ≤ ·) := by
  have : Std.Total (fun left right : JsString => left ≤ right) := ⟨List.le_total⟩
  have : IsTrans JsString (fun left right => left ≤ right) := ⟨fun _ _ _ => List.le_trans⟩
  apply sorted_unmoved _ order
  intro left _ right _ below above
  exact List.le_antisymm below above

omit here in
theorem proposal_shows (core : ProposalEnvelopeCoreV1) :
    Shows (proposalOf core) EvidenceClaim.digest := by
  intro left right same
  rw [proposalOf, proposalOf, ProposalEnvelopeCoreV1.toJson, ProposalEnvelopeCoreV1.toJson] at same
  have fields := object_meaning same rfl
    (by simp only [List.map_cons, List.map_nil]; decide)
  simp only [List.map_cons, List.cons.injEq] at fields
  rcases fields with ⟨-, -, -, -, -, -, -, -, -, -, -, -, -, -, -, -, listed, -⟩
  exact items_shown (fun _ _ alike => first_text alike) listed

theorem claims_unique (valid : validateProposalCore core = .ok ()) :
    (core.evidenceClaims.map EvidenceClaim.digest).Nodup := by
  simp only [validateProposalCore, check_ok_iff, ensure_ok_iff] at valid
  rcases valid with ⟨-, -, -, -, -, -, -, -, -, ⟨-, unique, -⟩, -⟩
  exact unique

theorem proposal_order_valid (shuffled : core.receiptDigests.Perm digests)
    (order : core.evidenceClaims.Perm claims) :
    validateProposalCore { core with receiptDigests := digests, evidenceClaims := claims } =
      validateProposalCore core := by
  have distinct := shuffled.nodup_iff
  have named : (∀ digest ∈ digests, digest ≠ []) ↔ ∀ digest ∈ core.receiptDigests, digest ≠ [] :=
    forall_congr' fun digest => imp_congr_left shuffled.mem_iff.symm
  have unique := (order.map EvidenceClaim.digest).nodup_iff
  have once := (order.map EvidenceClaim.claim).nodup_iff
  have filled : (∀ item ∈ claims, item.digest ≠ [] ∧ item.claim ≠ []) ↔
      ∀ item ∈ core.evidenceClaims, item.digest ≠ [] ∧ item.claim ≠ [] :=
    forall_congr' fun item => imp_congr_left order.mem_iff.symm
  simp only [validateProposalCore, ← unique, ← once, ← distinct, named, filled,
    ProposalEnvelopeCoreV1.requiredTexts]

theorem verify_proposal_iff : verifyProposal envelope = .ok () ↔ envelope.proposalDigest ≠ [] ∧
    envelope.proposalId ≠ [] ∧ validateProposalCore envelope.core = .ok () ∧
    ∃ expected, sealProposal envelope.core = .ok expected ∧
      expected.proposalDigest = envelope.proposalDigest ∧
      expected.proposalId = envelope.proposalId := by
  rw [verifyProposal, check_ok_iff, check_ok_iff, check_ok_iff, bind_ok_iff]
  simp only [envelopeText, Cursors.nonEmpty, ensure_ok_iff]

theorem proposal_verified_iff (named : ∀ text, Engine.sha256Hex text ≠ [])
    (sealed : sealProposal core = .ok envelope) :
    @verifyProposal (elsewhere compare) envelope = .ok () ↔
      domainDigest (js "horseness.proposal.v1") (proposalOf core
        ((core.evidenceClaims.insertionSort (claimOrder Engine.localeCompare)).insertionSort
          (claimOrder compare))) = .ok envelope.proposalDigest := by
  obtain ⟨valid, digest, digested, rfl⟩ := seal_proposal_iff.mp sealed
  have still : validateProposalCore { core with
      receiptDigests := core.receiptDigests.insertionSort (· ≤ ·)
      evidenceClaims := core.evidenceClaims.insertionSort (claimOrder Engine.localeCompare) } =
        .ok () :=
    (proposal_order_valid (List.perm_insertionSort _ _).symm
      (List.perm_insertionSort _ _).symm).trans valid
  have once := sorted_texts (List.perm_insertionSort (· ≤ ·) core.receiptDigests).symm
  rw [@verify_proposal_iff (elsewhere compare)]
  constructor
  · rintro ⟨-, -, -, again, resealed, same, -⟩
    obtain ⟨-, other, redigested, rfl⟩ := (@seal_proposal_iff (elsewhere compare) _ _).mp resealed
    have agreed : other = digest := same
    rw [agreed, proposalOf, once] at redigested
    exact redigested
  · intro redigested
    refine ⟨digest_filled named digested, List.append_ne_nil_of_left_ne_nil (by decide) _, still, _,
      (@seal_proposal_iff (elsewhere compare) _ _).mpr ⟨still, digest, ?_, rfl⟩, rfl, rfl⟩
    rw [proposalOf, once]
    exact redigested

/-- A proposal keeps its digest in every order, and passes elsewhere, if the collations allow it. -/
theorem proposal_orders_iff (ideal : Function.Injective Engine.sha256Hex)
    (named : ∀ text, Engine.sha256Hex text ≠ []) (sealing : Collates Engine.localeCompare)
    (verifying : Collates compare) (sealed : sealProposal core = .ok envelope) :
    ((∀ claims, core.evidenceClaims.Perm claims → ∀ digests, core.receiptDigests.Perm digests →
      ∃ other, sealProposal { core with receiptDigests := digests, evidenceClaims := claims } =
        .ok other ∧ other.proposalDigest = envelope.proposalDigest) ∧
      @verifyProposal (elsewhere compare) envelope = .ok ()) ↔
      Apart (claimOrder Engine.localeCompare) core.evidenceClaims ∧
        Kept (claimOrder Engine.localeCompare) (claimOrder compare) core.evidenceClaims := by
  have := by_texts_total sealing EvidenceClaim.digest EvidenceClaim.claim
  have := by_texts_trans sealing EvidenceClaim.digest EvidenceClaim.claim
  have := by_texts_total verifying EvidenceClaim.digest EvidenceClaim.claim
  have := by_texts_trans verifying EvidenceClaim.digest EvidenceClaim.claim
  obtain ⟨valid, digest, digested, same⟩ := seal_proposal_iff.mp sealed
  have agreed : envelope.proposalDigest = digest := by rw [same]
  rw [agreed]
  apply sealed_orders_iff ideal (proposal_shows core) (claims_unique valid) digested
  · intro claims order
    constructor
    · intro alike
      obtain ⟨other, resealed, rfl⟩ := alike core.receiptDigests (.refl _)
      obtain ⟨-, found, redigested, rfl⟩ := seal_proposal_iff.mp resealed
      exact redigested
    · intro redigested digests shuffled
      refine ⟨_, seal_proposal_iff.mpr ⟨?_, digest, ?_, rfl⟩, rfl⟩
      · exact (proposal_order_valid shuffled order).trans valid
      · rw [proposalOf, sorted_texts shuffled]
        exact redigested
  · rw [← agreed]
    exact proposal_verified_iff named sealed

end Proposals

section Snapshots

variable [here : Engine] {core : DependencyJoinSnapshotCoreV1} {digest : JsString}
  {dependencies : List DependencyOutcomeV1} {codes : List JsString}

/-- Outcomes in the order of their sources, and of their edges where those are equal. -/
abbrev outcomeBefore (compare : JsString → JsString → Int) :
    DependencyOutcomeV1 → DependencyOutcomeV1 → Prop :=
  byTexts compare DependencyOutcomeV1.sourceTaskId DependencyOutcomeV1.edgeId

def snapshotOf (core : DependencyJoinSnapshotCoreV1) (dependencies : List DependencyOutcomeV1) :
    JsValue :=
  ({ core with
    dependencies := dependencies
    reasonCodes := core.reasonCodes.dedup.insertionSort (· ≤ ·) } :
      DependencyJoinSnapshotCoreV1).toJson

theorem seal_snapshot_iff : sealDependencyJoinSnapshot core = .ok digest ↔
    ((core.dependencies.map DependencyOutcomeV1.edgeId).Nodup ∧ ∀ item ∈ core.dependencies,
      1 ≤ item.taskResolutionEventSequence ∧ item.taskResolutionDigest ≠ []) ∧
    domainDigest (js "horseness.dependency-join-snapshot-core.v1") (snapshotOf core
      (core.dependencies.insertionSort (outcomeBefore Engine.localeCompare))) = .ok digest := by
  have sorted := List.perm_insertionSort dependencyBefore core.dependencies
  rw [sealDependencyJoinSnapshot, check_ok_iff, ensure_ok_iff,
    (sorted.map DependencyOutcomeV1.edgeId).nodup_iff]
  simp only [sorted.mem_iff]
  exact Iff.rfl

omit here in
theorem snapshot_shows (core : DependencyJoinSnapshotCoreV1) :
    Shows (snapshotOf core) DependencyOutcomeV1.edgeId := by
  intro left right same
  rw [snapshotOf, snapshotOf, DependencyJoinSnapshotCoreV1.toJson,
    DependencyJoinSnapshotCoreV1.toJson] at same
  have fields := object_meaning same rfl
    (by simp only [List.map_cons, List.map_nil]; decide)
  simp only [List.map_cons, List.cons.injEq] at fields
  rcases fields with ⟨-, -, -, -, -, -, listed, -⟩
  exact items_shown (fun _ _ alike => first_text alike) listed

/-- A snapshot keeps its digest in every order of its lists if the collation tells outcomes apart. -/
theorem snapshot_orders_iff (ideal : Function.Injective Engine.sha256Hex)
    (sealing : Collates Engine.localeCompare)
    (sealed : sealDependencyJoinSnapshot core = .ok digest) :
    (∀ dependencies, core.dependencies.Perm dependencies →
      ∀ codes, core.reasonCodes.Perm codes → sealDependencyJoinSnapshot
        { core with dependencies := dependencies, reasonCodes := codes } = .ok digest) ↔
      Apart (outcomeBefore Engine.localeCompare) core.dependencies := by
  have := by_texts_total sealing DependencyOutcomeV1.sourceTaskId DependencyOutcomeV1.edgeId
  have := by_texts_trans sealing DependencyOutcomeV1.sourceTaskId DependencyOutcomeV1.edgeId
  obtain ⟨⟨unique, recorded⟩, digested⟩ := seal_snapshot_iff.mp sealed
  rw [← unmoved_digest_iff ideal (snapshot_shows core) unique digested]
  apply forall_congr'
  intro dependencies
  apply imp_congr_right
  intro order
  constructor
  · intro alike
    exact (seal_snapshot_iff.mp (alike core.reasonCodes (.refl _))).2
  · intro redigested codes shuffled
    refine seal_snapshot_iff.mpr ⟨⟨?_, fun item listed => ?_⟩, ?_⟩
    · exact (order.map DependencyOutcomeV1.edgeId).nodup_iff.mp unique
    · exact recorded item (order.mem_iff.mpr listed)
    · rw [snapshotOf, sorted_texts (shuffled.dedup)]
      exact redigested

end Snapshots

section Graphs

variable [here : Engine] {contracts : List TaskContractV2} {edges : List DependencyEdgeV1}
  {digest : JsString}

abbrev contractBefore (compare : JsString → JsString → Int) : TaskContractV2 → TaskContractV2 → Prop :=
  byText compare TaskContractV2.taskId

abbrev edgeBefore (compare : JsString → JsString → Int) : DependencyEdgeV1 → DependencyEdgeV1 → Prop :=
  byText compare DependencyEdgeV1.edgeId

def graphOf (contracts : List TaskContractV2) (edges : List DependencyEdgeV1) : JsValue :=
  object [("contracts", .arr (contracts.map TaskContractV2.toJson)),
    ("edges", .arr (edges.map DependencyEdgeV1.toJson))]

theorem graph_digest_iff : taskWorkflowGraphDigestV1 contracts edges = .ok digest ↔
    assertAcyclic (contracts.map TaskContractV2.taskId) edges = .ok () ∧
      domainDigest (js "horseness.task-workflow-graph.v1")
        (graphOf (contracts.insertionSort (contractBefore Engine.localeCompare))
          (edges.insertionSort (edgeBefore Engine.localeCompare))) = .ok digest := by
  rw [taskWorkflowGraphDigestV1, check_ok_iff]
  exact Iff.rfl

omit here in
theorem contracts_shown (edges : List DependencyEdgeV1) :
    Shows (graphOf · edges) TaskContractV2.taskId := by
  intro left right same
  simp only [graphOf] at same
  have fields := object_meaning same rfl (by simp only [List.map_cons, List.map_nil]; decide)
  simp only [List.map_cons, List.cons.injEq] at fields
  apply items_shown _ fields.1
  intro one other alike
  rw [TaskContractV2.toJson, TaskContractV2.toJson] at alike
  have parts := object_meaning alike rfl
    (by simp only [List.map_cons, List.map_nil]; decide)
  simp only [List.map_cons, List.cons.injEq, meaning, JsonTree.str.injEq] at parts
  exact parts.2.1

omit here in
theorem edges_shown (contracts : List TaskContractV2) :
    Shows (graphOf contracts) DependencyEdgeV1.edgeId := by
  intro left right same
  simp only [graphOf] at same
  have fields := object_meaning same rfl (by simp only [List.map_cons, List.map_nil]; decide)
  simp only [List.map_cons, List.cons.injEq] at fields
  exact items_shown (fun _ _ alike => first_text alike) fields.2.1

omit here in
theorem acyclic_order_iff {tasks others : List JsString} {more : List DependencyEdgeV1}
    (shuffled : tasks.Perm others) (order : edges.Perm more) :
    assertAcyclic others more = .ok () ↔ assertAcyclic tasks edges = .ok () := by
  have leads : Leads (outgoing more) = Leads (outgoing edges) := by
    funext task child
    simp only [Leads, outgoing_iff, order.mem_iff]
  have joined : (∀ edge ∈ more, Joins others edge) ↔ ∀ edge ∈ edges, Joins tasks edge := by
    simp only [joins_iff, order.mem_iff, shuffled.mem_iff]
  rw [acyclic_iff, acyclic_iff, shuffled.nodup_iff, (order.map DependencyEdgeV1.edgeId).nodup_iff,
    joined, Acyclic, leads, Acyclic]

-- A graph keeps its digest in every order of its lists if the collation tells its names apart.
theorem graph_orders_iff (ideal : Function.Injective Engine.sha256Hex)
    (sealing : Collates Engine.localeCompare)
    (sealed : taskWorkflowGraphDigestV1 contracts edges = .ok digest) :
    (∀ others, contracts.Perm others → ∀ more, edges.Perm more →
      taskWorkflowGraphDigestV1 others more = .ok digest) ↔
      Apart (contractBefore Engine.localeCompare) contracts ∧
        Apart (edgeBefore Engine.localeCompare) edges := by
  have := by_text_total sealing TaskContractV2.taskId
  have := by_text_trans sealing TaskContractV2.taskId
  have := by_text_total sealing DependencyEdgeV1.edgeId
  have := by_text_trans sealing DependencyEdgeV1.edgeId
  obtain ⟨accepted, digested⟩ := graph_digest_iff.mp sealed
  obtain ⟨tasksUnique, -, edgesUnique, -⟩ := acyclic_iff.mp accepted
  constructor
  · intro alike
    constructor
    · apply (unmoved_digest_iff ideal (contracts_shown _) tasksUnique digested).mp
      intro others order
      exact (graph_digest_iff.mp (alike others order edges (.refl _))).2
    · apply (unmoved_digest_iff ideal (edges_shown _) edgesUnique digested).mp
      intro more order
      exact (graph_digest_iff.mp (alike contracts (.refl _) more order)).2
  · rintro ⟨tasksApart, edgesApart⟩ others shuffled more order
    apply graph_digest_iff.mpr
    rw [sorted_unmoved tasksApart shuffled, sorted_unmoved edgesApart order,
      acyclic_order_iff (shuffled.map _) order]
    exact ⟨accepted, digested⟩

end Graphs

section Main

variable [here : Engine] {compare : JsString → JsString → Int}

/-- What decides whether the seals ignore the order of their lists. -/
theorem seal_orders (ideal : Function.Injective Engine.sha256Hex)
    (named : ∀ text, Engine.sha256Hex text ≠ []) (sealing : Collates Engine.localeCompare)
    (verifying : Collates compare) :
    (∀ core envelope, sealAttemptReceipt core = .ok envelope →
      (((∀ evidence, core.evidence.Perm evidence →
        ∃ other, sealAttemptReceipt { core with evidence := evidence } = .ok other ∧
          other.receiptDigest = envelope.receiptDigest) ∧
        @verifyAttemptReceipt (elsewhere compare) envelope = .ok ()) ↔
        Apart (evidenceBefore Engine.localeCompare) core.evidence ∧
          Kept (evidenceBefore Engine.localeCompare) (evidenceBefore compare) core.evidence)) ∧
    (∀ core envelope, sealProposal core = .ok envelope →
      (((∀ claims, core.evidenceClaims.Perm claims →
        ∀ digests, core.receiptDigests.Perm digests → ∃ other,
          sealProposal { core with receiptDigests := digests, evidenceClaims := claims } =
            .ok other ∧ other.proposalDigest = envelope.proposalDigest) ∧
        @verifyProposal (elsewhere compare) envelope = .ok ()) ↔
        Apart (claimOrder Engine.localeCompare) core.evidenceClaims ∧
          Kept (claimOrder Engine.localeCompare) (claimOrder compare) core.evidenceClaims)) ∧
    (∀ core digest, sealDependencyJoinSnapshot core = .ok digest →
      ((∀ dependencies, core.dependencies.Perm dependencies →
        ∀ codes, core.reasonCodes.Perm codes → sealDependencyJoinSnapshot
          { core with dependencies := dependencies, reasonCodes := codes } = .ok digest) ↔
        Apart (outcomeBefore Engine.localeCompare) core.dependencies)) ∧
    (∀ contracts edges digest, taskWorkflowGraphDigestV1 contracts edges = .ok digest →
      ((∀ others, contracts.Perm others → ∀ more, edges.Perm more →
        taskWorkflowGraphDigestV1 others more = .ok digest) ↔
        Apart (contractBefore Engine.localeCompare) contracts ∧
          Apart (edgeBefore Engine.localeCompare) edges)) := by
  refine ⟨?_, ?_, ?_, ?_⟩
  · intro core envelope sealed
    exact receipt_orders_iff ideal named sealing verifying sealed
  · intro core envelope sealed
    exact proposal_orders_iff ideal named sealing verifying sealed
  · intro core digest sealed
    exact snapshot_orders_iff ideal sealing sealed
  · intro contracts edges digest sealed
    exact graph_orders_iff ideal sealing sealed

end Main

section Accents

open RecordedRuns JoinEvaluations PinnedPolicies

theorem Collates.through {compare : JsString → JsString → Int} (collates : Collates compare)
    (form : JsString → JsString) : Collates fun left right => compare (form left) (form right) where
  flip _ _ := collates.flip _ _
  trans _ _ _ := collates.trans _ _ _

theorem units_turned (left right : JsString) : compareUnits left right = -compareUnits right left := by
  induction left generalizing right with
  | nil => cases right <;> rfl
  | cons first rest ih =>
      cases right with
      | nil => rfl
      | cons second tail =>
          rw [compareUnits, compareUnits, ih tail]
          by_cases below : first < second
          · rw [if_pos below, if_neg (UInt16.lt_asymm below), if_pos below]
          · rw [if_neg below, if_neg below]
            by_cases above : second < first
            · rw [if_pos above, if_pos above]
              rfl
            · rw [if_neg above, if_neg above]

theorem units_collate : Collates compareUnits where
  flip left right := by
    rw [units_turned left right]
    omega
  trans left middle right := by
    rw [compare_units_iff, compare_units_iff, compare_units_iff]
    exact List.le_trans

def accentCollation (left right : JsString) : Int :=
  compareUnits (composeAcute left) (composeAcute right)

def accented : JsString := [0xE9]

def decomposed : JsString := [0x65, 0x301]

def evidencedCore (digests : List JsString) : AttemptReceiptCoreV1 :=
  { workspaceId := js "w"
    runId := js "r"
    taskId := js "t"
    attemptId := js "a"
    generation := 1
    attemptContextBindingDigest := js "b"
    contextManifestCoreDigest := js "m"
    forkPinDigest := js "f"
    providerId := js "p"
    providerOperationId := js "o"
    providerIdempotencyKeyDigest := js "k"
    producerPrincipalId := js "u"
    producerGrantDigest := js "g"
    adapterId := js "codex"
    adapterVersion := js "1"
    hostId := js "h"
    hostVersion := js "1"
    outcome := .failed
    startedAt := startOfYear
    finishedAt := secondLater
    outputDigest := none
    evidence := digests.map fun digest => ⟨digest, js "text/plain", 1⟩
    provenance := object []
    nonce := js "n" }

def evidencedText (digests : List JsString) : JsString :=
  js "horseness.attempt-receipt.v1" ++ 0 :: @serialize recordedNumbers (evidencedCore digests).toJson

def accentDigests : List (JsString × JsString) :=
  [(evidencedText [accented, decomposed],
      js "96a77ed874e22cd117c3bb0e4c7b6f9d17d7d11b46f8816e19ebed1e45180bcf"),
    (evidencedText [decomposed, accented],
      js "c59e4c0d5c01f07dfd384b997bdef861b77790778ed2bfef99b6dd7d63ea5484"),
    (evidencedText [js "a", js "b"],
      js "ce82794ae84097d347ccdd06f4033ca3dff4d1da568823da990c4e7b373de85e")]

@[reducible] def accentEngine : Engine :=
  { recordedEngine with
    sha256Hex := tableDigest accentDigests
    localeCompare := accentCollation }

theorem accent_ideal : Function.Injective accentEngine.sha256Hex :=
  table_injective (table_of_digests (by decide +kernel) (by decide +kernel))

theorem table_filled {table : List (JsString × JsString)}
    (filled : ∀ digest ∈ table.map Prod.snd, digest ≠ []) (text : JsString) :
    tableDigest table text ≠ [] := by
  rw [tableDigest]
  cases found : Records.findEntry text table with
  | none => exact List.cons_ne_nil _ _
  | some digest =>
      apply filled digest
      exact List.mem_map_of_mem (Records.find_member text digest table found)

theorem accent_named (text : JsString) : accentEngine.sha256Hex text ≠ [] :=
  table_filled (by decide +kernel) text

attribute [local instance] accentEngine

theorem accents_computed :
    endsIn (fun envelope => endsIn (fun other => envelope.receiptDigest ≠ other.receiptDigest)
        (sealAttemptReceipt (evidencedCore [decomposed, accented])) = true ∧
      failsWith .receiptMismatch (@verifyAttemptReceipt (elsewhere compareUnits) envelope) = true)
      (sealAttemptReceipt (evidencedCore [accented, decomposed])) = true ∧
    endsIn (fun _ => True) (sealAttemptReceipt (evidencedCore [js "a", js "b"])) = true := by
  decide +kernel

/-- Letters have one order under both collations. -/
theorem letters_keep_seal : ∃ envelope,
    sealAttemptReceipt (evidencedCore [js "a", js "b"]) = .ok envelope ∧
    (∀ evidence, (evidencedCore [js "a", js "b"]).evidence.Perm evidence →
      ∃ other, sealAttemptReceipt { evidencedCore [js "a", js "b"] with evidence := evidence } =
        .ok other ∧ other.receiptDigest = envelope.receiptDigest) ∧
    @verifyAttemptReceipt (elsewhere compareUnits) envelope = .ok () := by
  obtain ⟨envelope, sealed, -⟩ := ends_in_exists accents_computed.2
  have receipts := (seal_orders accent_ideal accent_named (units_collate.through composeAcute)
    units_collate).1 _ envelope sealed
  refine ⟨envelope, sealed, receipts.mpr ⟨?_, ?_⟩⟩
  · unfold Apart
    decide +kernel
  · unfold Kept
    decide +kernel

/-- One accent, written in two ways: the digest follows the order of the list, and a host that
tells the two apart refuses the receipt. -/
theorem accents_move_seal : ∃ envelope,
    sealAttemptReceipt (evidencedCore [accented, decomposed]) = .ok envelope ∧
    (¬ ∀ evidence, (evidencedCore [accented, decomposed]).evidence.Perm evidence → ∃ other,
      sealAttemptReceipt { evidencedCore [accented, decomposed] with evidence := evidence } =
        .ok other ∧ other.receiptDigest = envelope.receiptDigest) ∧
    @verifyAttemptReceipt (elsewhere compareUnits) envelope = .error .receiptMismatch := by
  obtain ⟨envelope, sealed, found⟩ := ends_in_exists accents_computed.1
  obtain ⟨moved, refused⟩ := of_decide_eq_true found
  refine ⟨envelope, sealed, fun alike => ?_, fails_with_eq refused⟩
  obtain ⟨other, resealed, same⟩ := alike (evidencedCore [decomposed, accented]).evidence
    (List.Perm.swap _ _ _)
  obtain ⟨swapped, sealedAgain, differs⟩ := ends_in_exists moved
  have one : other = swapped := Except.ok.inj (resealed.symm.trans sealedAgain)
  rw [one] at same
  exact of_decide_eq_true differs same.symm

end Accents

end Horseness.SealOrders
