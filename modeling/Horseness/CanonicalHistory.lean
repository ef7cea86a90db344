import Horseness.RecordedRuns
import Horseness.ReplaySteps

/-!
The documents of a run. A chain is read for what it says about the document alone: the
initial document and the accepted deltas. Replay keeps the last of these documents, its
hash and the number of deltas, whatever other events stand between them.
-/

namespace Horseness.CanonicalHistory

open FallibleRuns ScriptText JsonValues ScriptEngine Canonical EventPayloads EventChains Replay
  ReplaySteps RecordedRuns

section History

structure AcceptedDelta where
  proposalId : JsString
  priorStateHash : JsString
  resultingDocument : JsValue

def acceptedDelta : DomainEventPayloadV1 → Option AcceptedDelta
  | .run (.deltaAcceptedV1 _ _ proposalId _ priorStateHash _ resultingDocument) =>
      some ⟨proposalId, priorStateHash, resultingDocument⟩
  | _ => none

def documentOf : DomainEventPayloadV1 → Option JsValue
  | .run (.runCreatedV1 _ _ initialDocument) => some initialDocument
  | .run (.deltaAcceptedV1 _ _ _ _ _ _ resultingDocument) => some resultingDocument
  | _ => none

def deltas (events : List HashedEventEnvelopeV1) : List AcceptedDelta :=
  events.filterMap fun item => acceptedDelta item.envelope.payload

def documentPayloads (events : List HashedEventEnvelopeV1) : List DomainEventPayloadV1 :=
  (events.map fun item => item.envelope.payload).filter fun payload => (documentOf payload).isSome

def documents (events : List HashedEventEnvelopeV1) : List JsValue :=
  (documentPayloads events).filterMap fun payload => (documentOf payload).map normalize

variable (front : List HashedEventEnvelopeV1) (item : HashedEventEnvelopeV1)

theorem deltas_concat : deltas (front ++ [item]) =
    deltas front ++ (acceptedDelta item.envelope.payload).toList := by
  cases given : acceptedDelta item.envelope.payload <;> simp [deltas, given]

theorem documents_concat : documents (front ++ [item]) =
    documents front ++ ((documentOf item.envelope.payload).map normalize).toList := by
  cases given : documentOf item.envelope.payload <;> simp [documents, documentPayloads, given]

end History

section Steps

variable [Engine] {before after : CanonicalDocument} {item : HashedEventEnvelopeV1}

/-- What an event of a replayed chain does to the document. -/
inductive DocumentEffect (before : CanonicalDocument) (item : HashedEventEnvelopeV1)
    (after : CanonicalDocument) : Prop where
  | kept (noDelta : acceptedDelta item.envelope.payload = none)
      (noDocument : documentOf item.envelope.payload = none) (same : after = before)
  | moved (delta : AcceptedDelta) (given : acceptedDelta item.envelope.payload = some delta)
      (document : documentOf item.envelope.payload = some delta.resultingDocument)
      (base : delta.priorStateHash = before.stateHash)
      (hashed : documentDigest (normalize delta.resultingDocument) = .ok after.stateHash)
      (written : after = { before with
        revision := before.revision + 1
        document := normalize delta.resultingDocument
        stateHash := after.stateHash
        acceptedProposalId := some delta.proposalId
        lastCanonicalEventSequence := item.envelope.sequence })

theorem document_effect (replayed : replayCanonical (some before) (canonicalEvent item.envelope
    item.envelope.payload) = .ok (some after)) : DocumentEffect before item after := by
  cases shape : canonicalEvent item.envelope item.envelope.payload with
  | none =>
      rw [shape] at replayed
      have same : after = before := (Option.some.inj (Except.ok.inj replayed)).symm
      apply DocumentEffect.kept _ _ same
      all_goals
        unfold canonicalEvent at shape
        split at shape <;> simp_all [acceptedDelta, documentOf]
  | some event =>
      rw [shape] at replayed
      simp only [replayCanonical, bind_ok_iff, pure_ok_iff, Option.some.injEq] at replayed
      obtain ⟨_, reduced, rfl⟩ := replayed
      unfold canonicalEvent at shape
      split at shape
      · cases shape
        simp [reduceCanonicalDocument, bind_ok_iff] at reduced
      · next _ _ proposalId _ priorStateHash resultingStateHash resultingDocument payload =>
          cases shape
          simp only [reduceCanonicalDocument, bind_ok_iff, required_ok_iff, ensure_ok_iff,
            pure_ok_iff] at reduced
          obtain ⟨_, found, _, _, _, _, _, base, _, digest, _, rfl, copy, cloned, rfl⟩ := reduced
          obtain rfl := Option.some.inj found
          have copied := ((clone_ok_iff _ _).mp cloned).2
          subst copied
          apply DocumentEffect.moved ⟨proposalId, priorStateHash, resultingDocument⟩
          · rw [payload]
            rfl
          · rw [payload]
            rfl
          · exact base
          · exact (digest_clone _ cloned).trans digest
          · rfl
      · cases shape

end Steps

section Chains

variable [Engine] {events : List HashedEventEnvelopeV1} {item : HashedEventEnvelopeV1}
  {result : ReplayResult}

/-- The document of a chain's replay, read off the chain. -/
structure DocumentHistory (events : List HashedEventEnvelopeV1) (canonical : CanonicalDocument) :
    Prop where
  document : (documents events).getLast? = some canonical.document
  hashed : documentDigest canonical.document = .ok canonical.stateHash
  revision : canonical.revision = (deltas events).length
  proposal : canonical.acceptedProposalId =
    (deltas events).getLast?.map AcceptedDelta.proposalId
  counted : (documents events).length = (deltas events).length + 1
  chained : ∀ (k : Nat) (delta : AcceptedDelta), (deltas events)[k]? = some delta → ∃ document,
    (documents events)[k]? = some document ∧ documentDigest document = .ok delta.priorStateHash

theorem history_begins (begins : Begins item result) : DocumentHistory [item] result.canonical := by
  obtain ⟨_, _, document, payload, _, hashed, shape⟩ := begins.created
  have noDeltas : deltas [item] = [] := by simp [deltas, payload, acceptedDelta]
  have one : documents [item] = [normalize document] := by
    simp [documents, documentPayloads, payload, documentOf]
  have kept : result.canonical.document = normalize document := by rw [shape]
  have unmoved : result.canonical.revision = 0 ∧ result.canonical.acceptedProposalId = none := by
    rw [shape]
    exact ⟨rfl, rfl⟩
  constructor
  · rw [one, kept]
    rfl
  · rw [kept]
    exact hashed
  · rw [noDeltas]
    exact unmoved.1
  · rw [noDeltas]
    exact unmoved.2
  · rw [one, noDeltas]
    rfl
  · rw [noDeltas]
    simp

theorem history_continues {front : List HashedEventEnvelopeV1} {before after : CanonicalDocument}
    (history : DocumentHistory front before) (effect : DocumentEffect before item after) :
    DocumentHistory (front ++ [item]) after := by
  cases effect with
  | kept noDelta noDocument same =>
      have sameDeltas : deltas (front ++ [item]) = deltas front := by
        simp [deltas_concat, noDelta]
      have sameDocuments : documents (front ++ [item]) = documents front := by
        simp [documents_concat, noDocument]
      subst same
      constructor
      · exact sameDocuments ▸ history.document
      · exact history.hashed
      · exact sameDeltas ▸ history.revision
      · exact sameDeltas ▸ history.proposal
      · exact sameDeltas ▸ sameDocuments ▸ history.counted
      · exact sameDeltas ▸ sameDocuments ▸ history.chained
  | moved delta given document base hashed written =>
      have moreDeltas : deltas (front ++ [item]) = deltas front ++ [delta] := by
        simp [deltas_concat, given]
      have moreDocuments : documents (front ++ [item]) =
          documents front ++ [normalize delta.resultingDocument] := by
        simp [documents_concat, document]
      have kept : after.document = normalize delta.resultingDocument := by rw [written]
      have moved : after.revision = before.revision + 1 ∧
          after.acceptedProposalId = some delta.proposalId := by
        rw [written]
        exact ⟨rfl, rfl⟩
      constructor
      · rw [moreDocuments, kept]
        simp
      · rw [kept]
        exact hashed
      · rw [moreDeltas, moved.1, history.revision]
        simp
      · rw [moreDeltas, moved.2]
        simp
      · rw [moreDeltas, moreDocuments]
        simp [history.counted]
      · intro k found listed
        rw [moreDeltas] at listed
        rw [moreDocuments]
        by_cases old : k < (deltas front).length
        · rw [List.getElem?_append_left old] at listed
          obtain ⟨prior, there, same⟩ := history.chained k found listed
          refine ⟨prior, ?_, same⟩
          rw [List.getElem?_append_left (by rw [history.counted]; omega)]
          exact there
        · -- the new delta is based on the last document before it
          have last : k = (deltas front).length := by
            have bound := (List.getElem?_eq_some_iff.mp listed).1
            simp only [List.length_append, List.length_singleton] at bound
            omega
          subst last
          obtain rfl : delta = found := by simpa using listed
          refine ⟨before.document, ?_, base ▸ history.hashed⟩
          rw [List.getElem?_append_left (by rw [history.counted]; omega), ← history.document,
            List.getLast?_eq_getElem?, history.counted]
          rfl

theorem history_kept (replayed : deterministicReplay events = .ok result) :
    DocumentHistory events result.canonical := by
  apply replay_induction (motive := fun events result => DocumentHistory events result.canonical)
    _ _ replayed
  · exact fun item result begins => history_begins begins
  · exact fun front item before after _ continues history =>
      history_continues history (document_effect continues.canonical)

/-- The document of a run is what its genesis and its deltas say, at every prefix. -/
theorem canonical_history (replayed : deterministicReplay events = .ok result) :
    (∀ front back, events = front ++ back → front ≠ [] →
      ∃ past, deterministicReplay front = .ok past ∧ DocumentHistory front past.canonical) ∧
    (∀ front item back, events = front ++ item :: back → front ≠ [] →
      acceptedDelta item.envelope.payload = none →
      ∃ before after, deterministicReplay front = .ok before ∧
        deterministicReplay (front ++ [item]) = .ok after ∧ after.canonical = before.canonical) ∧
    ∀ other outcome, deterministicReplay other = .ok outcome →
      documentPayloads other = documentPayloads events →
      outcome.canonical.document = result.canonical.document ∧
        outcome.canonical.stateHash = result.canonical.stateHash := by
  refine ⟨?_, ?_, ?_⟩
  · rintro front back rfl filled
    obtain ⟨past, earlier⟩ := replay_prefix filled replayed
    exact ⟨past, earlier, history_kept earlier⟩
  · rintro front item back rfl filled noDelta
    have longer : front ++ [item] ≠ [] := by simp
    rw [List.append_cons] at replayed
    obtain ⟨after, reached⟩ := replay_prefix longer replayed
    obtain ⟨before, earlier, continues⟩ := replay_front filled reached
    refine ⟨before, after, earlier, reached, ?_⟩
    cases document_effect continues.canonical with
    | kept _ _ same => exact same
    | moved delta given => rw [noDelta] at given; cases given
  · intro other outcome ran same
    have left := history_kept ran
    have right := history_kept replayed
    have document : outcome.canonical.document = result.canonical.document := by
      apply Option.some.inj
      rw [← left.document, ← right.document, documents, documents, same]
    have hashes := left.hashed
    rw [document, right.hashed] at hashes
    exact ⟨document, (Except.ok.inj hashes).symm⟩

end Chains

section Recorded

def chainDigests : List (Nat × JsString) :=
  [(15152896508518038070, js "689343a78872c73e85e686f6b3f74cc5e2769663f71bd65c7ed1c4ced2fcec33"),
    (8342419577912094354, js "665eb95af688fdf9421fd3a9e29198f209d9b55c262a6f700fbcf52959442c90"),
    (13035048805188894759, js "666ee89b95fda9fd9ac6e9afb6fc0be8e3b641c81d4df83596d306bd67419b42"),
    (5705174093594303088, js "8fa1b291da317c676c0778d068a7b3c5e5de7eeffa0fda9054b08d97ec45471b"),
    (17196866559264599110, js "18dbe1131a5f004f78de50d183002a01da214821f3e4d628853b9cc5fda3f8bc"),
    (6238088709371392920, js "b9b6fcc816ae2e8674e8c8caf1e1cab2518b4861cf2f84d5882dab69c2324e2d"),
    (5171464535530342996, js "9c8d8bb9df5808bbb75ec5895bb99263f2f6991ea650c0399df879f88ef114b7"),
    (18074561567605393226, js "b0383018ffc82566913acb55c7ef0ca2f04e0cc729278685d87bdff95f37445a"),
    (17894674375311130291, js "d538223b993b037bba3d0078f00edf4b4ec8678aada48bcfea21d973c7370be2"),
    (11784922363691091216, js "ef7e5568d8896823ffc26cee8b04a1595a6fa9fc70c1f63c747bb59393a78194"),
    (13157269459579340397, js "751f9045885039dbffbc24025771800e4f5338fc27585b2cef61f05d3f48276d")]

@[reducible] def chainEngine : Engine :=
  { recordedEngine with
    sha256Hex := fun text => (chainDigests.lookup (fingerprint text)).getD (122 :: text) }

def appendSealed [Engine] (kind : StreamKind) (chain : List HashedEventEnvelopeV1)
    (payload : DomainEventPayloadV1) : Except DomainError (List HashedEventEnvelopeV1) := do
  let item ← sealEventEnvelope
    { streamKind := kind
      workspaceId := js "w"
      streamId := if kind = .run then js "r" else js "w"
      sequence := chain.length + 1
      eventId := js "e"
      eventType := payload.eventType
      principalId := js "u"
      causationId := js "c"
      correlationId := js "c"
      idempotencyKey := js "k"
      priorEnvelopeHash := chain.getLast?.map HashedEventEnvelopeV1.envelopeHash
      payloadHash := []
      payload := payload }
  return chain ++ [item]

def sealedChain [Engine] (kind : StreamKind) (payloads : List DomainEventPayloadV1) :
    List HashedEventEnvelopeV1 :=
  finalOf [] (payloads.foldlM (appendSealed kind) [])

attribute [local instance] chainEngine

def recordedCreation : DomainEventPayloadV1 := .run (.runCreatedV1 (js "w") (js "r") (object []))

def recordedSubmission : DomainEventPayloadV1 :=
  .run (.proposalSubmittedV1 (js "w") (js "r") (js "p") (js "q"))

def recordedDelta : DomainEventPayloadV1 :=
  .run (.deltaAcceptedV1 (js "w") (js "r") (js "p") (js "q")
    (js "689343a78872c73e85e686f6b3f74cc5e2769663f71bd65c7ed1c4ced2fcec33")
    (js "665eb95af688fdf9421fd3a9e29198f209d9b55c262a6f700fbcf52959442c90")
    (object [("a", .num (.finite 1))]))

def deltaChain : List HashedEventEnvelopeV1 :=
  sealedChain .run [recordedCreation, recordedSubmission, recordedDelta]

instance delta_chain_replays : Fact (deltaChain ≠ [] ∧
    endsIn (fun _ => true) (deterministicReplay deltaChain) = true) := ⟨by decide +kernel⟩

/-- The recorded run replays, and its document is the one of its delta. -/
theorem delta_chain_history : ∃ result, deterministicReplay deltaChain = .ok result ∧
    DocumentHistory deltaChain result.canonical := by
  obtain ⟨filled, accepted⟩ := delta_chain_replays.out
  obtain ⟨result, ran, _⟩ := ends_in_exists accepted
  obtain ⟨past, same, history⟩ := (canonical_history ran).1 deltaChain [] (by simp) filled
  obtain rfl := Except.ok.inj (ran.symm.trans same)
  exact ⟨result, ran, history⟩

end Recorded

end Horseness.CanonicalHistory
