import Horseness.ReleaseEnvelopes
import Horseness.LineFraming
import Mathlib.Data.List.Chain

/-!
Releases that the bootstrap accepts, over every sequence of calls on one state directory. The
first delegation of a key speaks for the key, and a replay file that a stop cut short is never
read again: away from these two, accepted releases climb and a newer one is accepted.
-/

namespace Horseness.ReleaseAcceptance

open FallibleRuns Records ScriptText JsonValues JsonText JsonRoundTrip JsonWriting ScriptEngine
  Utf8Text DispatchAuthority Retention ReleaseTrust ReleaseEnvelopes

section Signatures

variable [Engine] [ReleaseCrypto] (release : ReadRelease)

/-- The root signed the delegation, it covers the sequence, and its key signed the manifest. -/
def Qualifies (delegation : TrustDelegationV1) : Prop :=
  ∃ text, canonicalText delegation.signedJson = .ok text ∧
    verifyEd25519 release.rootPublicKeyPem (utf8 text) (.str delegation.rootSignature) = true ∧
    (delegation.validFromSequence ≤ release.sequence ∧
      release.sequence ≤ delegation.validThroughSequence) ∧
    verifyEd25519 (.str delegation.publicKeyPem) (utf8 release.manifestText) release.signature = true

/-- Some delegation of the signing key qualifies, and the key is not revoked. -/
def Delegated : Prop :=
  ¬ release.revoked ∧ ∃ delegation ∈ release.delegations, release.named delegation = true ∧
    Qualifies release delegation

/-- No later delegation of the key qualifies where the first one does not. -/
def Unshadowed : Prop :=
  ∀ first, release.delegations.find? release.named = some first →
    (∃ later ∈ release.delegations, release.named later = true ∧ Qualifies release later) →
      Qualifies release first

variable {release}

theorem verify_signature_ok_iff : release.verifySignature = .ok () ↔ ¬ release.revoked ∧
    ∃ first, release.delegations.find? release.named = some first ∧ Qualifies release first := by
  simp only [ReadRelease.verifySignature, bind_ok_iff, ensure_ok_iff, required_ok_iff, Qualifies,
    exists_const]

theorem signature_agrees_iff :
    (release.verifySignature = .ok () ↔ Delegated release) ↔ release.revoked ∨ Unshadowed release := by
  rw [verify_signature_ok_iff]
  by_cases revoked : release.revoked
  · simp [Delegated, revoked]
  · simp only [Delegated, revoked, not_false_eq_true, true_and, false_or]
    constructor
    · rintro same first found later
      obtain ⟨speaker, spoken, qualified⟩ := same.mpr later
      exact Option.some.inj (found.symm.trans spoken) ▸ qualified
    · intro unshadowed
      constructor
      · rintro ⟨first, found, qualified⟩
        exact ⟨first, List.mem_of_find?_eq_some found, List.find?_some found, qualified⟩
      · rintro ⟨later, member, names, qualified⟩
        cases found : release.delegations.find? release.named with
        | none => exact absurd names (List.find?_eq_none.mp found later member)
        | some first => exact ⟨first, rfl, unshadowed first found ⟨later, member, names, qualified⟩⟩

theorem single_unshadowed (single : release.delegations.length ≤ 1) : Unshadowed release := by
  rintro first found ⟨later, member, -, qualified⟩
  have other := List.mem_of_find?_eq_some found
  match release.delegations, single, member, other with
  | [only], _, member, other =>
      rw [List.mem_singleton] at member other
      rwa [other, ← member]

end Signatures

section Verified

variable [Engine] [ReleaseCrypto] {signed trustRoot : JsValue} {artifactRoot : Place}
  {files : ReleaseFiles} {replayState : Option JsValue} {verified : TrustReplayStateV1}

/-- What a verified release passed. -/
structure Verified (signed trustRoot : JsValue) (artifactRoot : Place) (files : ReleaseFiles)
    (release : ReadRelease) (candidates : List JsValue) : Prop where
  read : readRelease signed trustRoot = .ok release
  signature : release.verifySignature = .ok ()
  graph : ∃ bytes, files.dependencyGraph = some bytes ∧
    textOf (property "dependencyGraphDigest" release.manifest) = some (ReleaseCrypto.sha256 bytes)
  listed : arrayOf (field "artifacts" release.manifest) = some candidates
  artifacts : verifyArtifacts artifactRoot files [] candidates = .ok ()

def stateOf (release : ReadRelease) : TrustReplayStateV1 :=
  ⟨release.sequence, field "version" release.manifest, release.manifestDigest⟩

theorem verify_ok_iff : verifyReleaseV1 signed trustRoot artifactRoot files replayState = .ok verified ↔
    ∃ release candidates, Verified signed trustRoot artifactRoot files release candidates ∧
      release.refuseReplay replayState = .ok () ∧ verified = stateOf release := by
  simp only [verifyReleaseV1, bind_ok_iff, ensure_ok_iff, required_ok_iff, pure_ok_iff, exists_const]
  constructor
  · rintro ⟨release, read, ⟨⟩, signature, ⟨⟩, replay, bytes, graph, digest, candidates, listed, ⟨⟩,
      artifacts, rfl⟩
    exact ⟨release, candidates, ⟨read, signature, ⟨bytes, graph, digest⟩, listed, artifacts⟩, replay,
      rfl⟩
  · rintro ⟨release, candidates, passed, replay, rfl⟩
    obtain ⟨bytes, graph, digest⟩ := passed.graph
    exact ⟨release, passed.read, (), passed.signature, (), replay, bytes, graph, digest, candidates,
      passed.listed, (), passed.artifacts, rfl⟩

def recordJson (signed : JsValue) : JsValue :=
  object [("highestSequence", field "sequence" (field "manifest" signed)),
    ("version", field "version" (field "manifest" signed)),
    ("manifestDigest", field "manifestDigest" signed)]

omit [Engine] [ReleaseCrypto] in
theorem safe_positive {number : JsNumber} {value : Nat} (safe : safeNatural number = some value)
    (positive : 1 ≤ value) : number = .finite value := by
  cases number with
  | finite amount =>
      simp only [safeNatural] at safe
      split at safe
      · rename_i whole
        obtain rfl := Option.some.inj safe
        have same : ((amount.num.toNat : Int) : Rat) = amount := by
          rw [Int.toNat_of_nonneg whole.2.1]
          exact Rat.coe_int_num_of_den_eq_one whole.1
        exact congrArg JsNumber.finite (by exact_mod_cast same.symm)
      · cases safe
  | negativeZero =>
      obtain rfl := Option.some.inj safe
      omega
  | nan => cases safe
  | infinite negative => cases safe

omit [Engine] [ReleaseCrypto] in
theorem number_found {value : Option JsValue} {number : JsNumber}
    (found : numberOf value = some number) : value = some (.num number) := by
  revert found
  fun_cases numberOf value <;> simp

omit [Engine] [ReleaseCrypto] in
theorem text_found {value : Option JsValue} {text : JsString} (found : textOf value = some text) :
    value = some (.str text) := by
  revert found
  fun_cases textOf value <;> simp

omit [ReleaseCrypto] in
theorem release_recorded {release : ReadRelease} (read : readRelease signed trustRoot = .ok release) :
    release.manifest = field "manifest" signed ∧ (stateOf release).toJson = recordJson signed := by
  simp only [readRelease, requireExact, bind_ok_iff, ensure_ok_iff, required_ok_iff,
    exists_const] at read
  obtain ⟨-, -, -, -, -, _, -, _, -, _, -, _, -, _, -, -, sequence, numbered, digest, named, _, -,
    positive, _, -, -, _, -, _, -, -, same⟩ := read
  obtain rfl := (pure_ok_iff _ _).mp same
  obtain ⟨number, found, safe⟩ := Option.bind_eq_some_iff.mp numbered
  have counted : field "sequence" (field "manifest" signed) = natural sequence := by
    rw [field, number_found found, safe_positive safe positive.1]
    rfl
  have digested : field "manifestDigest" signed = .str digest := by
    rw [field, text_found named]
    rfl
  rw [recordJson, counted, digested]
  exact ⟨rfl, rfl⟩

end Verified

section Replays

theorem property_reread (name : String) (value : JsValue) :
    property name (reread value) = (property name value).map reread := by
  cases value with
  | obj proto fields => simp only [reread, property, reread_fields, find_distinct, find_map]
  | num number => cases number <;> rfl
  | _ => rfl

theorem recorded_sequence (state : TrustReplayStateV1) :
    property "highestSequence" state.toJson = some (natural state.highestSequence) := rfl

theorem recorded_version (state : TrustReplayStateV1) :
    property "version" state.toJson = some state.version := rfl

theorem recorded_digest (state : TrustReplayStateV1) :
    property "manifestDigest" state.toJson = some (.str state.manifestDigest) := rfl

/-- A release follows another: it is newer, or it is the same one. -/
def Follows (earlier later : TrustReplayStateV1) : Prop :=
  earlier.highestSequence ≤ later.highestSequence ∧
    (earlier.highestSequence = later.highestSequence → earlier.manifestDigest = later.manifestDigest)

theorem follows_trans {first second third : TrustReplayStateV1} (one : Follows first second)
    (two : Follows second third) : Follows first third := by
  refine ⟨one.1.trans two.1, fun same => ?_⟩
  have middle : first.highestSequence = second.highestSequence := one.1.antisymm (same ▸ two.1)
  exact (one.2 middle).trans (two.2 (middle.symm.trans same))

theorem refuse_ok_iff {release : ReadRelease} {last : TrustReplayStateV1} :
    release.refuseReplay (some (reread last.toJson)) = .ok () ↔
      ¬ release.sequence < last.highestSequence ∧ ¬ (release.sequence = last.highestSequence ∧
        ¬ (strictEqual (property "version" release.manifest) (some (reread last.version)) ∧
          release.manifestDigest = last.manifestDigest)) := by
  have object : isNull (reread last.toJson) = false := rfl
  have number : reread (natural last.highestSequence) = natural last.highestSequence := rfl
  have below : ReadRelease.below release.sequence (some (natural last.highestSequence)) =
      decide (release.sequence < last.highestSequence) := by
    simp [ReadRelease.below, natural, Rat.natCast_lt_natCast]
  have equal : strictEqual (some (natural release.sequence)) (some (natural last.highestSequence)) =
      decide (release.sequence = last.highestSequence) := by
    simp [strictEqual, sameNumber, natural]
  have digest : strictEqual (some (.str release.manifestDigest))
      (some (reread (.str last.manifestDigest))) =
        decide (release.manifestDigest = last.manifestDigest) := rfl
  simp only [ReadRelease.refuseReplay, bind_ok_iff, ensure_ok_iff, exists_const, property_reread,
    recorded_sequence, recorded_version, recorded_digest, Option.map_some, object, number, below,
    equal, digest, decide_eq_false_iff_not, decide_eq_true_eq, true_and]

theorem accepted_follows {release : ReadRelease} {last : TrustReplayStateV1}
    (accepted : release.refuseReplay (some (reread last.toJson)) = .ok ()) :
    Follows last (stateOf release) := by
  have passed := refuse_ok_iff.mp accepted
  refine ⟨Nat.le_of_not_lt passed.1, fun same => ?_⟩
  by_contra different
  exact passed.2 ⟨same.symm, fun equal => different equal.2.symm⟩

theorem newer_passes {release : ReadRelease} {last : TrustReplayStateV1}
    (newer : last.highestSequence < release.sequence) :
    release.refuseReplay (some (reread last.toJson)) = .ok () :=
  refuse_ok_iff.mpr ⟨Nat.not_lt.mpr newer.le, fun same => absurd same.1 newer.ne'⟩

variable [Engine]

theorem parse_line (value : JsValue) : parse (stringify value ++ js "\n") = some (reread value) := by
  have ended : Ended (js "\n") := by
    intro unit member
    obtain rfl := Option.mem_some_iff.mp member
    rfl
  have read := parse_value_stringify value ((stringify value ++ js "\n").length + 1)
    (by rw [List.length_append]; omega) (js "\n") ended
  rw [parse, read]
  rfl

theorem stored_reads {value : JsValue} {count : Nat} (whole : (utf8 (stringify value)).length ≤ count) :
    readReplay (some ((storedBytes value).take count)) = .ok (some (reread value)) := by
  have line := (stringify_line value).1
  rw [readReplay, storedBytes, LineFraming.frame_written]
  rcases whole.eq_or_lt with rfl | more
  · rw [LineFraming.valueLine, List.take_left, decode_utf8 line, parse_stringify]
    rfl
  · have all : (LineFraming.valueLine value ++ [LineFraming.lineFeed]).length ≤ count := by
      rw [List.length_append]
      exact more
    rw [List.take_of_length_le all, ← LineFraming.frame_written,
      decode_utf8 (WellFormedText.valid_append line rfl), parse_line]
    rfl

end Replays

section Artifacts

variable [ReleaseCrypto]

/-- An artifact with its form, its place and the bytes that were found there. -/
def Held (artifactRoot : Place) (files : ReleaseFiles) (artifact : ReleaseArtifactV1) : Prop :=
  validArtifact artifact ∧ inside artifactRoot (resolve artifactRoot artifact.path) ∧
    ∃ bytes, files.node (resolve artifactRoot artifact.path) = some (.file bytes) ∧
      safeNatural artifact.bytes = some bytes.length ∧ ReleaseCrypto.sha256 bytes = artifact.sha256

variable {artifactRoot : Place} {files : ReleaseFiles}

theorem verify_artifact_ok {seen : List JsString} {candidate : JsValue} {path : JsString}
    (passed : verifyArtifact artifactRoot files seen candidate = .ok path) :
    ∃ artifact, parseArtifact candidate = .ok artifact ∧ artifact.path ∉ seen ∧
      Held artifactRoot files artifact ∧ artifact.path = path := by
  simp only [verifyArtifact, bind_ok_iff, ensure_ok_iff, exists_const] at passed
  obtain ⟨artifact, parsed, ⟨valid, fresh⟩, confined, rest⟩ := passed
  cases found : files.node (resolve artifactRoot artifact.path) with
  | none =>
      rw [found] at rest
      cases rest
  | some node =>
      rw [found] at rest
      cases node with
      | other => cases rest
      | file bytes =>
          simp only [bind_ok_iff, ensure_ok_iff, exists_const, pure_ok_iff] at rest
          obtain ⟨⟨length, digest⟩, same⟩ := rest
          exact ⟨artifact, parsed, fresh, ⟨valid, confined, bytes, found, length, digest⟩, same⟩

-- The loop over the artifacts, by induction with the paths that were seen.
theorem verify_artifacts_ok {seen : List JsString} {candidates : List JsValue}
    (passed : verifyArtifacts artifactRoot files seen candidates = .ok ()) :
    ∃ artifacts, candidates.mapM parseArtifact = .ok artifacts ∧
      (artifacts.map ReleaseArtifactV1.path).Nodup ∧
      ∀ artifact ∈ artifacts, artifact.path ∉ seen ∧ Held artifactRoot files artifact := by
  induction candidates generalizing seen with
  | nil => exact ⟨[], rfl, List.nodup_nil, nofun⟩
  | cons candidate rest ih =>
      simp only [verifyArtifacts, bind_ok_iff] at passed
      obtain ⟨path, first, later⟩ := passed
      obtain ⟨artifact, parsed, fresh, held, rfl⟩ := verify_artifact_ok first
      obtain ⟨artifacts, read, distinct, sound⟩ := ih later
      refine ⟨artifact :: artifacts, ?_, ?_, ?_⟩
      · exact (mapM_ok_iff _ _ _).mpr (.cons parsed ((mapM_ok_iff _ _ _).mp read))
      · rw [List.map_cons, List.nodup_cons]
        refine ⟨fun repeated => ?_, distinct⟩
        obtain ⟨other, member, same⟩ := List.mem_map.mp repeated
        exact (sound other member).1 (same ▸ List.mem_cons_self)
      · rw [List.forall_mem_cons]
        refine ⟨⟨fresh, held⟩, fun other member => ?_⟩
        exact ⟨fun earlier => (sound other member).1 (List.mem_cons_of_mem _ earlier),
          (sound other member).2⟩

end Artifacts

section Places

def Confined (path : JsString) : Prop :=
  path ≠ [] ∧ path.head? ≠ some 47 ∧
    ∀ segment ∈ segments path, segment ≠ [] ∧ segment ≠ js "." ∧ segment ≠ js ".."

theorem confine_ok {path : JsString} {artifactRoot place : Place}
    (passed : confineArtifactPath path artifactRoot = .ok place) :
    Confined path ∧ place = resolve artifactRoot path ∧ inside artifactRoot place := by
  simp only [confineArtifactPath, bind_ok_iff, ensure_ok_iff, exists_const, pure_ok_iff] at passed
  obtain ⟨filled, relative, plain, -, within, rfl⟩ := passed
  exact ⟨⟨filled.1, relative.1, plain⟩, rfl, within⟩

theorem fold_plain {parts : List JsString} {place : Place}
    (plain : ∀ segment ∈ parts, segment ≠ [] ∧ segment ≠ js "." ∧ segment ≠ js "..") :
    parts.foldl resolveSegment place = place ++ parts := by
  induction parts generalizing place with
  | nil => exact (List.append_nil place).symm
  | cons segment rest ih =>
      rw [List.forall_mem_cons] at plain
      have first : resolveSegment place segment = place ++ [segment] := by
        simp [resolveSegment, plain.1]
      rw [List.foldl_cons, first, ih plain.2, List.append_assoc]
      rfl

theorem resolve_confined {path : JsString} (confined : Confined path) (artifactRoot : Place) :
    resolve artifactRoot path = artifactRoot ++ segments path := by
  rw [resolve, if_neg confined.2.1, fold_plain confined.2.2]

theorem confined_apart {left right : JsString} (first : Confined left) (second : Confined right)
    {artifactRoot : Place} (same : resolve artifactRoot left = resolve artifactRoot right) :
    left = right := by
  rw [resolve_confined first, resolve_confined second] at same
  have parts : segments left = segments right := List.append_cancel_left same
  have joined := congrArg (List.intercalate [47]) parts
  rwa [segments, segments, List.intercalate_splitOn, List.intercalate_splitOn] at joined

theorem place_artifacts_ok {artifactRoot : Place} {entries : List (JsString × JsString)}
    {placed all : List PlacedFile} (passed : placeArtifacts artifactRoot placed entries = .ok all) :
    (∀ entry ∈ entries, Confined entry.1) ∧
      all = placed ++ entries.map fun entry => (resolve artifactRoot entry.1, fromBase64 entry.2) := by
  induction entries generalizing placed with
  | nil =>
      obtain rfl := (pure_ok_iff _ _).mp passed
      exact ⟨nofun, (List.append_nil placed).symm⟩
  | cons entry rest ih =>
      simp only [placeArtifacts, bind_ok_iff, ensure_ok_iff, exists_const] at passed
      obtain ⟨place, confined, -, later⟩ := passed
      obtain ⟨sound, rfl, -⟩ := confine_ok confined
      obtain ⟨others, rfl⟩ := ih later
      exact ⟨List.forall_mem_cons.mpr ⟨sound, others⟩, by rw [List.append_assoc]; rfl⟩

theorem node_file {placed : List PlacedFile} {place : Place} {bytes : List Nat}
    (found : nodeOf placed place = some (.file bytes)) : (place, bytes) ∈ placed := by
  unfold nodeOf at found
  cases entry : findEntry place placed with
  | some content =>
      rw [entry] at found
      cases found
      exact find_member place _ placed entry
  | none =>
      rw [entry] at found
      dsimp only at found
      split at found <;> cases found

end Places

section Calls

variable [Engine] [ReleaseCrypto] {pin : TrustPin} {call : Call}

def artifactRoot (call : Call) : Place := call.temporary ++ [js "artifacts"]

/-- A call whose envelope and trust root are read, with the release of the two. -/
structure Presents (pin : TrustPin) (call : Call) (envelope : AuthenticatedReleaseEnvelopeV1)
    (trustRoot : JsValue) : Prop where
  envelope : readEnvelope call = .ok envelope
  trustRoot : readTrustRoot pin call = .ok trustRoot

/-- Everything that a call checks, the replay file apart. -/
structure Authenticates (pin : TrustPin) (call : Call) (envelope : AuthenticatedReleaseEnvelopeV1)
    (release : ReadRelease) (placed : List PlacedFile) (candidates : List JsValue)
    (bundle : JsValue) : Prop where
  presents : ∃ trustRoot, Presents pin call envelope trustRoot ∧ Verified envelope.signedManifest
    trustRoot (artifactRoot call) (releaseFiles envelope placed) release candidates
  placed : placeArtifacts (artifactRoot call) [] envelope.artifacts.entries = .ok placed
  catalog : authenticateCatalog envelope = .ok bundle

theorem authenticate_ok_iff {file : Option (List Nat)} {verified : TrustReplayStateV1}
    {bundle : JsValue} : authenticate pin call file = .ok (verified, bundle) ↔
      ∃ envelope release placed candidates,
        Authenticates pin call envelope release placed candidates bundle ∧
        verified = stateOf release ∧
        ∃ replayState, readReplay file = .ok replayState ∧ release.refuseReplay replayState = .ok () := by
  simp only [authenticate, bind_ok_iff, pure_ok_iff, verify_ok_iff]
  constructor
  · rintro ⟨envelope, read, trustRoot, root, replayState, replay, placed, written, verified,
      ⟨release, candidates, passed, fresh, rfl⟩, bundle, catalog, same⟩
    cases same
    exact ⟨envelope, release, placed, candidates, ⟨⟨trustRoot, ⟨read, root⟩, passed⟩, written, catalog⟩,
      rfl, replayState, replay, fresh⟩
  · rintro ⟨envelope, release, placed, candidates, ⟨⟨trustRoot, read, passed⟩, written, catalog⟩, rfl,
      replayState, replay, fresh⟩
    exact ⟨envelope, read.envelope, trustRoot, read.trustRoot, replayState, replay, placed, written, _,
      ⟨release, candidates, passed, fresh, rfl⟩, bundle, catalog, rfl⟩

/-- Every artifact has a place of its own below the root, and the bytes that the manifest declares. -/
structure ArtifactsSound (call : Call) (envelope : AuthenticatedReleaseEnvelopeV1)
    (artifacts : List ReleaseArtifactV1) : Prop where
  distinct : (artifacts.map ReleaseArtifactV1.path).Nodup
  apart : (artifacts.map fun artifact => resolve (artifactRoot call) artifact.path).Nodup
  confined : ∀ artifact ∈ artifacts, Confined artifact.path ∧
    inside (artifactRoot call) (resolve (artifactRoot call) artifact.path)
  declared : ∀ artifact ∈ artifacts, ∃ text, envelope.artifacts.get artifact.path = some text ∧
    safeNatural artifact.bytes = some (fromBase64 text).length ∧
    ReleaseCrypto.sha256 (fromBase64 text) = artifact.sha256

omit [Engine] [ReleaseCrypto] in
theorem parsed_path {candidate : JsValue} {artifact : ReleaseArtifactV1}
    (parsed : parseArtifact candidate = .ok artifact) :
    textOf (property "path" candidate) = some artifact.path := by
  simp only [parseArtifact, bind_ok_iff, required_ok_iff, pure_ok_iff] at parsed
  obtain ⟨-, -, path, found, _, -, _, -, _, -, _, -, rfl⟩ := parsed
  exact found

omit [Engine] [ReleaseCrypto] in
theorem mapped_paths {envelope : AuthenticatedReleaseEnvelopeV1} {candidates : List JsValue}
    (exact_ : exactArtifactMap envelope = .ok ())
    (listed : manifestArtifacts envelope = .ok candidates) {artifacts : List ReleaseArtifactV1}
    (parsed : candidates.mapM parseArtifact = .ok artifacts) :
    (artifacts.map ReleaseArtifactV1.path).Perm envelope.artifacts.keys := by
  simp only [exactArtifactMap, bind_ok_iff, ensure_ok_iff] at exact_
  obtain ⟨_, found, paths, read, same⟩ := exact_
  obtain rfl := Except.ok.inj (listed.symm.trans found)
  have each : List.Forall₂ (fun candidate path =>
      (required (textOf (property "path" candidate)) (.plain "RELEASE_ARTIFACT_SET_MISMATCH") :
        Except ReleaseFailure JsString) = .ok path)
      candidates (artifacts.map ReleaseArtifactV1.path) := by
    rw [List.forall₂_map_right_iff]
    refine ((mapM_ok_iff _ _ _).mp parsed).imp fun candidate artifact one => ?_
    rw [parsed_path one, required]
  obtain rfl := Except.ok.inj (((mapM_ok_iff _ _ _).mpr each).symm.trans read)
  have first := List.perm_insertionSort (· ≤ ·) (artifacts.map ReleaseArtifactV1.path)
  have second := List.perm_insertionSort (· ≤ ·) envelope.artifacts.keys
  simp only [sorted] at same
  exact first.symm.trans (same ▸ second)

omit [Engine] [ReleaseCrypto] in
theorem envelope_read {envelope : AuthenticatedReleaseEnvelopeV1}
    (read : readEnvelope call = .ok envelope) :
    call.envelope = some envelope ∧ exactArtifactMap envelope = .ok () := by
  simp only [readEnvelope, bind_ok_iff, ensure_ok_iff, required_ok_iff, pure_ok_iff,
    exists_const] at read
  obtain ⟨-, _, found, -, ⟨⟩, passed, rfl⟩ := read
  exact ⟨found, passed⟩

theorem artifacts_sound {envelope : AuthenticatedReleaseEnvelopeV1} {release : ReadRelease}
    {placed : List PlacedFile} {candidates : List JsValue} {bundle : JsValue}
    (passed : Authenticates pin call envelope release placed candidates bundle) :
    ∃ artifacts, candidates.mapM parseArtifact = .ok artifacts ∧
      ArtifactsSound call envelope artifacts := by
  obtain ⟨trustRoot, presents, verified⟩ := passed.presents
  obtain ⟨artifacts, parsed, distinct, held⟩ := verify_artifacts_ok verified.artifacts
  obtain ⟨confined, same⟩ := place_artifacts_ok passed.placed
  have listed : manifestArtifacts envelope = .ok candidates := by
    rw [manifestArtifacts, required_ok_iff, ← (release_recorded verified.read).1]
    exact verified.listed
  have names := mapped_paths (envelope_read presents.envelope).2 listed parsed
  -- What stands at the place of an artifact was written for its own path.
  have own : ∀ artifact ∈ artifacts, Confined artifact.path ∧ ∃ text,
      envelope.artifacts.get artifact.path = some text ∧
        ∀ bytes, nodeOf placed (resolve (artifactRoot call) artifact.path) = some (.file bytes) →
          bytes = fromBase64 text := by
    intro artifact member
    have named := names.mem_iff.mp (List.mem_map_of_mem member)
    obtain ⟨text, found⟩ := (envelope.artifacts.mem_keys_iff artifact.path).mp named
    have plain := confined _ ((envelope.artifacts.mem_entries_iff artifact.path text).mpr found)
    refine ⟨plain, text, found, fun bytes node => ?_⟩
    have written := node_file node
    rw [same, List.nil_append] at written
    obtain ⟨entry, entered, pair⟩ := List.mem_map.mp written
    have path := confined_apart (confined entry entered) plain (congrArg Prod.fst pair)
    have stored := (envelope.artifacts.mem_entries_iff entry.1 entry.2).mp entered
    rw [path, found] at stored
    exact (congrArg Prod.snd pair).symm.trans (congrArg fromBase64 (Option.some.inj stored).symm)
  refine ⟨artifacts, parsed, distinct, ?_, fun artifact member => ?_, fun artifact member => ?_⟩
  · have injective : ∀ left ∈ artifacts, ∀ right ∈ artifacts,
        resolve (artifactRoot call) left.path = resolve (artifactRoot call) right.path →
          left = right := by
      intro left first right second equal
      exact List.inj_on_of_nodup_map distinct first second
        (confined_apart (own left first).1 (own right second).1 equal)
    exact distinct.of_map.map_on injective
  · exact ⟨(own artifact member).1, (held artifact member).2.2.1⟩
  · obtain ⟨-, text, found, only⟩ := own artifact member
    obtain ⟨bytes, node, length, digest⟩ := (held artifact member).2.2.2
    obtain rfl := only bytes node
    exact ⟨text, found, length, digest⟩

end Calls

section Runs

variable [Engine] [ReleaseCrypto] (pin : TrustPin)

def serveAll (calls : List Call) (state : StateDirectory) : StateDirectory :=
  calls.foldl (fun current call => (authenticateEnvelopeV1 pin call current).2) state

/-- The states that the calls of a run bring about, each call as seen before it was served. -/
def history {Item : Type} (observe : Call → StateDirectory → Option Item) :
    List Call → StateDirectory → List Item
  | [], _ => []
  | call :: rest, state =>
      (observe call state).toList ++ history observe rest (authenticateEnvelopeV1 pin call state).2

def acceptedState (call : Call) (state : StateDirectory) : Option TrustReplayStateV1 :=
  match authenticate pin call state.trustReplay with
  | .ok (verified, _) => if call.stop = none then some verified else none
  | .error _ => none

/-- The bytes of the release that the envelope of a call would record, its line feed apart. -/
def recordBytes (call : Call) : List Nat :=
  match call.envelope with
  | some envelope => utf8 (stringify (recordJson envelope.signedManifest))
  | none => []

def recorded (call : Call) : Bool :=
  match call.stop with
  | none | some (.inBundle _) => true
  | some (.inReplay count) => decide ((recordBytes call).length ≤ count)
  | some .beforeWriting => false

def recordedState (call : Call) (state : StateDirectory) : Option TrustReplayStateV1 :=
  match authenticate pin call state.trustReplay with
  | .ok (verified, _) => if recorded call then some verified else none
  | .error _ => none

/-- No stop leaves the replay file with less than the text of its release. -/
def Whole (call : Call) : Prop :=
  ∀ count, call.stop = some (.inReplay count) → (recordBytes call).length ≤ count

variable {pin} {call : Call} {state : StateDirectory} {last : Option TrustReplayStateV1}

def Holds (state : StateDirectory) (last : Option TrustReplayStateV1) : Prop :=
  readReplay state.trustReplay = .ok (last.map fun verified => reread verified.toJson)

theorem record_bytes {file : Option (List Nat)} {verified : TrustReplayStateV1} {bundle : JsValue}
    (passed : authenticate pin call file = .ok (verified, bundle)) :
    recordBytes call = utf8 (stringify verified.toJson) := by
  obtain ⟨envelope, release, placed, candidates, checked, rfl, -⟩ := authenticate_ok_iff.mp passed
  obtain ⟨trustRoot, presents, verified⟩ := checked.presents
  rw [recordBytes, (envelope_read presents.envelope).1, (release_recorded verified.read).2]

omit [ReleaseCrypto] in
theorem stored_whole (value : JsValue) :
    readReplay (some (storedBytes value)) = .ok (some (reread value)) := by
  have long : (utf8 (stringify value)).length ≤ (storedBytes value).length := by
    rw [storedBytes, LineFraming.frame_written, List.length_append]
    exact Nat.le_add_right _ _
  have read := stored_reads long
  rwa [List.take_length] at read

theorem unread_refuses {failure : ReleaseFailure} (unread : readReplay state.trustReplay = .error failure)
    (bundle : JsValue) : (authenticateEnvelopeV1 pin call state).1 ≠ .returned bundle := by
  cases passed : authenticate pin call state.trustReplay with
  | error failure =>
      rw [authenticateEnvelopeV1, passed]
      exact nofun
  | ok pair =>
      obtain ⟨verified, other⟩ := pair
      obtain ⟨-, -, -, -, -, -, replayState, read, -⟩ := authenticate_ok_iff.mp passed
      cases unread.symm.trans read

variable (pin) in
-- One call: what it leaves recorded follows what was held, and is held then.
theorem serve_step (holds : Holds state last) (whole : Whole call) :
    (∀ verified ∈ recordedState pin call state, ∀ earlier ∈ last, Follows earlier verified) ∧
      Holds (authenticateEnvelopeV1 pin call state).2 ((recordedState pin call state).or last) := by
  cases passed : authenticate pin call state.trustReplay with
  | error failure => simpa [recordedState, authenticateEnvelopeV1, passed] using holds
  | ok pair =>
      obtain ⟨verified, bundle⟩ := pair
      have fresh : ∀ earlier ∈ last, Follows earlier verified := by
        obtain ⟨-, release, -, -, -, rfl, replayState, read, fresh⟩ := authenticate_ok_iff.mp passed
        rintro earlier rfl
        obtain rfl := Except.ok.inj (holds.symm.trans read)
        exact accepted_follows fresh
      have whole_ := stored_whole verified.toJson
      cases stop : call.stop with
      | none =>
          simp only [recordedState, authenticateEnvelopeV1, passed, recorded, stop, if_true,
            Option.mem_some_iff, forall_eq', Option.some_or]
          exact ⟨fresh, whole_⟩
      | some place =>
          cases place with
          | beforeWriting =>
              simp only [recordedState, authenticateEnvelopeV1, passed, recorded, stop]
              exact ⟨nofun, holds⟩
          | inBundle count =>
              simp only [recordedState, authenticateEnvelopeV1, passed, recorded, stop, if_true,
                Option.mem_some_iff, forall_eq', Option.some_or]
              exact ⟨fresh, whole_⟩
          | inReplay count =>
              have long := whole count stop
              have kept : recorded call = true := by simp [recorded, stop, long]
              rw [record_bytes passed] at long
              simp only [recordedState, authenticateEnvelopeV1, passed, stop, kept, if_true,
                Option.mem_some_iff, forall_eq', Option.some_or]
              exact ⟨fresh, stored_reads long⟩

variable (pin) in
-- A run: what it leaves recorded climbs, and the replay file holds the last of it.
theorem run_climbs {calls : List Call} (holds : Holds state last)
    (whole : ∀ call ∈ calls, Whole call) :
    (last.toList ++ history pin (recordedState pin) calls state).Pairwise Follows ∧
      Holds (serveAll pin calls state)
        ((history pin (recordedState pin) calls state).getLast?.or last) := by
  induction calls generalizing state last with
  | nil =>
      refine ⟨?_, by simpa [history, serveAll] using holds⟩
      cases last <;> simp [history]
  | cons call rest ih =>
      rw [List.forall_mem_cons] at whole
      obtain ⟨fresh, held⟩ := serve_step pin holds whole.1
      obtain ⟨climbs, ended⟩ := ih held whole.2
      rw [history]
      constructor
      · cases observed : recordedState pin call state with
        | none => simpa [observed] using climbs
        | some verified =>
            rw [observed] at climbs fresh
            simp only [Option.some_or, Option.toList_some, List.singleton_append,
              List.pairwise_cons] at climbs
            cases last with
            | none => simpa using climbs
            | some earlier =>
                have follows := fresh verified rfl earlier rfl
                simp only [Option.toList_some, List.singleton_append, List.pairwise_cons,
                  List.forall_mem_cons]
                exact ⟨⟨follows, fun later member => follows_trans follows (climbs.1 later member)⟩,
                  climbs⟩
      · have single : (recordedState pin call state).toList.getLast? = recordedState pin call state := by
          cases recordedState pin call state <;> rfl
        rw [List.getLast?_append, single, Option.or_assoc]
        exact ended

theorem accepted_recorded (calls : List Call) (state : StateDirectory) :
    (history pin (acceptedState pin) calls state).Sublist
      (history pin (recordedState pin) calls state) := by
  induction calls generalizing state with
  | nil => exact List.Sublist.refl []
  | cons call rest ih =>
      refine List.Sublist.append ?_ (ih _)
      unfold acceptedState recordedState
      cases authenticate pin call state.trustReplay with
      | error failure => exact List.Sublist.refl []
      | ok pair =>
          dsimp only
          by_cases answers : call.stop = none
          · have kept : recorded call = true := by simp [recorded, answers]
            rw [if_pos answers, if_pos kept]
          · rw [if_neg answers]
            exact List.nil_sublist _

/-- A call that a fresh state directory answers, and that is newer than all that was recorded. -/
structure Newer (pin : TrustPin) (calls : List Call) (next : Call) (verified : TrustReplayStateV1)
    (bundle : JsValue) : Prop where
  valid : authenticate pin next none = .ok (verified, bundle)
  uninterrupted : next.stop = none
  newer : ∀ earlier ∈ history pin (recordedState pin) calls .empty,
    earlier.highestSequence < verified.highestSequence

/-- What the acceptance of releases promises of a run on one state directory. -/
structure Acceptance (pin : TrustPin) (calls : List Call) : Prop where
  signature : ∀ call ∈ calls, ∀ envelope trustRoot release, Presents pin call envelope trustRoot →
    readRelease envelope.signedManifest trustRoot = .ok release →
      (release.verifySignature = .ok () ↔ Delegated release)
  climbs : (history pin (acceptedState pin) calls .empty).Pairwise Follows
  artifacts : ∀ call ∈ calls, ∀ file verified bundle,
    authenticate pin call file = .ok (verified, bundle) →
      ∃ envelope trustRoot artifacts, Presents pin call envelope trustRoot ∧
        (∃ candidates, manifestArtifacts envelope = .ok candidates ∧
          candidates.mapM parseArtifact = .ok artifacts) ∧
        ArtifactsSound call envelope artifacts
  resumes : ∀ next verified bundle, Newer pin calls next verified bundle →
    (authenticateEnvelopeV1 pin next (serveAll pin calls .empty)).1 = .returned bundle

/-- What a call keeps to: the first delegation of its key qualifies where a later one does, and
its process does not stop with less than the text of its release in the replay file. -/
structure Orderly (pin : TrustPin) (call : Call) : Prop where
  unshadowed : ∀ envelope trustRoot release, Presents pin call envelope trustRoot →
    readRelease envelope.signedManifest trustRoot = .ok release →
      release.revoked ∨ Unshadowed release
  whole : Whole call

variable (pin) in
theorem fresh_climbs {calls : List Call} (whole : ∀ call ∈ calls, Whole call) :
    (history pin (recordedState pin) calls .empty).Pairwise Follows ∧
      Holds (serveAll pin calls .empty) (history pin (recordedState pin) calls .empty).getLast? := by
  have start : Holds .empty none := rfl
  simpa using run_climbs pin start whole

theorem newer_answered {calls : List Call} (whole : ∀ call ∈ calls, Whole call) {next : Call}
    {verified : TrustReplayStateV1} {bundle : JsValue} (newer : Newer pin calls next verified bundle) :
    (authenticateEnvelopeV1 pin next (serveAll pin calls .empty)).1 = .returned bundle := by
  obtain ⟨-, held⟩ := fresh_climbs pin whole
  obtain ⟨envelope, release, placed, candidates, checked, rfl, -⟩ :=
    authenticate_ok_iff.mp newer.valid
  have passes : authenticate pin next (serveAll pin calls .empty).trustReplay =
      .ok (stateOf release, bundle) := by
    refine authenticate_ok_iff.mpr ⟨envelope, release, placed, candidates, checked, rfl, _, held, ?_⟩
    cases found : (history pin (recordedState pin) calls .empty).getLast? with
    | none => rfl
    | some last => exact newer_passes (newer.newer last (List.mem_of_getLast? found))
  rw [authenticateEnvelopeV1, passes, newer.uninterrupted]

theorem release_acceptance {calls : List Call} (orderly : ∀ call ∈ calls, Orderly pin call) :
    Acceptance pin calls := by
  have whole : ∀ call ∈ calls, Whole call := fun call member => (orderly call member).whole
  refine ⟨?_, ?_, ?_, ?_⟩
  · intro call member envelope trustRoot release presents read
    exact signature_agrees_iff.mpr ((orderly call member).unshadowed _ _ _ presents read)
  · exact (fresh_climbs pin whole).1.sublist (accepted_recorded calls .empty)
  · intro call member file verified bundle passed
    obtain ⟨envelope, release, placed, candidates, checked, -⟩ := authenticate_ok_iff.mp passed
    obtain ⟨trustRoot, presents, verified⟩ := checked.presents
    obtain ⟨artifacts, parsed, sound⟩ := artifacts_sound checked
    refine ⟨envelope, trustRoot, artifacts, presents, ⟨candidates, ?_, parsed⟩, sound⟩
    rw [manifestArtifacts, required_ok_iff, ← (release_recorded verified.read).1]
    exact verified.listed
  · exact fun next verified bundle newer => newer_answered whole newer

end Runs

section Recorded

open RecordedRuns IdealDigests

def pemKey (body : String) : JsString :=
  js "-----BEGIN PUBLIC KEY-----\n" ++ js body ++ js "\n-----END PUBLIC KEY-----\n"

def rootPem : JsString := pemKey "MCowBQYDK2VwAyEA6kpsY+KcUgq+9VB7Ey7F+ZVHdq6+vnuSQh7qaRRG0iw="

def releasePem : JsString := pemKey "MCowBQYDK2VwAyEA/RckOFqgx1tk+3jNYC+h2ZH96/drE8WO1wLqyDXp9hg="

theorem sample_positive : (1 : Nat) ≤ 1 := Nat.le_refl 1

theorem sample_ordered : (1 : Nat) ≤ 1000 := by decide

def sampleDelegation : TrustDelegationV1 where
  keyId := js "release-1"
  publicKeyPem := releasePem
  validFromSequence := 1
  validThroughSequence := 1000
  rootSignature := js "oh8PEVtsVhsEkEAn8VrG8NB6u3RFiy48UzIWffkKzJxZ5DATzowT6MrO8L+DmgYI" ++
    js "iO0xGx6YKyjepe3mCrjSBA=="
  positive := sample_positive
  ordered := sample_ordered

def sampleIdentity : JsValue :=
  object [("issuer", .str (js "issuer")), ("repository", .str (js "horseness")),
    ("workflow", .str (js "release.yml")), ("protectedEnvironment", .str (js "fixture"))]

def sampleTrustRoot : JsValue :=
  object [("schema", .str (js "horseness.project-trust-root.v1")), ("rootKeyId", .str (js "root-1")),
    ("rootPublicKeyPem", .str rootPem),
    ("delegations", .arr [object [("keyId", .str (js "release-1")), ("publicKeyPem", .str releasePem),
      ("validFromSequence", natural 1), ("validThroughSequence", natural 1000),
      ("rootSignature", .str sampleDelegation.rootSignature)]]),
    ("revokedKeyIds", .arr []), ("requiredSigstoreIdentity", sampleIdentity)]

def sampleCatalog : JsValue :=
  object [("releaseVersion", .str (js "1.0.0")), ("contributions", .arr [])]

def catalogDigest : JsString := js "3997a72d4e002d7dc0e882deb7b19d22cad0c7de398481b2662368a5c1330764"

def emptyDigest : JsString := js "e3b0c44298fc1c149afbf4c8996fb92427ae41e4649b934ca495991b7852b855"

def sampleManifest (sequence : Nat) : JsValue :=
  object [("schema", .str (js "horseness.release-manifest.v1")), ("sequence", natural sequence),
    ("version", .str (js "1.0.0")), ("previousManifestDigest", .null),
    ("artifacts", .arr [object [("path", .str (js "catalog.json")), ("sha256", .str catalogDigest),
      ("bytes", natural 45), ("lifecycleScripts", .arr [])]]),
    ("dependencyGraphDigest", .str emptyDigest), ("sigstoreIdentity", sampleIdentity)]

def manifestDigest : Nat → JsString
  | 1 => js "b752560266ebf7f68574bd82c8e3823d05e44db67d629ee78a40625cfbb8d2e1"
  | _ => js "e68f3d770c4caaa2ae12b50a2177de51e7e451e6fb70557b33cb35fd09b533f6"

def manifestSignature : Nat → JsString
  | 1 => js "kU5GJCdZlNmIe9RtIjDWgtHXwIwFDOEDaMszby+njTDECB/Xr1ekk5zYp1IRx2VS" ++
      js "CdIa+nxEh27fpBEDliLTCw=="
  | _ => js "/fzSLld7BrIleTyXVaGkHrOQPzvuY68CJF5nEGC5fGJlEXRk3YOkw/vXXcZE6eSf" ++
      js "vu/VfqionAgvDVVUdYROAw=="

def neutralDigest : Nat → JsString
  | 1 => js "791257277be5d1714b0765bb14ad218443266afd13fe4580bccad88ff71b0e1c"
  | _ => js "988ff577f95df0025812b1a6e394832b9cd1316bf4148f5ab49b8982871c40b6"

def sampleSigned (sequence : Nat) : JsValue :=
  object [("schema", .str (js "horseness.signed-release-manifest.v1")),
    ("manifest", sampleManifest sequence), ("manifestDigest", .str (manifestDigest sequence)),
    ("keyId", .str (js "release-1")), ("signature", .str (manifestSignature sequence))]

@[reducible] def releaseEngine : Engine :=
  { recordedEngine with sha256Hex := tableDigest ([1, 2].map fun sequence =>
      (js "horseness.release-manifest.v1" ++
        0 :: @JsonText.serialize recordedNumbers (sampleManifest sequence), manifestDigest sequence)) }

def canonicalBytes (value : JsValue) : List Nat := utf8 (@JsonText.serialize recordedNumbers value)

def catalogBytes (sequence : Nat) : List Nat :=
  utf8 (js "horseness.neutral-install-catalog.v1" ++ 0 ::
    @JsonText.serialize recordedNumbers (object (catalogCore (.str (js "1.0.0")) (.arr [])
      (sampleSigned sequence))))

def trustRootBytes : List Nat := utf8 (@stringify recordedNumbers sampleTrustRoot)

def trustRootDigest : JsString := js "d2c06c019cf434444bc156398fae20ca3e6a5513ac757a9e3482563a0a4f3efe"

@[reducible] def releaseCrypto : ReleaseCrypto where
  sha256 bytes := (findEntry bytes [([], emptyDigest),
    (utf8 (@stringify recordedNumbers sampleCatalog), catalogDigest), (trustRootBytes, trustRootDigest),
    (catalogBytes 1, neutralDigest 1), (catalogBytes 2, neutralDigest 2)]).getD
      (122 :: bytes.map Nat.toUInt16)
  verify key bytes signature := some (decide ((textValue key, bytes, signature) ∈
    [(some rootPem, canonicalBytes sampleDelegation.signedJson,
        fromBase64 sampleDelegation.rootSignature),
      (some releasePem, canonicalBytes (sampleManifest 1), fromBase64 (manifestSignature 1)),
      (some releasePem, canonicalBytes (sampleManifest 2), fromBase64 (manifestSignature 2))]))

def samplePin : TrustPin := ⟨.fixture, trustRootDigest⟩

def sampleEnvelope (sequence : Nat) : AuthenticatedReleaseEnvelopeV1 where
  schema := js "horseness.bootstrap-release-envelope.v1"
  signedManifest := sampleSigned sequence
  dependencyGraphBase64 := []
  artifacts := .ofEntries [(js "catalog.json",
    base64 (utf8 (@stringify recordedNumbers sampleCatalog)))]
  catalog := sampleCatalog
  catalogDigest := neutralDigest sequence

def sampleCall (sequence : Nat) (stop : Option Stop) : Call where
  responseLength := 4096
  envelope := some (sampleEnvelope sequence)
  trustRootPath := some (js "/etc/horseness/fixture-trust-root.json")
  trustRootBytes := some trustRootBytes
  temporary := [js "tmp", js "horseness-release-auth-1"]
  stop := stop

attribute [local instance] releaseEngine releaseCrypto

/-- Both releases are authentic, and each has one delegation. -/
instance sample_computed : Fact (∀ sequence ∈ [1, 2],
    (authenticate samplePin (sampleCall sequence none) none).toOption.isSome = true ∧
    ((readTrustRoot samplePin (sampleCall sequence none)).toOption.bind fun trustRoot =>
      (readRelease (sampleSigned sequence) trustRoot).toOption.map fun release =>
        release.delegations.length) = some 1) := ⟨by decide +kernel⟩

theorem sample_authenticates {sequence : Nat} (known : sequence = 1 ∨ sequence = 2)
    (stop : Option Stop) :
    ∃ passed, authenticate samplePin (sampleCall sequence stop) none = .ok passed := by
  have passes : (authenticate samplePin (sampleCall sequence stop) none).toOption.isSome = true :=
    (sample_computed.out sequence (by simpa using known)).1
  cases found : authenticate samplePin (sampleCall sequence stop) none with
  | error failure =>
      rw [found] at passes
      cases passes
  | ok passed => exact ⟨passed, rfl⟩

theorem unrecorded_left {call : Call} {passed : TrustReplayStateV1 × JsValue}
    (begun : authenticate samplePin call none = .ok passed) (written : recorded call = false) :
    recordedState samplePin call .empty = none := by
  have opened : authenticate samplePin call StateDirectory.empty.trustReplay = .ok passed := begun
  rw [recordedState, opened]
  simp only [written, Bool.false_eq_true, if_false]

-- A stop before the first byte of the replay file leaves it empty.
theorem emptied_left {call : Call} {passed : TrustReplayStateV1 × JsValue}
    (begun : authenticate samplePin call none = .ok passed) (stops : call.stop = some (.inReplay 0)) :
    (authenticateEnvelopeV1 samplePin call .empty).2 = ⟨some [], none⟩ := by
  have opened : authenticate samplePin call StateDirectory.empty.trustReplay = .ok passed := begun
  rw [authenticateEnvelopeV1, opened, stops]
  simp only [List.take_zero, StateDirectory.empty]

def cutCalls : List Call := [sampleCall 1 (some (.inReplay 0))]

theorem cut_replay_refuses : ¬ Acceptance samplePin cutCalls := by
  intro acceptance
  obtain ⟨⟨first, firstBundle⟩, begun⟩ := sample_authenticates (.inl rfl) (some (.inReplay 0))
  obtain ⟨⟨second, bundle⟩, valid⟩ := sample_authenticates (.inr rfl) none
  have written : recorded (sampleCall 1 (some (.inReplay 0))) = false := by decide +kernel
  have recordless : recordedState samplePin (sampleCall 1 (some (.inReplay 0))) .empty = none :=
    unrecorded_left begun written
  have served : (authenticateEnvelopeV1 samplePin (sampleCall 1 (some (.inReplay 0))) .empty).2 =
      ⟨some [], none⟩ := emptied_left begun rfl
  have newer : Newer samplePin cutCalls (sampleCall 2 none) second bundle := by
    refine ⟨valid, rfl, ?_⟩
    rw [cutCalls, history, recordless, history]
    exact nofun
  have answered := acceptance.resumes _ _ _ newer
  rw [cutCalls, serveAll, List.foldl_cons, List.foldl_nil, served] at answered
  have unread : readReplay (StateDirectory.mk (some []) none).trustReplay = .error .syntaxError := rfl
  exact unread_refuses unread bundle answered

def wholeCalls : List Call := [sampleCall 1 (some (.inBundle 3)), sampleCall 2 none]

theorem sample_unshadowed {sequence : Nat} {stop : Option Stop}
    (counted : ((readTrustRoot samplePin (sampleCall sequence none)).toOption.bind fun trustRoot =>
      (readRelease (sampleSigned sequence) trustRoot).toOption.map fun release =>
        release.delegations.length) = some 1)
    {envelope : AuthenticatedReleaseEnvelopeV1} {trustRoot : JsValue} {release : ReadRelease}
    (presents : Presents samplePin (sampleCall sequence stop) envelope trustRoot)
    (read : readRelease envelope.signedManifest trustRoot = .ok release) :
    release.revoked ∨ Unshadowed release := by
  have same : some (sampleEnvelope sequence) = some envelope := (envelope_read presents.envelope).1
  obtain rfl := Option.some.inj same
  have found : readRelease (sampleSigned sequence) trustRoot = .ok release := read
  have root : readTrustRoot samplePin (sampleCall sequence none) = .ok trustRoot := presents.trustRoot
  rw [root] at counted
  simp only [Except.toOption, Option.bind_some, found, Option.map_some, Option.some.injEq] at counted
  exact .inr (single_unshadowed counted.le)

theorem whole_calls_accepted : Acceptance samplePin wholeCalls := by
  refine release_acceptance fun call member => ?_
  rcases List.mem_cons.mp member with rfl | later
  · exact ⟨fun _ _ _ => sample_unshadowed (sample_computed.out 1 (by simp)).2, nofun⟩
  · obtain rfl := List.mem_singleton.mp later
    exact ⟨fun _ _ _ => sample_unshadowed (sample_computed.out 2 (by simp)).2, nofun⟩

end Recorded

end Horseness.ReleaseAcceptance
