import Horseness.ContextSelection
import Horseness.SearchOrders

/-!
What a reconstructed context holds: the included sources side by side, whole and in their order,
and a list of the active sources that did not fit. The order in which sources are listed in the
snapshot does not show in it.
-/

namespace Horseness.ContextReconstruction

open FallibleRuns Records ScriptText JsonValues ScriptEngine Canonical ForkContext DispatchAuthority
  GreedyLayouts SortKeys ContextSelection SearchOrders Utf8Text IdealDigests

section Encoding

theorem base64_unit_injective {one other : Nat} (first : one < 64) (second : other < 64)
    (same : base64Unit one = base64Unit other) : one = other := by
  have table : ∀ one other : Fin 64, base64Unit one = base64Unit other → one = other := by
    decide +kernel
  exact congrArg Fin.val (table ⟨one, first⟩ ⟨other, second⟩ same)

theorem base64_unit_padding {sextet : Nat} (bound : sextet < 64) : base64Unit sextet ≠ 61 := by
  have table : ∀ sextet : Fin 64, base64Unit sextet ≠ 61 := by decide +kernel
  exact table ⟨sextet, bound⟩

theorem base64_injective {left right : List Nat} (bytes : ∀ byte ∈ left, byte < 256)
    (others : ∀ byte ∈ right, byte < 256) (same : base64 left = base64 right) : left = right := by
  induction left using base64.induct generalizing right with
  | case1 first second third rest ih =>
      have small := bytes first (by simp)
      have small' := bytes second (by simp)
      have small'' := bytes third (by simp)
      match right with
      | a :: b :: c :: tail =>
          have bound := others a (by simp)
          have bound' := others b (by simp)
          have bound'' := others c (by simp)
          simp only [base64, List.cons.injEq] at same
          rcases same with ⟨one, two, three, four, later⟩
          have one := base64_unit_injective (by omega) (by omega) one
          have two := base64_unit_injective (by omega) (by omega) two
          have three := base64_unit_injective (by omega) (by omega) three
          have four := base64_unit_injective (by omega) (by omega) four
          have rest := ih (fun byte member => bytes byte (by simp [member]))
            (fun byte member => others byte (by simp [member])) later
          obtain rfl : first = a := by omega
          obtain rfl : second = b := by omega
          obtain rfl : third = c := by omega
          rw [rest]
      | [a, b] =>
          simp only [base64, List.cons.injEq] at same
          exact absurd same.2.2.2.1 (base64_unit_padding (by omega))
      | [a] =>
          simp only [base64, List.cons.injEq] at same
          exact absurd same.2.2.1 (base64_unit_padding (by omega))
      | [] => cases same
  | case2 first second =>
      have small := bytes first (by simp)
      have small' := bytes second (by simp)
      match right with
      | a :: b :: c :: tail =>
          have bound'' := others c (by simp)
          simp only [base64, List.cons.injEq] at same
          exact absurd same.2.2.2.1.symm (base64_unit_padding (by omega))
      | [a, b] =>
          have bound := others a (by simp)
          have bound' := others b (by simp)
          simp only [base64, List.cons.injEq] at same
          have one := base64_unit_injective (by omega) (by omega) same.1
          have two := base64_unit_injective (by omega) (by omega) same.2.1
          have three := base64_unit_injective (by omega) (by omega) same.2.2.1
          obtain rfl : first = a := by omega
          obtain rfl : second = b := by omega
          rfl
      | [a] =>
          simp only [base64, List.cons.injEq] at same
          exact absurd same.2.2.1 (base64_unit_padding (by omega))
      | [] => cases same
  | case3 first =>
      have small := bytes first (by simp)
      match right with
      | a :: b :: c :: tail =>
          have bound'' := others c (by simp)
          simp only [base64, List.cons.injEq] at same
          exact absurd same.2.2.2.1.symm (base64_unit_padding (by omega))
      | [a, b] =>
          have bound' := others b (by simp)
          simp only [base64, List.cons.injEq] at same
          exact absurd same.2.2.1.symm (base64_unit_padding (by omega))
      | [a] =>
          have bound := others a (by simp)
          simp only [base64, List.cons.injEq] at same
          have one := base64_unit_injective (by omega) (by omega) same.1
          have two := base64_unit_injective (by omega) (by omega) same.2.1
          obtain rfl : first = a := by omega
          rfl
      | [] => cases same
  | case4 =>
      match right with
      | _ :: _ :: _ :: _ => cases same
      | [_, _] => cases same
      | [_] => cases same
      | [] => rfl

-- Texts with the same bytes are the same where neither has a lone surrogate.
theorem utf8_injective {left right : JsString} (valid : validUnicode left = true)
    (other : validUnicode right = true) (same : utf8 left = utf8 right) : left = right := by
  rw [← decode_utf8 valid, ← decode_utf8 other, same]

variable [Engine]

theorem raw_digest_injective (ideal : Function.Injective Engine.sha256Hex) {left right : List UInt8}
    {digest : JsString} (first : rawDigest left = .ok digest)
    (second : rawDigest right = .ok digest) : left = right := by
  have texts : base64 (left.map UInt8.toNat) = base64 (right.map UInt8.toNat) := by
    have meanings := digest_meaning ideal first second
    simpa [meaning] using meanings
  have small (bytes : List UInt8) : ∀ byte ∈ bytes.map UInt8.toNat, byte < 256 := by
    intro byte member
    rcases List.mem_map.mp member with ⟨unit, _, rfl⟩
    exact unit.toNat_lt
  have bytes := base64_injective (small left) (small right) texts
  exact List.map_injective_iff.mpr (fun _ _ same => UInt8.toNat_inj.mp same) bytes

end Encoding

section Sorting

theorem source_before_sorts : Sorts sourceBefore :=
  by_key_sorts nat_keys (by_key_sorts list_keys (by_key_sorts list_keys (last_key_sorts list_keys)))

theorem source_before_tie {left right : MaterializedSource} (first : sourceBefore left right)
    (second : sourceBefore right left) : left.source.priority = right.source.priority ∧
      utf8 left.source.kind.text = utf8 right.source.kind.text ∧
      utf8 left.source.sourceId = utf8 right.source.sourceId ∧
      utf8 left.source.digest = utf8 right.source.digest := by
  rcases by_key_tie nat_keys first second with ⟨priority, first, second⟩
  rcases by_key_tie list_keys first second with ⟨kind, first, second⟩
  rcases by_key_tie list_keys first second with ⟨sourceId, first, second⟩
  exact ⟨priority, kind, sourceId, last_key_tie list_keys first second⟩

theorem kind_text_injective {left right : ContextSourceKindV1} (same : left.text = right.text) :
    left = right := by
  cases left <;> cases right <;> first | rfl | exact absurd same (by decide)

theorem kind_text_valid (kind : ContextSourceKindV1) : validUnicode kind.text = true := by
  cases kind <;> decide

/-- What the selection sees of a source. -/
structure Candidate where
  kind : ContextSourceKindV1
  sourceId : JsString
  digest : JsString
  priority : Nat
  bytes : List UInt8

def candidate (item : MaterializedSource) : Candidate :=
  ⟨item.source.kind, item.source.sourceId, item.source.digest, item.source.priority, item.bytes⟩

end Sorting

section Reading

variable [Engine] {snapshot : AuthenticatedContextSnapshotV1}

/-- The sources are read from a stored state, which is canonical JSON. -/
def StoredSources (snapshot : AuthenticatedContextSnapshotV1) : Prop :=
  ∃ state, assertJson state = .ok () ∧ parseSources state snapshot.pin = .ok snapshot.sources

omit [Engine] in
theorem property_valid {state value : JsValue} {name : String} (valid : assertJson state = .ok ())
    (found : property name state = some value) : assertJson value = .ok () := by
  cases state with
  | obj proto fields =>
      have each := ((assert_obj_ok_iff proto fields ()).mp valid).2
      exact (each (js name, value) (find_member _ _ _ found)).2
  | _ => cases found

omit [Engine] in
theorem text_valid {state : JsValue} {name : String} {code : ContextError} {found : JsString}
    (valid : assertJson state = .ok ()) (read : text (property name state) code = .ok found) :
    validUnicode found = true := by
  unfold text at read
  split at read
  · rename_i unit rest spelled
    cases read
    exact (assert_str_ok_iff _ ()).mp (property_valid valid spelled)
  · cases read

omit [Engine] in
theorem parsed_valid {item : JsValue} {source : TrustedContextSourceV1}
    (valid : assertJson item = .ok ()) (parsed : parseSource item = .ok source) :
    validUnicode source.sourceId = true ∧ validUnicode source.digest = true := by
  simp only [parseSource, bind_ok_iff, pure_ok_iff] at parsed
  rcases parsed with ⟨_, _, _, _, _, _, _, _, _, _, sourceId, identified, _, _, digest, hashed,
    _, _, _, _, rfl⟩
  exact ⟨text_valid valid identified, text_valid valid hashed⟩

theorem stored_valid (stored : StoredSources snapshot) : ∀ source ∈ snapshot.sources,
    validUnicode source.sourceId = true ∧ validUnicode source.digest = true := by
  rcases stored with ⟨state, valid, parsed⟩
  simp only [parseSources, bind_ok_iff, required_ok_iff] at parsed
  rcases parsed with ⟨_, _, _, _, items, found, _, _, _, _, mapped⟩
  intro source member
  rcases mapped_from mapped source member with ⟨item, here, parsed⟩
  refine parsed_valid ?_ parsed
  cases there : property "sources" state with
  | none => rw [there] at found; cases found
  | some value =>
      rw [there] at found
      cases value with
      | arr list =>
          cases found
          exact (assert_arr_ok_iff _ ()).mp (property_valid valid there) item here
      | _ => cases found

theorem materialize_ok {source : TrustedContextSourceV1} {item : MaterializedSource}
    (read : materialize snapshot source = .ok item) : item.source = source ∧
      rawDigest item.bytes = .ok source.digest ∧ ∃ artifact,
        snapshot.reader.readEventBoundArtifact snapshot.pin.core.workspaceId
          snapshot.pin.core.runId snapshot.pin.core.sourceObservationCursor.runSequence
          source.eventId source.artifactDigest = some artifact ∧ item.bytes = artifact.bytes := by
  simp only [materialize, bind_ok_iff, required_ok_iff, map_error_ok_iff, ensure_ok_iff,
    pure_ok_iff] at read
  rcases read with ⟨artifact, found, _, _, digest, hashed, _, rfl, rfl⟩
  exact ⟨rfl, hashed, artifact, found, rfl⟩

omit [Engine] in
-- A map over the same items in another order gives the same results in another order.
theorem mapM_perm {Failure Item Result : Type} {step : Item → Except Failure Result}
    {items others : List Item} (order : items.Perm others) {results : List Result}
    (mapped : items.mapM step = .ok results) :
    ∃ found, others.mapM step = .ok found ∧ results.Perm found := by
  simp only [mapM_ok_iff] at mapped ⊢
  induction order generalizing results with
  | nil => exact ⟨[], .nil, by cases mapped; exact .refl _⟩
  | cons item _ ih =>
      cases mapped with
      | cons first later =>
          rcases ih later with ⟨found, others, order⟩
          exact ⟨_ :: found, .cons first others, order.cons _⟩
  | swap one other rest =>
      cases mapped with
      | cons first later =>
          cases later with
          | cons second later => exact ⟨_, .cons second (.cons first later), .swap _ _ _⟩
  | trans _ _ first second =>
      rcases first mapped with ⟨middle, mapped, order⟩
      rcases second mapped with ⟨found, mapped, later⟩
      exact ⟨found, mapped, order.trans later⟩

end Reading

section Selecting

def byteSize (item : MaterializedSource) : Nat := item.bytes.length

def describe (span : MaterializedSource × Nat × Nat) : SourceDescriptorV1 :=
  ⟨span.1.source.kind.text, span.1.source.digest, span.2.1, span.2.2, span.1.source.priority⟩

theorem selection_folded (byteBudget : Nat) (items : List MaterializedSource)
    (start : Selection) : items.foldl (selectSource byteBudget) start =
      let chosen := choices byteSize byteBudget start.offset items
      { chunks := start.chunks ++ (kept chosen).map MaterializedSource.bytes
        descriptors := start.descriptors ++
          (spans byteSize start.offset (kept chosen)).map describe
        omissions := start.omissions ++ (dropped chosen).map omission
        offset := start.offset + total byteSize (kept chosen) } := by
  induction items generalizing start with
  | nil => simp [choices, kept, dropped, spans]
  | cons item rest ih =>
      rw [List.foldl_cons, ih]
      by_cases large : start.offset + item.bytes.length > byteBudget
      · have passed : choices byteSize byteBudget start.offset (item :: rest) =
            (item, false) :: choices byteSize byteBudget start.offset rest := by
          rw [choices]
          exact if_pos large
        simp [selectSource, large, passed, dropped]
      · have taken : choices byteSize byteBudget start.offset (item :: rest) = (item, true) ::
            choices byteSize byteBudget (start.offset + item.bytes.length) rest := by
          rw [choices]
          exact if_neg large
        simp [selectSource, large, taken, spans, describe, dropped, byteSize, Nat.add_assoc]

def selectCandidate (byteBudget : Nat) (selection : Selection) (item : Candidate) : Selection :=
  if selection.offset + item.bytes.length > byteBudget then
    { selection with omissions := selection.omissions ++ [js "budget:" ++ item.sourceId] }
  else
    { selection with
      chunks := selection.chunks ++ [item.bytes]
      descriptors := selection.descriptors ++ [⟨item.kind.text, item.digest, selection.offset,
        selection.offset + item.bytes.length, item.priority⟩]
      offset := selection.offset + item.bytes.length }

theorem selection_candidates (byteBudget : Nat) (items : List MaterializedSource)
    (start : Selection) : items.foldl (selectSource byteBudget) start =
      (items.map candidate).foldl (selectCandidate byteBudget) start := by
  rw [List.foldl_map]
  rfl

end Selecting

section Contexts

variable [Engine] {request : ReconstructContextRequestV1} {result : ReconstructedContextV1}

theorem reconstruct_ok_iff : reconstructPinnedContext request = .ok result ↔
    ∃ epoch items, requestEpoch request = .ok epoch ∧
      (request.snapshot.sources.filter (activeAt epoch)).mapM (materialize request.snapshot) =
        .ok items ∧
      publishSelection request ((items.insertionSort sourceBefore).foldl
        (selectSource request.byteBudget) ⟨[], [], [], 0⟩) = .ok result := by
  simp only [reconstructPinnedContext, bind_ok_iff]
  constructor
  · rintro ⟨epoch, passed, items, mapped, published⟩
    exact ⟨epoch, items, passed, mapped, published⟩
  · rintro ⟨epoch, items, passed, mapped, published⟩
    exact ⟨epoch, passed, items, mapped, published⟩

theorem published_ok {selection : Selection}
    (published : publishSelection request selection = .ok result) :
    result.bytes = selection.chunks.flatten ∧
      result.manifest.core.sources = selection.descriptors ∧
      result.manifest.core.selectedBytes = selection.offset ∧
      result.manifest.core.omissions.Perm selection.omissions := by
  simp only [publishSelection, bindContext, bind_ok_iff, map_error_ok_iff, pure_ok_iff] at published
  rcases published with ⟨digest, _, _, _, _, ⟨_, _, _, _, _, _, _, _, _, _, rfl⟩, _, _, _, _, rfl⟩
  exact ⟨rfl, rfl, rfl, List.perm_insertionSort _ _⟩

/-- What a result says about the sources: the sorted active sources with whether each was taken,
the taken ones side by side and whole, and the others listed. -/
structure Selects (request : ReconstructContextRequestV1) (result : ReconstructedContextV1)
    (epoch : Nat) (chosen : List (MaterializedSource × Bool)) : Prop where
  pinned : runEpoch request.snapshot.pin.core.sourceContextVersion = some epoch
  sources : (chosen.map fun choice => choice.1.source).Perm
    (request.snapshot.sources.filter (activeAt epoch))
  artifacts : ∀ choice ∈ chosen, ∃ artifact,
    request.snapshot.reader.readEventBoundArtifact request.snapshot.pin.core.workspaceId
      request.snapshot.pin.core.runId
      request.snapshot.pin.core.sourceObservationCursor.runSequence choice.1.source.eventId
      choice.1.source.artifactDigest = some artifact ∧ choice.1.bytes = artifact.bytes
  sorted : (chosen.map Prod.fst).Pairwise sourceBefore
  greedy : ∀ front item taken back, chosen = front ++ (item, taken) :: back →
    (taken = true ↔ total byteSize (kept front) + item.bytes.length ≤ request.byteBudget)
  tiled : Tiles 0 (result.manifest.core.sources.map fun descriptor =>
    (descriptor.byteStart, descriptor.byteEnd)) result.manifest.core.selectedBytes
  whole : List.Forall₂ (fun descriptor item => descriptor.kind = item.source.kind.text ∧
      descriptor.digest = item.source.digest ∧ descriptor.priority = item.source.priority ∧
      (result.bytes.drop descriptor.byteStart).take (descriptor.byteEnd - descriptor.byteStart) =
        item.bytes) result.manifest.core.sources (kept chosen)
  filled : result.bytes.length = result.manifest.core.selectedBytes
  bounded : result.manifest.core.selectedBytes ≤ request.byteBudget
  covered : ∀ source ∈ request.snapshot.sources, activeAt epoch source = true →
    (∃ item ∈ kept chosen, item.source = source) ∨
      js "budget:" ++ source.sourceId ∈ result.manifest.core.omissions
  omitted : result.manifest.core.omissions.Perm ((dropped chosen).map omission)

theorem epoch_checked {epoch : Nat} (passed : requestEpoch request = .ok epoch) :
    runEpoch request.snapshot.pin.core.sourceContextVersion = some epoch := by
  simp only [requestEpoch, bind_ok_iff, required_ok_iff, pure_ok_iff] at passed
  rcases passed with ⟨_, _, _, _, _, _, _, _, _, found, _, _, rfl⟩
  exact found

omit [Engine] in
theorem spans_described (bytes : List UInt8) (items : List MaterializedSource) (start : Nat)
    (slices : ∀ span ∈ spans byteSize start items,
      (bytes.drop span.2.1).take (span.2.2 - span.2.1) = span.1.bytes) :
    List.Forall₂ (fun (descriptor : SourceDescriptorV1) (item : MaterializedSource) =>
      descriptor.kind = item.source.kind.text ∧ descriptor.digest = item.source.digest ∧
      descriptor.priority = item.source.priority ∧
      (bytes.drop descriptor.byteStart).take (descriptor.byteEnd - descriptor.byteStart) =
        item.bytes) ((spans byteSize start items).map describe) items := by
  induction items generalizing start with
  | nil => exact .nil
  | cons item rest ih =>
      rw [spans, List.forall_mem_cons] at slices
      exact .cons ⟨rfl, rfl, rfl, slices.1⟩ (ih _ slices.2)

theorem materialized_sources {snapshot : AuthenticatedContextSnapshotV1}
    {sources : List TrustedContextSourceV1} {items : List MaterializedSource}
    (mapped : sources.mapM (materialize snapshot) = .ok items) :
    items.map MaterializedSource.source = sources := by
  have pairs := (mapM_ok_iff _ _ _).mp mapped
  clear mapped
  induction pairs with
  | nil => rfl
  | cons first _ ih => rw [List.map_cons, ih, (materialize_ok first).1]

theorem loop_selects {epoch : Nat} {items : List MaterializedSource}
    (pinned : runEpoch request.snapshot.pin.core.sourceContextVersion = some epoch)
    (mapped : (request.snapshot.sources.filter (activeAt epoch)).mapM
      (materialize request.snapshot) = .ok items)
    (published : publishSelection request ((items.insertionSort sourceBefore).foldl
      (selectSource request.byteBudget) ⟨[], [], [], 0⟩) = .ok result) :
    Selects request result epoch
      (choices byteSize request.byteBudget 0 (items.insertionSort sourceBefore)) := by
  rcases published_ok published with ⟨bytes, sources, selected, omissions⟩
  rw [selection_folded] at bytes sources selected omissions
  simp only [List.nil_append, Nat.zero_add] at bytes sources selected omissions
  have order := List.perm_insertionSort sourceBefore items
  have listed : (choices byteSize request.byteBudget 0 (items.insertionSort sourceBefore)).map
      Prod.fst = items.insertionSort sourceBefore := choices_items
  have flat : ∀ list : List MaterializedSource,
      (list.map MaterializedSource.bytes).flatten = list.flatMap MaterializedSource.bytes :=
    fun list => rfl
  refine ⟨pinned, ?_, ?_, ?_, ?_, ?_, ?_, ?_, ?_, ?_, omissions⟩
  · have shown := (order.map MaterializedSource.source).trans
      (.of_eq (materialized_sources mapped))
    rw [← listed, List.map_map] at shown
    exact shown
  · intro choice member
    have here : choice.1 ∈ items.insertionSort sourceBefore := by
      rw [← listed]
      exact List.mem_map_of_mem member
    rcases mapped_from mapped choice.1 (order.mem_iff.mp here) with ⟨source, _, materialized⟩
    rcases materialize_ok materialized with ⟨rfl, _, artifact, found, same⟩
    exact ⟨artifact, found, same⟩
  · rw [listed]
    exact @List.pairwise_insertionSort _ sourceBefore _ ⟨source_before_sorts.total⟩
      ⟨source_before_sorts.trans⟩ items
  · intro front item taken back split
    have fit := choices_fit split
    rwa [Nat.zero_add] at fit
  · rw [sources, selected, List.map_map]
    have tiles := spans_tile byteSize 0
      (kept (choices byteSize request.byteBudget 0 (items.insertionSort sourceBefore)))
    rw [Nat.zero_add] at tiles
    exact tiles
  · rw [sources, bytes, flat]
    exact spans_described _ _ _ (spans_slice (fun _ => rfl) [] _)
  · rw [bytes, selected, flat]
    exact flat_length (fun _ => rfl) _
  · have bound : 0 + total byteSize (kept (choices byteSize request.byteBudget 0
        (items.insertionSort sourceBefore))) ≤ request.byteBudget :=
      kept_bound (Nat.zero_le _)
    rw [selected]
    rwa [Nat.zero_add] at bound
  · intro source member active
    have there : source ∈ items.map MaterializedSource.source := by
      rw [materialized_sources mapped]
      exact List.mem_filter.mpr ⟨member, active⟩
    rcases List.mem_map.mp there with ⟨item, here, rfl⟩
    have choice : item ∈ kept (choices byteSize request.byteBudget 0
        (items.insertionSort sourceBefore)) ∨ item ∈ dropped (choices byteSize request.byteBudget 0
          (items.insertionSort sourceBefore)) := choice_cases (order.mem_iff.mpr here)
    rcases choice with taken | passed
    · exact .inl ⟨item, taken, rfl⟩
    · exact .inr (omissions.mem_iff.mpr (List.mem_map_of_mem passed))

theorem result_selects (reconstructed : reconstructPinnedContext request = .ok result) :
    ∃ epoch chosen, Selects request result epoch chosen := by
  rcases reconstruct_ok_iff.mp reconstructed with ⟨epoch, items, passed, mapped, published⟩
  exact ⟨epoch, _, loop_selects (epoch_checked passed) mapped published⟩

end Contexts

section Orders

variable [Engine] {request : ReconstructContextRequestV1}

def relisted (request : ReconstructContextRequestV1) (sources : List TrustedContextSourceV1) :
    ReconstructContextRequestV1 :=
  { request with snapshot := { request.snapshot with sources := sources } }

-- Sources that compare equal have the same candidate: equal digests are of equal bytes.
theorem tied_candidates (ideal : Function.Injective Engine.sha256Hex)
    {snapshot : AuthenticatedContextSnapshotV1} {left right : MaterializedSource}
    {source other : TrustedContextSourceV1}
    (valid : validUnicode source.sourceId = true ∧ validUnicode source.digest = true)
    (sound : validUnicode other.sourceId = true ∧ validUnicode other.digest = true)
    (read : materialize snapshot source = .ok left)
    (also : materialize snapshot other = .ok right)
    (first : sourceBefore left right) (second : sourceBefore right left) :
    candidate left = candidate right := by
  rcases materialize_ok read with ⟨rfl, hashed, _⟩
  rcases materialize_ok also with ⟨rfl, rehashed, _⟩
  rcases source_before_tie first second with ⟨priority, kind, sourceId, digest⟩
  have same := utf8_injective valid.2 sound.2 digest
  rw [← same] at rehashed
  rw [candidate, candidate, priority, same, utf8_injective valid.1 sound.1 sourceId,
    kind_text_injective (utf8_injective (kind_text_valid _) (kind_text_valid _) kind),
    raw_digest_injective ideal hashed rehashed]

omit [Engine] in
theorem candidate_order {left left' right right' : MaterializedSource}
    (same : candidate left = candidate left') (equal : candidate right = candidate right')
    (below : sourceBefore left right) : sourceBefore left' right' := by
  simp only [candidate, Candidate.mk.injEq] at same equal
  simpa only [sourceBefore, byKey, lastKey, same, equal] using below

theorem sorted_candidates (ideal : Function.Injective Engine.sha256Hex)
    {snapshot : AuthenticatedContextSnapshotV1} {sources : List TrustedContextSourceV1}
    (valid : ∀ source ∈ sources,
      validUnicode source.sourceId = true ∧ validUnicode source.digest = true)
    {items others : List MaterializedSource}
    (mapped : sources.mapM (materialize snapshot) = .ok items) (order : items.Perm others) :
    (items.insertionSort sourceBefore).map candidate =
      (others.insertionSort sourceBefore).map candidate := by
  refine sorted_views source_before_sorts candidate order
    (fun _ _ _ _ same equal below => candidate_order same equal below) ?_
  intro left here right there first second
  rcases mapped_from mapped left here with ⟨source, member, read⟩
  rcases mapped_from mapped right there with ⟨other, listed, also⟩
  exact tied_candidates ideal (valid source member) (valid other listed) read also first second

theorem relisted_result (ideal : Function.Injective Engine.sha256Hex)
    (valid : ∀ source ∈ request.snapshot.sources,
      validUnicode source.sourceId = true ∧ validUnicode source.digest = true)
    {sources : List TrustedContextSourceV1} (order : request.snapshot.sources.Perm sources)
    {result : ReconstructedContextV1}
    (reconstructed : reconstructPinnedContext request = .ok result) :
    reconstructPinnedContext (relisted request sources) = .ok result := by
  rcases reconstruct_ok_iff.mp reconstructed with ⟨epoch, items, passed, mapped, published⟩
  rcases mapM_perm (order.filter (activeAt epoch)) mapped with ⟨others, remapped, mixed⟩
  refine reconstruct_ok_iff.mpr ⟨epoch, others, passed, remapped, ?_⟩
  have same := sorted_candidates ideal
    (fun source member => valid source (List.mem_of_mem_filter member)) mapped mixed
  rw [selection_candidates, same, ← selection_candidates] at published
  exact published

/-- A reconstruction selects from the active sources, and how they are listed does not matter. -/
theorem context_selected (ideal : Function.Injective Engine.sha256Hex)
    (stored : StoredSources request.snapshot) {sources : List TrustedContextSourceV1}
    (order : request.snapshot.sources.Perm sources) (result : ReconstructedContextV1) :
    (reconstructPinnedContext request = .ok result →
      ∃ epoch chosen, Selects request result epoch chosen) ∧
    (reconstructPinnedContext request = .ok result ↔
      reconstructPinnedContext (relisted request sources) = .ok result) := by
  have valid := stored_valid stored
  refine ⟨result_selects, relisted_result ideal valid order, fun reconstructed => ?_⟩
  have returned : reconstructPinnedContext
      (relisted (relisted request sources) request.snapshot.sources) = .ok result :=
    relisted_result ideal (fun source member => valid source (order.mem_iff.mpr member))
      order.symm reconstructed
  exact returned

end Orders

section Recorded

def samplePinCore : ForkPinCoreV1 :=
  { forkId := js "f"
    pinVersion := 1
    workspaceId := js "w"
    runId := js "r"
    parentForkPinDigest := none
    refreshesForkPinDigest := none
    canonicalRevision := 0
    canonicalStateHash := js "s"
    sourceObservationCursor := RecordedRuns.sampleCursor
    sourceContextVersion := RecordedRuns.sampleVersion
    dependencyJoinSnapshotDigest := js "j"
    deltaAuthorityScopeDigest := js "d"
    pinnedPolicyDigest := js "p"
    ancestry := []
    createdByPrincipalId := js "u"
    createdByGrantDigest := js "g" }

def sampleDigests : List (JsString × JsString) :=
  [(js "horseness.context-source-bytes.v1" ++ 0 :: js "\"AQI=\"", js "1"),
    (js "horseness.context-source-bytes.v1" ++ 0 :: js "\"AwQF\"", js "2"),
    (js "horseness.fork-pin-core.v1" ++ 0 ::
      @JsonText.serialize RecordedRuns.recordedNumbers samplePinCore.toJson, js "3")]

@[reducible] def sourceEngine : Engine :=
  { RecordedRuns.recordedEngine with sha256Hex := tableDigest sampleDigests }

theorem source_engine_ideal : Function.Injective sourceEngine.sha256Hex :=
  table_injective (table_of_digests (by decide) (by decide))

attribute [local instance] sourceEngine

def samplePin : Except DomainError SealedForkPinV1 := sealForkPin samplePinCore

def sampleSource (sourceId : JsString) (bytes : List UInt8) : Except DomainError JsValue := do
  let digest ← rawDigest bytes
  return object [("sourceId", .str sourceId), ("kind", .str (js "task")),
    ("priority", natural 1), ("digest", .str digest), ("activationEpoch", natural 0),
    ("deactivationEpoch", .null), ("artifactDigest", .str sourceId), ("eventId", .str (js "e"))]

def sampleState (pin : SealedForkPinV1) (sources : List JsValue) : JsValue :=
  object [("schemaVersion", .str (js "1")), ("workspaceId", .str (js "w")),
    ("runId", .str (js "r")), ("forkPinDigest", .str pin.forkPinDigest),
    ("observationCursor", RecordedRuns.sampleCursor.toJson),
    ("contextVersion", RecordedRuns.sampleVersion.toJson), ("sources", .arr sources)]

def sampleReader : TrustedAuthorityReader where
  readEventBoundArtifact _ _ _ _ digest :=
    some ⟨if digest = js "a" then [1, 2] else [3, 4, 5], 1⟩

structure SampleRequest where
  state : JsValue
  request : ReconstructContextRequestV1

def sampleRequest : Except ContextError SampleRequest := do
  let pin ← samplePin.mapError ContextError.domain
  let first ← (sampleSource (js "a") [1, 2]).mapError ContextError.domain
  let second ← (sampleSource (js "b") [3, 4, 5]).mapError ContextError.domain
  let state := sampleState pin [second, first]
  let sources ← parseSources state pin
  return ⟨state,
    { snapshot :=
        { view := ⟨RecordedRuns.sampleCursor, [⟨1, js "h"⟩], [⟨1, js "h"⟩]⟩
          pin := pin
          sources := sources
          authorizationOverlay := ⟨js "p", js "g", js "q", true⟩
          authorizationContextVersion := RecordedRuns.sampleVersion
          reader := sampleReader }
      attemptId := js "t"
      generation := 1
      byteBudget := 4
      rendererVersion := js "v"
      providerIdempotencyKey := js "k"
      allowedProducerPrincipalId := js "u"
      allowedProducerGrantDigest := js "g"
      tokenizerMetadata := none }⟩

instance sample_shown : Fact (endsIn (fun sample => assertJson sample.state = .ok () &&
      endsIn (fun sources => sources = sample.request.snapshot.sources)
        (parseSources sample.state sample.request.snapshot.pin) &&
      endsIn (fun result => result.bytes = [1, 2] &&
        result.manifest.core.omissions = [js "budget:b"])
        (reconstructPinnedContext sample.request)) sampleRequest = true) := ⟨by decide +kernel⟩

/-- Two bytes fit a budget of four, three more do not; the sources are listed in both orders. -/
theorem sample_context_selected : ∃ (request : ReconstructContextRequestV1)
    (result : ReconstructedContextV1), result.bytes = [1, 2] ∧
      result.manifest.core.omissions = [js "budget:b"] ∧
      (∃ epoch chosen, Selects request result epoch chosen) ∧
      reconstructPinnedContext (relisted request request.snapshot.sources.reverse) =
        .ok result := by
  rcases ends_in_exists sample_shown.out with ⟨sample, _, shown⟩
  simp only [Bool.and_eq_true, decide_eq_true_eq] at shown
  rcases shown with ⟨⟨valid, parsed⟩, reconstructed⟩
  rcases ends_in_exists parsed with ⟨sources, read, same⟩
  obtain rfl := of_decide_eq_true same
  rcases ends_in_exists reconstructed with ⟨result, returned, facts⟩
  simp only [Bool.and_eq_true, decide_eq_true_eq] at facts
  have selected := context_selected source_engine_ideal ⟨sample.state, valid, read⟩
    (List.reverse_perm sample.request.snapshot.sources).symm result
  exact ⟨sample.request, result, facts.1, facts.2, selected.1 returned, selected.2.mp returned⟩

end Recorded

end Horseness.ContextReconstruction
