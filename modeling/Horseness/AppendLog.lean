import Horseness.IdealDigests
import Horseness.AuthorityLog

/-!
What requests do to the streams of an authority, whatever the order in which clients make
them. A write is described by the rows that it adds; the streams it touches authenticate
after it, and all others are as they were.
-/

namespace Horseness.AppendLog

open FallibleRuns Records ScriptText JsonValues JsonText JsonRoundTrip ScriptEngine Canonical
  IdealDigests EventChains RecordedRuns Turns AuthorityLog
open ExecutionStore (AuthorityStateExpectationV1)

section Chains

variable [Engine] {events front back : List HashedEventEnvelopeV1} {item : HashedEventEnvelopeV1}

/-- Every event has the number of its place and names the hash of the event before it. -/
def Chained (events : List HashedEventEnvelopeV1) : Prop :=
  ∀ front item back, events = front ++ item :: back →
    item.envelope.sequence = front.length + 1 ∧
      item.envelope.priorEnvelopeHash = front.getLast?.map HashedEventEnvelopeV1.envelopeHash

theorem verified_position {first : EventEnvelopeV1} {position : ChainPosition}
    (folded : front.foldlM (verifyEvent first) ⟨0, none⟩ = .ok position) :
    position = ⟨front.length, front.getLast?.map HashedEventEnvelopeV1.envelopeHash⟩ := by
  -- the fold is cut at its last event, whose hash becomes the prior one
  induction front using List.reverseRecOn generalizing position with
  | nil =>
      rw [List.foldlM_nil, pure_ok_iff] at folded
      exact folded.symm
  | append_singleton front item ih =>
      rcases (foldlM_concat_ok_iff _ _ _ _ _).mp folded with ⟨middle, before, stepped⟩
      have counted := ih before
      subst counted
      simp only [verifyEvent, bind_ok_iff, pure_ok_iff] at stepped
      rcases stepped with ⟨_, _, _, _, _, _, _, _, _, _, _, _, _, _, _, _, _, _, rfl⟩
      simp

theorem verified_chained (verified : verifyEventChain events = .ok ()) : Chained events := by
  rintro front item back rfl
  simp only [verifyEventChain, bind_ok_iff] at verified
  rcases verified with ⟨first, _, _, _, _, folded, _⟩
  rcases (foldlM_append_ok_iff _ _ _ _ _).mp folded with ⟨middle, before, rest⟩
  have counted := verified_position before
  subst counted
  rcases (foldlM_cons_ok_iff _ _ _ _ _).mp rest with ⟨_, stepped, _⟩
  simp only [verifyEvent, bind_ok_iff, ensure_ok_iff] at stepped
  rcases stepped with ⟨_, _, _, ⟨_, number, prior⟩, _⟩
  exact ⟨number, prior⟩

omit [Engine] in
theorem chained_number (chained : Chained events) {place : Nat}
    (small : place < events.length) : (events[place]).envelope.sequence = place + 1 := by
  have split : events = events.take place ++ events[place] :: events.drop (place + 1) := by
    rw [← List.drop_eq_getElem_cons small, List.take_append_drop]
  have numbered := (chained _ _ _ split).1
  rw [List.length_take] at numbered
  omega

omit [Engine] in
theorem chained_sorted (chained : Chained events) :
    events.Pairwise fun left right => left.envelope.sequence < right.envelope.sequence := by
  rw [List.pairwise_iff_getElem]
  intro first second small large before
  rw [chained_number chained small, chained_number chained large]
  omega

omit [Engine] in
theorem sorted_unique {left right : List HashedEventEnvelopeV1} (same : left.Perm right)
    (first : left.Pairwise fun one other => one.envelope.sequence < other.envelope.sequence)
    (second : right.Pairwise fun one other => one.envelope.sequence < other.envelope.sequence) :
    left = right :=
  List.Perm.eq_of_pairwise (fun one other _ _ below above => by omega) first second same

omit [Engine] in
-- Of two chains, the events that only the longer has come behind those that both have.
theorem appended_behind {whole added : List HashedEventEnvelopeV1} (first : Chained front)
    (later : Chained whole) (same : whole.Perm (front ++ added)) :
    ∃ new, whole = front ++ new ∧ new.Perm added := by
  have numbers : ((front ++ added).map fun event => event.envelope.sequence).Nodup := by
    refine (same.map _).nodup_iff.mp ?_
    exact List.pairwise_map.mpr ((chained_sorted later).imp fun before => by omega)
  rw [List.map_append, List.nodup_append] at numbers
  obtain ⟨-, distinct, disjoint⟩ := numbers
  -- the numbers up to the length of the front are those of the front
  have behind : ∀ event ∈ added, front.length < event.envelope.sequence := by
    intro event member
    obtain ⟨place, small, rfl⟩ := List.mem_iff_getElem.mp
      (same.mem_iff.mpr (List.mem_append_right _ member))
    by_contra low
    have number := chained_number later small
    have here : place < front.length := by omega
    refine disjoint _ (List.mem_map_of_mem (List.getElem_mem here)) _ (List.mem_map_of_mem member) ?_
    rw [number, chained_number first here]
  refine ⟨added.insertionSort fun left right => left.envelope.sequence ≤ right.envelope.sequence,
    sorted_unique (same.trans ((List.perm_insertionSort _ _).symm.append_left _))
      (chained_sorted later) ?_, List.perm_insertionSort _ _⟩
  rw [List.pairwise_append]
  refine ⟨chained_sorted first, ?_, ?_⟩
  · have sorted := List.pairwise_insertionSort
      (fun left right : HashedEventEnvelopeV1 => left.envelope.sequence ≤ right.envelope.sequence) added
    have apart := List.pairwise_map.mp (((List.perm_insertionSort
      (fun left right : HashedEventEnvelopeV1 =>
        left.envelope.sequence ≤ right.envelope.sequence) added).map _).nodup_iff.mpr distinct)
    exact (sorted.and apart).imp fun both => by omega
  · intro event one other two
    obtain ⟨place, small, rfl⟩ := List.mem_iff_getElem.mp one
    have above := behind other ((List.perm_insertionSort _ _).mem_iff.mp two)
    have number := chained_number first small
    omega

end Chains

section Streams

variable [Engine] {state middle after : Authority} {key : StreamKey}

/-- The stream of a key is in order: numbered, linked, all its own, and headed by its last
event. A stream without a row has no events. -/
inductive StreamSafe (state : Authority) (key : StreamKey) : Prop where
  | absent (noRow : state.streams.get key = none) (empty : state.rows key = [])
  | headed (row : StreamRow) (last : HashedEventEnvelopeV1)
      (found : state.streams.get key = some row) (ends : (state.rows key).getLast? = some last)
      (number : row.headSequence = (state.rows key).length)
      (hash : row.headHash = some last.envelopeHash) (chained : Chained (state.rows key))
      (own : ∀ event ∈ state.rows key, event.envelope.workspaceId = key.workspaceId ∧
        event.envelope.streamKind = key.streamKind ∧ event.envelope.streamId = key.streamId)

theorem authenticated_safe {rows : List HashedEventEnvelopeV1}
    (authenticated : authenticatedRows state key = .ok rows) :
    StreamSafe state key ∧ rows = state.rows key := by
  unfold authenticatedRows at authenticated
  cases found : state.streams.get key with
  | none =>
      simp only [found, bind_ok_iff, ensure_ok_iff, pure_ok_iff, List.isEmpty_iff] at authenticated
      rcases authenticated with ⟨_, empty, rfl⟩
      exact ⟨.absent found empty, empty.symm⟩
  | some head =>
      simp only [found, bind_ok_iff, List.forM_eq_forM, forM_ok_iff, ensure_ok_iff, required_ok_iff,
        map_error_ok_iff, pure_ok_iff] at authenticated
      rcases authenticated with
        ⟨_, own, _, _, _, _, _, verified, last, ends, _, ⟨number, hash⟩, rfl⟩
      have chained := verified_chained verified
      rcases List.getLast?_eq_some_iff.mp ends with ⟨front, shape⟩
      have place := (chained front last [] shape).1
      have counted : (state.rows key).length = front.length + 1 := by simp [shape]
      exact ⟨.headed head last found ends (by rw [number, place, counted]) hash chained own, rfl⟩

omit [Engine] in
theorem mem_rows_iff {event : HashedEventEnvelopeV1} :
    event ∈ state.rows key ↔ ⟨key, event⟩ ∈ state.events := by
  simp only [Authority.rows, List.mem_insertionSort, List.mem_map, List.mem_filter,
    decide_eq_true_eq]
  constructor
  · rintro ⟨row, ⟨member, rfl⟩, rfl⟩
    exact member
  · intro member
    exact ⟨_, ⟨member, rfl⟩, rfl⟩

theorem authenticated_congr (streams : after.streams.get key = state.streams.get key)
    (rows : after.rows key = state.rows key) :
    authenticatedRows after key = authenticatedRows state key := by
  simp only [authenticatedRows, streams, rows]

/-- What a write does: rows are added, the streams they are in authenticate afterwards, and
the others keep their row. -/
structure Extends (state : Authority) (added : List EventRow) (recorded : List CommandRow)
    (after : Authority) : Prop where
  events : after.events = state.events ++ added
  commands : after.commands = state.commands ++ recorded
  others : ∀ key, (∀ row ∈ added, row.key ≠ key) → after.streams.get key = state.streams.get key
  touched : ∀ row ∈ added, ∃ rows, authenticatedRows after row.key = .ok rows
  dispatches : after.dispatches = state.dispatches

variable {added more : List EventRow} {recorded later : List CommandRow}

theorem extends_refl : Extends state [] [] state :=
  ⟨by simp, by simp, fun _ _ => rfl, by simp, rfl⟩

omit [Engine] in
theorem rows_append (events : after.events = state.events ++ added)
    (other : ∀ row ∈ added, row.key ≠ key) : after.rows key = state.rows key := by
  have none_added : added.filter (fun row => row.key = key) = [] :=
    List.filter_eq_nil_iff.mpr fun row member => by simpa using other row member
  simp only [Authority.rows, events, List.filter_append, none_added, List.append_nil]

theorem extends_trans (first : Extends state added recorded middle)
    (second : Extends middle more later after) :
    Extends state (added ++ more) (recorded ++ later) after := by
  constructor
  · rw [second.events, first.events, List.append_assoc]
  · rw [second.commands, first.commands, List.append_assoc]
  · intro key other
    rw [second.others key fun row member => other row (List.mem_append_right _ member),
      first.others key fun row member => other row (List.mem_append_left _ member)]
  · intro row member
    by_cases again : ∃ next ∈ more, next.key = row.key
    · rcases again with ⟨next, listed, same⟩
      exact same ▸ second.touched next listed
    · -- a stream that only the first write touches is as that write left it
      have untouched : ∀ next ∈ more, next.key ≠ row.key := fun next listed same =>
        again ⟨next, listed, same⟩
      have listed : row ∈ added := by
        rcases List.mem_append.mp member with listed | listed
        · exact listed
        · exact absurd rfl (untouched row listed)
      rw [authenticated_congr (second.others _ untouched) (rows_append second.events untouched)]
      exact first.touched row listed
  · rw [second.dispatches, first.dispatches]

def Authentic (state : Authority) (key : StreamKey) : Prop :=
  ∃ rows, authenticatedRows state key = .ok rows

theorem authentic_congr (streams : after.streams.get key = state.streams.get key)
    (rows : after.rows key = state.rows key) (authentic : Authentic state key) : Authentic after key := by
  rcases authentic with ⟨events, authenticated⟩
  exact ⟨events, (authenticated_congr streams rows).trans authenticated⟩

theorem extends_authentic (extended : Extends state added recorded after)
    (authentic : Authentic state key) : Authentic after key := by
  by_cases touched : ∃ row ∈ added, row.key = key
  · rcases touched with ⟨row, member, rfl⟩
    exact extended.touched row member
  · have untouched : ∀ row ∈ added, row.key ≠ key := fun row member same =>
      touched ⟨row, member, same⟩
    exact authentic_congr (extended.others key untouched) (rows_append extended.events untouched)
      authentic

theorem extends_row (extended : Extends state added recorded after) {row : EventRow}
    (member : row ∈ added) : (after.streams.get row.key).isSome = true := by
  rcases extended.touched row member with ⟨rows, authenticated⟩
  have listed : row.event ∈ after.rows row.key :=
    mem_rows_iff.mpr (extended.events ▸ List.mem_append_right _ member)
  cases (authenticated_safe authenticated).1 with
  | absent _ empty => rw [empty] at listed; cases listed
  | headed head _ found => rw [found]; rfl

omit [Engine] in
theorem safe_chained (safe : StreamSafe state key) : Chained (state.rows key) := by
  cases safe with
  | absent _ empty =>
      rw [empty]
      intro front item back shape
      simp at shape
  | headed _ _ _ _ _ _ chained _ => exact chained

-- The events of a stream stand at its front, and the added ones behind them.
theorem rows_extended (safe : StreamSafe state key) (extended : Extends state added recorded after) :
    ∃ new, after.rows key = state.rows key ++ new ∧
      new.Perm ((added.filter fun row => row.key = key).map EventRow.event) := by
  by_cases touched : ∃ row ∈ added, row.key = key
  · have later : Chained (after.rows key) := by
      rcases touched with ⟨row, member, rfl⟩
      rcases extended.touched row member with ⟨rows, authenticated⟩
      exact safe_chained (authenticated_safe authenticated).1
    have whole : (after.rows key).Perm (state.rows key ++
        (added.filter fun row => row.key = key).map EventRow.event) := by
      refine (List.perm_insertionSort _ _).trans ?_
      rw [extended.events, List.filter_append, List.map_append]
      exact (List.perm_insertionSort _ _).symm.append_right _
    exact appended_behind (safe_chained safe) later whole
  · have untouched : ∀ row ∈ added, row.key ≠ key := fun row member same =>
      touched ⟨row, member, same⟩
    have none_added : added.filter (fun row => row.key = key) = [] :=
      List.filter_eq_nil_iff.mpr fun row member => by simpa using untouched row member
    exact ⟨[], by rw [rows_append extended.events untouched, List.append_nil], by rw [none_added]; rfl⟩
end Streams

section Writes

variable [Engine] {around : Surroundings} {state after : Authority} {request : AtomicAppendRequest}
  {added : List EventRow} {recorded : List CommandRow}

def appendRows (append : AppendRequest) : List EventRow := append.events.map (EventRow.mk append.key)

def genesisRows (genesis : RunGenesisAppendRequest) : List EventRow :=
  [⟨.run genesis.observationCursor.workspaceId genesis.observationCursor.runId, genesis.event⟩]

def requestRows (request : AtomicAppendRequest) : List EventRow :=
  request.workspace.toList.flatMap appendRows ++ request.run.toList.flatMap appendRows ++
    request.runGenesis.toList.flatMap genesisRows

omit [Engine] in
theorem inserted_rows {key : StreamKey} {events : List HashedEventEnvelopeV1}
    (inserted : events.foldlM (insertEvent key) state = .ok after) :
    after = { state with events := state.events ++ events.map (EventRow.mk key) } := by
  induction events generalizing state with
  | nil =>
      rw [List.foldlM_nil, pure_ok_iff] at inserted
      subst inserted
      simp
  | cons event rest ih =>
      rcases (foldlM_cons_ok_iff _ _ _ _ _).mp inserted with ⟨next, first, later⟩
      simp only [insertEvent, check_ok_iff, pure_ok_iff] at first
      rcases first with ⟨_, rfl⟩
      rw [ih later]
      simp

omit [Engine] in
theorem opened_streams (state : Authority) (key : StreamKey) :
    ∃ streams, state.openStream key = { state with streams := streams } ∧
      ∀ other, key ≠ other → streams.get other = state.streams.get other := by
  unfold Authority.openStream
  split
  · exact ⟨state.streams, rfl, fun _ _ => rfl⟩
  · exact ⟨_, rfl, fun other different => Record.get_set_other _ _ different⟩

-- An append adds its rows to its own stream, which authenticates before it is done.
theorem append_extends {append : AppendRequest} {head : AppendHead}
    (written : writeAppend state append = .ok (head, after)) :
    Extends state (appendRows append) [] after := by
  rcases opened_streams state append.key with ⟨streams, opened, kept⟩
  simp only [writeAppend, bind_ok_iff, required_ok_iff, pure_ok_iff, Prod.mk.injEq, opened] at written
  rcases written with ⟨_, _, _, _, inserted, filled, last, ends, rows, authenticated, _, _, -, rfl⟩
  have shape := inserted_rows filled
  subst shape
  constructor
  · rfl
  · simp [Authority.setStream]
  · intro key other
    -- there is a last event, so the append's own stream is one of the touched
    have different : append.key ≠ key := other ⟨append.key, last⟩
      (List.mem_map.mpr ⟨last, List.mem_of_getLast? ends, rfl⟩)
    simp only [Authority.setStream]
    rw [Record.get_set_other _ _ different, kept key different]
  · intro row member
    rcases List.mem_map.mp member with ⟨event, _, rfl⟩
    exact ⟨rows, authenticated⟩
  · rfl

theorem genesis_extends {genesis : RunGenesisAppendRequest} {head : AppendHead}
    (written : writeRunGenesis around state genesis = .ok (head, after)) :
    Extends state (genesisRows genesis) [] after := by
  simp only [writeRunGenesis, bind_ok_iff] at written
  rcases written with ⟨_, _, _, _, _, _, _, _, _, _, _, _, written⟩
  exact append_extends written

def Adds {Part : Type} (write : Authority → Part → Except StoreError (AppendHead × Authority))
    (rows : Part → List EventRow) : Prop :=
  ∀ state part head after, write state part = .ok (head, after) →
    Extends state (rows part) [] after

theorem appends_extend : Adds writeAppend appendRows := fun _ _ _ _ => append_extends

theorem genesis_extend : Adds (writeRunGenesis around) genesisRows := fun _ _ _ _ => genesis_extends

-- A part that is written adds its rows; a request without the part adds none.
theorem part_extends {Part : Type} {write : Authority → Part → Except StoreError (AppendHead × Authority)}
    {rows : Part → List EventRow} {part : Option Part} {head : Option AppendHead}
    (adds : Adds write rows) (written : writePart write state part = .ok (head, after)) :
    Extends state (part.toList.flatMap rows) [] after := by
  cases part with
  | none =>
      simp only [writePart, Except.ok.injEq, Prod.mk.injEq] at written
      rcases written with ⟨-, rfl⟩
      exact extends_refl
  | some part =>
      simp only [writePart, bind_ok_iff, pure_ok_iff, Prod.mk.injEq] at written
      rcases written with ⟨⟨found, next⟩, wrote, -, rfl⟩
      simpa using adds state part found next wrote

theorem command_extends {key : CommandKey} {digest : JsString} {result : JsValue}
    (inserted : insertCommand state key digest result = .ok after) :
    Extends state [] [⟨key, digest, normalize result⟩] after := by
  simp only [insertCommand, bind_ok_iff, map_error_ok_iff, clone_ok_iff, pure_ok_iff] at inserted
  rcases inserted with ⟨stored, ⟨_, rfl⟩, rfl⟩
  exact ⟨by simp, rfl, fun _ _ => rfl, by simp, rfl⟩

/-- The request has taken effect: its command is new, its rows and its record are added. -/
structure Commits (state : Authority) (added : List EventRow) (row : CommandRow)
    (after : Authority) : Prop where
  fresh : state.command row.key = none
  extended : Extends state added [row] after

/-- A request under a recorded command gives the record back, with the flag. -/
structure Repeats (state : Authority) (key : CommandKey) (digest : JsString) (answer : JsValue)
    (after : Authority) : Prop where
  recorded : ∃ prior, state.command key = some prior ∧ prior.requestDigest = digest ∧
    answer = deduplicated prior.result
  unchanged : after = state

def Accepted (state : Authority) (added : List EventRow) (key : CommandKey) (digest : JsString)
    (answer : JsValue) (after : Authority) : Prop :=
  Repeats state key digest answer after ∨ Commits state added ⟨key, digest, normalize answer⟩ after

theorem append_accepted {answer : JsValue}
    (accepted : appendAtomic around request state = .ok (answer, after)) :
    ∃ workspaceId digest, requestWorkspace request = .ok workspaceId ∧
      requestDigest (js "horseness.store-append.v1") request.toJson = .ok digest ∧
      Accepted state (requestRows request) (commandScope request workspaceId) digest answer after := by
  simp only [appendAtomic, bind_ok_iff] at accepted
  rcases accepted with ⟨_, _, _, _, _, _, _, _, workspaceId, named, digest, digested, accepted⟩
  refine ⟨workspaceId, digest, named, digested, ?_⟩
  cases found : state.command (commandScope request workspaceId) with
  | some prior =>
      simp only [found, bind_ok_iff, ensure_ok_iff, pure_ok_iff, Prod.mk.injEq] at accepted
      rcases accepted with ⟨_, same, _, _, rfl, rfl⟩
      exact .inl ⟨⟨prior, found, same, rfl⟩, rfl⟩
  | none =>
      simp only [found, bind_ok_iff, pure_ok_iff, Prod.mk.injEq] at accepted
      rcases accepted with ⟨_, _, ⟨_, first⟩, workspace, ⟨_, second⟩, run, ⟨_, third⟩, genesis, last,
        inserted, rfl, rfl⟩
      have one := part_extends appends_extend workspace
      have two := part_extends appends_extend run
      have three := part_extends genesis_extend genesis
      have whole := extends_trans (extends_trans (extends_trans one two) three)
        (command_extends inserted)
      exact .inr ⟨found, by simpa [requestRows] using whole⟩

/-- A step that writes only tables beside the streams and the commands. -/
def Beside {Item : Type} (step : Authority → Item → Except StoreError Authority) : Prop :=
  ∀ state item after, step state item = .ok after → Extends state [] [] after

theorem fold_beside {Item : Type} {step : Authority → Item → Except StoreError Authority}
    {items : List Item} (beside : Beside step) (folded : items.foldlM step state = .ok after) :
    Extends state [] [] after := by
  induction items generalizing state with
  | nil =>
      rw [List.foldlM_nil, pure_ok_iff] at folded
      exact folded ▸ extends_refl
  | cons item rest ih =>
      rcases (foldlM_cons_ok_iff _ _ _ _ _).mp folded with ⟨middle, first, later⟩
      exact extends_trans (beside state item middle first) (ih later)

-- Tables beside the streams and the commands have no part in what `Extends` says.
theorem beside_only (streams : after.streams = state.streams) (events : after.events = state.events)
    (commands : after.commands = state.commands) (dispatches : after.dispatches = state.dispatches) :
    Extends state [] [] after :=
  ⟨by simpa using events, by simpa using commands, fun _ _ => by rw [streams], by simp, dispatches⟩

theorem register_beside : Beside (register around) := by
  intro state record after registered
  simp only [register, bind_ok_iff] at registered
  rcases registered with ⟨_, _, registered⟩
  split at registered
  · simp only [bind_ok_iff, pure_ok_iff] at registered
    rcases registered with ⟨_, _, rfl⟩
    exact extends_refl
  · rw [pure_ok_iff] at registered
    exact registered ▸ beside_only rfl rfl rfl rfl

theorem reference_beside {workspaceId digest : JsString} :
    Beside (addReference around workspaceId digest) := by
  intro state reference after written
  simp only [addReference, bind_ok_iff, pure_ok_iff] at written
  rcases written with ⟨_, _, _, _, rfl⟩
  exact beside_only rfl rfl rfl rfl

theorem pin_beside {digest : JsString} : Beside (addPin around digest) := by
  intro state pin after written
  simp only [addPin, bind_ok_iff, pure_ok_iff] at written
  rcases written with ⟨_, _, rfl⟩
  exact beside_only rfl rfl rfl rfl

theorem owners_beside {workspaceId : JsString} : Beside (addOwners around workspaceId) := by
  intro state publication after written
  simp only [addOwners, bind_ok_iff] at written
  rcases written with ⟨middle, referenced, pinned⟩
  exact extends_trans (fold_beside reference_beside referenced) (fold_beside pin_beside pinned)

theorem projection_beside : Beside updateProjection := by
  intro state update after written
  simp only [updateProjection, bind_ok_iff, pure_ok_iff] at written
  rcases written with ⟨_, _, _, _, rfl⟩
  exact beside_only rfl rfl rfl rfl

theorem snapshot_beside : Beside insertSnapshot := by
  intro state snapshot after written
  simp only [insertSnapshot, bind_ok_iff, pure_ok_iff] at written
  rcases written with ⟨_, _, _, _, _, _, rfl⟩
  exact beside_only rfl rfl rfl rfl

theorem publish_accepted {request : PublishAndAppendRequest} {answer : JsValue}
    (accepted : publishAndAppendAtomic around request state = .ok (answer, after)) :
    ∃ workspaceId digest, publicationAdmissible request = .ok workspaceId ∧
      requestDigest (js "horseness.store-artifact-append.v1") request.toJson = .ok digest ∧
      Accepted state (requestRows request.toAtomicAppendRequest)
        (commandScope request.toAtomicAppendRequest workspaceId) digest answer after := by
  simp only [publishAndAppendAtomic, bind_ok_iff] at accepted
  rcases accepted with ⟨_, _, workspaceId, admissible, digest, digested, accepted⟩
  refine ⟨workspaceId, digest, admissible, digested, ?_⟩
  cases found : state.command (commandScope request.toAtomicAppendRequest workspaceId) with
  | some prior =>
      simp only [found, bind_ok_iff, ensure_ok_iff, pure_ok_iff, Prod.mk.injEq] at accepted
      rcases accepted with ⟨_, same, rfl, rfl⟩
      exact .inl ⟨⟨prior, found, same, rfl⟩, rfl⟩
  | none =>
      have noGenesis : request.runGenesis = none := by
        simp only [publicationAdmissible, bind_ok_iff, ensure_ok_iff] at admissible
        rcases admissible with ⟨_, _, _, _, _, _, _, absent, _⟩
        simpa using absent
      simp only [found, bind_ok_iff, pure_ok_iff, Prod.mk.injEq] at accepted
      rcases accepted with ⟨_, _, _, _, _, _, registered, catalogued, ⟨_, first⟩, workspace,
        ⟨_, second⟩, run, owned, referenced, _, _, projected, moved, pictured, pictures, last,
        inserted, rfl, rfl⟩
      have before := fold_beside register_beside catalogued
      have written := extends_trans (part_extends appends_extend workspace)
        (part_extends appends_extend run)
      have beside := extends_trans (fold_beside owners_beside referenced)
        (extends_trans (fold_beside projection_beside moved) (fold_beside snapshot_beside pictures))
      have whole := extends_trans (extends_trans before written)
        (extends_trans beside (command_extends inserted))
      exact .inr ⟨found, by simpa [requestRows, noGenesis] using whole⟩

-- A command is answered from its record, or recorded, or read where there is nothing.
theorem execution_accepted {input : ExecutionCommand} {result answer : Option JsValue}
    (accepted : executionCommandResult around input result state = .ok (answer, after)) :
    let key : CommandKey := ⟨input.workspaceId, .run, input.runId, input.commandId⟩
    (∃ prior, state.command key = some prior ∧ prior.requestDigest = input.requestDigest ∧
      answer = some prior.result ∧ after = state) ∨
    (∃ value, result = some value ∧ answer = some value ∧
      Commits state [] ⟨key, input.requestDigest, normalize value⟩ after) ∨
    (result = none ∧ state.command key = none ∧ answer = none ∧ after = state) := by
  simp only [executionCommandResult, bind_ok_iff] at accepted
  rcases accepted with ⟨_, _, accepted⟩
  cases found : state.command ⟨input.workspaceId, .run, input.runId, input.commandId⟩ with
  | some prior =>
      simp only [found, bind_ok_iff, ensure_ok_iff, pure_ok_iff, Prod.mk.injEq] at accepted
      rcases accepted with ⟨_, same, rfl, rfl⟩
      exact .inl ⟨prior, found, same, rfl, rfl⟩
  | none =>
      cases result with
      | none =>
          simp only [found, pure_ok_iff, Prod.mk.injEq] at accepted
          rcases accepted with ⟨rfl, rfl⟩
          exact .inr (.inr ⟨rfl, found, rfl, rfl⟩)
      | some value =>
          simp only [found, bind_ok_iff, pure_ok_iff, Prod.mk.injEq] at accepted
          rcases accepted with ⟨_, _, _, _, _, _, last, inserted, rfl, rfl⟩
          exact .inr (.inl ⟨value, rfl, rfl, found, command_extends inserted⟩)

end Writes

section Effects

variable [Engine] {around other : Surroundings} {state after : Authority} {request : StoreRequest}

def commandKey : StoreRequest → Except StoreError CommandKey
  | .append request => (requestWorkspace request).map (commandScope request)
  | .publish request =>
      (requestWorkspace request.toAtomicAppendRequest).map
        (commandScope request.toAtomicAppendRequest)
  | .command input _ => .ok ⟨input.workspaceId, .run, input.runId, input.commandId⟩

/-- What a request is recorded by: its own digest, or the one that its caller gives. -/
def digestOf : StoreRequest → Except StoreError JsString
  | .append request => requestDigest (js "horseness.store-append.v1") request.toJson
  | .publish request => requestDigest (js "horseness.store-artifact-append.v1") request.toJson
  | .command input _ => .ok input.requestDigest

def rowsOf : StoreRequest → List EventRow
  | .append request => requestRows request
  | .publish request => requestRows request.toAtomicAppendRequest
  | .command _ _ => []

def repeatedAnswer : StoreRequest → JsValue → JsValue
  | .append _, recorded | .publish _, recorded => deduplicated recorded
  | .command _ _, recorded => recorded

/-- What an accepted request has done. -/
inductive Effect (state : Authority) (request : StoreRequest) (key : CommandKey) (digest : JsString) :
    Option JsValue → Authority → Prop
  | repeated (prior : CommandRow) (found : state.command key = some prior)
      (same : prior.requestDigest = digest) :
      Effect state request key digest (some (repeatedAnswer request prior.result)) state
  | committed (value : JsValue) (after : Authority)
      (commits : Commits state (rowsOf request) ⟨key, digest, normalize value⟩ after) :
      Effect state request key digest (some value) after
  | nothing (fresh : state.command key = none) : Effect state request key digest none state

omit [Engine] in
theorem admissible_named {request : PublishAndAppendRequest} {workspaceId : JsString}
    (admissible : publicationAdmissible request = .ok workspaceId) :
    requestWorkspace request.toAtomicAppendRequest = .ok workspaceId := by
  simp only [publicationAdmissible, bind_ok_iff, pure_ok_iff] at admissible
  rcases admissible with ⟨_, _, _, _, _, _, _, _, _, _, _, _, found, named, _, _, _, _, rfl⟩
  exact named

theorem perform_effect {answer : Option JsValue}
    (performed : perform around state request = .ok (answer, after)) :
    ∃ key digest, commandKey request = .ok key ∧ digestOf request = .ok digest ∧
      Effect state request key digest answer after := by
  cases request with
  | append request =>
      simp only [perform, bind_ok_iff, pure_ok_iff, Prod.mk.injEq] at performed
      rcases performed with ⟨⟨value, next⟩, accepted, rfl, rfl⟩
      rcases append_accepted accepted with ⟨workspaceId, digest, named, digested, effect⟩
      refine ⟨commandScope request workspaceId, digest, by simp [commandKey, named, Except.map],
        digested, ?_⟩
      rcases effect with ⟨⟨prior, found, same, rfl⟩, rfl⟩ | commits
      · exact .repeated prior found same
      · exact .committed value next commits
  | publish request =>
      simp only [perform, bind_ok_iff, pure_ok_iff, Prod.mk.injEq] at performed
      rcases performed with ⟨⟨value, next⟩, accepted, rfl, rfl⟩
      rcases publish_accepted accepted with ⟨workspaceId, digest, admissible, digested, effect⟩
      refine ⟨commandScope request.toAtomicAppendRequest workspaceId, digest,
        by simp [commandKey, admissible_named admissible, Except.map], digested, ?_⟩
      rcases effect with ⟨⟨prior, found, same, rfl⟩, rfl⟩ | commits
      · exact .repeated prior found same
      · exact .committed value next commits
  | command input result =>
      refine ⟨_, input.requestDigest, rfl, rfl, ?_⟩
      rcases execution_accepted performed with
        ⟨prior, found, same, rfl, rfl⟩ | ⟨value, _, rfl, commits⟩ | ⟨_, fresh, rfl, rfl⟩
      · exact .repeated prior found same
      · exact .committed value after commits
      · exact .nothing fresh

theorem serve_ok_iff {answer : Option JsValue} : serve around request state = (.ok answer, after) ↔
    perform around state request = .ok (answer, after) := by
  unfold serve
  split
  · next found later performed => rw [performed]; simp
  · next failure performed => rw [performed]; simp

theorem serve_refused {failure : StoreError} (refused : (serve around request state).1 = .error failure) :
    (serve around request state).2 = state := by
  unfold serve at refused ⊢
  cases performed : perform around state request with
  | ok answered => rw [performed] at refused; cases refused
  | error found => rfl

omit [Engine] in
theorem find_appended {key : CommandKey} {recorded : List CommandRow} {prior : CommandRow}
    (commands : after.commands = state.commands ++ recorded)
    (found : state.command key = some prior) : after.command key = some prior := by
  simp only [Authority.command, commands, List.find?_append] at found ⊢
  rw [found, Option.some_or]

theorem commits_found {added : List EventRow} {row : CommandRow}
    (commits : Commits state added row after) : after.command row.key = some row := by
  have fresh := commits.fresh
  simp only [Authority.command, commits.extended.commands, List.find?_append] at fresh ⊢
  simp [fresh]

theorem rows_kept {added : List EventRow} {recorded : List CommandRow} {key : StreamKey}
    (extended : Extends state added recorded after)
    (headed : (state.streams.get key).isSome = true) : (after.streams.get key).isSome = true := by
  by_cases touched : ∃ row ∈ added, row.key = key
  · rcases touched with ⟨row, member, rfl⟩
    exact extends_row extended member
  · rw [extended.others key fun row member same => touched ⟨row, member, same⟩]
    exact headed

end Effects

section Repeats

variable [Engine] {around other : Surroundings} {earlier state after : Authority} {prior : CommandRow}

/-- What a repetition needs of its surroundings: an execution command needs the session, and
a publication its artifact files. -/
def Available (around : Surroundings) : StoreRequest → Prop
  | .append _ => True
  | .publish request => ∀ publication ∈ request.artifacts,
      around.publish publication.record = .ok ()
  | .command input _ => around.session = some input.workspaceId

def Headed (state : Authority) (request : StoreRequest) : Prop :=
  ∀ row ∈ rowsOf request, (state.streams.get row.key).isSome = true

theorem append_repeats {request : AtomicAppendRequest} {answer : JsValue} {key : CommandKey}
    {digest : JsString} (accepted : appendAtomic around request earlier = .ok (answer, after))
    (keyed : commandKey (.append request) = .ok key) (digested : digestOf (.append request) = .ok digest)
    (found : state.command key = some prior) (same : prior.requestDigest = digest)
    (headed : Headed state (.append request)) :
    appendAtomic other request state = .ok (deduplicated prior.result, state) := by
  simp only [appendAtomic, bind_ok_iff, ensure_ok_iff] at accepted ⊢
  rcases accepted with
    ⟨_, streams, _, run, _, alone, _, kinds, workspaceId, named, digest', digested', _⟩
  simp only [commandKey, named, Except.map, Except.ok.injEq] at keyed
  obtain rfl : digest = digest' := Except.ok.inj (digested.symm.trans digested')
  subst keyed
  refine ⟨(), streams, (), run, (), alone, (), kinds, workspaceId, named, digest, digested', ?_⟩
  simp only [found, bind_ok_iff, ensure_ok_iff, pure_ok_iff]
  refine ⟨(), same, (), ?_, trivial⟩
  intro genesis
  cases shape : request.runGenesis with
  | none => simp [shape] at genesis
  | some part =>
      -- the run that a genesis creates is the scope of its command
      have noRun : request.run = none := by simpa using (alone genesis).2
      have noWorkspace : request.workspace = none := by simpa using (alone genesis).1
      have workspace : workspaceId = part.observationCursor.workspaceId := by
        simp only [requestWorkspace, noRun, noWorkspace, shape, bind_ok_iff, required_ok_iff,
          pure_ok_iff] at named
        rcases named with ⟨first, head, _, _, rfl⟩
        simpa using head.symm
      have there := headed ⟨.run part.observationCursor.workspaceId part.observationCursor.runId,
        part.event⟩ (by simp [rowsOf, requestRows, shape, genesisRows])
      simpa [commandScope, noRun, shape, workspace] using there

theorem publish_repeats {request : PublishAndAppendRequest} {answer : JsValue} {key : CommandKey}
    {digest : JsString}
    (accepted : publishAndAppendAtomic around request earlier = .ok (answer, after))
    (keyed : commandKey (.publish request) = .ok key)
    (digested : digestOf (.publish request) = .ok digest) (found : state.command key = some prior)
    (same : prior.requestDigest = digest) (available : Available other (.publish request)) :
    publishAndAppendAtomic other request state = .ok (deduplicated prior.result, state) := by
  simp only [publishAndAppendAtomic, bind_ok_iff] at accepted ⊢
  rcases accepted with ⟨_, _, workspaceId, admissible, digest', digested', _⟩
  simp only [commandKey, admissible_named admissible, Except.map, Except.ok.injEq] at keyed
  obtain rfl : digest = digest' := Except.ok.inj (digested.symm.trans digested')
  subst keyed
  have published : request.artifacts.forM (fun publication => other.publish publication.record) =
      .ok () := by
    rw [List.forM_eq_forM, forM_ok_iff]
    exact available
  refine ⟨(), published, workspaceId, admissible, digest, digested', ?_⟩
  simp only [found, bind_ok_iff, ensure_ok_iff, pure_ok_iff]
  exact ⟨(), same, trivial⟩

-- A request that was accepted once is answered from the record of its command.
theorem perform_repeats {request : StoreRequest} {answer : Option JsValue} {key : CommandKey}
    {digest : JsString} (performed : perform around earlier request = .ok (answer, after))
    (keyed : commandKey request = .ok key) (digested : digestOf request = .ok digest)
    (found : state.command key = some prior) (same : prior.requestDigest = digest)
    (headed : Headed state request) (available : Available other request) :
    serve other request state = (.ok (some (repeatedAnswer request prior.result)), state) := by
  rw [serve_ok_iff]
  cases request with
  | append request =>
      simp only [perform, bind_ok_iff, pure_ok_iff] at performed ⊢
      rcases performed with ⟨⟨value, next⟩, accepted, _⟩
      exact ⟨_, append_repeats accepted keyed digested found same headed, rfl⟩
  | publish request =>
      simp only [perform, bind_ok_iff, pure_ok_iff] at performed ⊢
      rcases performed with ⟨⟨value, next⟩, accepted, _⟩
      exact ⟨_, publish_repeats accepted keyed digested found same available, rfl⟩
  | command input result =>
      simp only [commandKey, digestOf, Except.ok.injEq] at keyed digested
      subst keyed digested
      simp only [perform, executionCommandResult, bind_ok_iff, ensure_ok_iff]
      refine ⟨(), available, ?_⟩
      simp only [found, bind_ok_iff, ensure_ok_iff, pure_ok_iff]
      exact ⟨(), same, rfl⟩

end Repeats

section Runs

variable [Engine]

/-- A request as a client saw it, and whether it wrote the record of its command. -/
structure Served where
  request : StoreRequest
  answer : Except StoreError (Option JsValue)
  committed : Bool

/-- Some client's request is served next, in whatever surroundings. -/
def LogStep (state : Authority) (labels : List Served) (after : Authority) : Prop :=
  ∃ around request, after = (serve around request state).2 ∧
    labels = [⟨request, (serve around request state).1,
      decide (state.commands.length < after.commands.length)⟩]

/-- What the authority holds of a committed request. -/
structure Held (state : Authority) (served : Served) (key : CommandKey) : Prop where
  keyed : commandKey served.request = .ok key
  record : ∃ digest value, digestOf served.request = .ok digest ∧
    served.answer = .ok (some value) ∧
    state.command key = some ⟨key, digest, normalize value⟩
  rows : ∀ row ∈ rowsOf served.request, row ∈ state.events
  headed : Headed state served.request
  accepted : ∃ around earlier answer after,
    perform around earlier served.request = .ok (answer, after)

def committedKeys (labels : List Served) : List CommandKey :=
  (labels.filter Served.committed).filterMap fun served => (commandKey served.request).toOption

/-- The invariant of a run: every stream authenticates, every committed request is held. -/
structure LogHistory (labels : List Served) (state : Authority) : Prop where
  authentic : ∀ key, Authentic state key
  held : ∀ served ∈ labels, served.committed = true → ∃ key, Held state served key
  once : (committedKeys labels).Nodup

variable {around : Surroundings} {state after : Authority} {request : StoreRequest}
  {added : List EventRow} {recorded : List CommandRow} {served : Served} {key : CommandKey}

theorem held_extends (extended : Extends state added recorded after) (held : Held state served key) :
    Held after served key := by
  rcases held.record with ⟨digest, value, digested, answered, found⟩
  exact
    { keyed := held.keyed
      record := ⟨digest, value, digested, answered, find_appended extended.commands found⟩
      rows := fun row member => extended.events ▸ List.mem_append_left _ (held.rows row member)
      headed := fun row member => rows_kept extended (held.headed row member)
      accepted := held.accepted }

-- A request that commits is held from then on, under a key that no earlier one had.
theorem commits_held {value : JsValue} {digest : JsString}
    (performed : perform around state request = .ok (some value, after))
    (keyed : commandKey request = .ok key) (digested : digestOf request = .ok digest)
    (commits : Commits state (rowsOf request) ⟨key, digest, normalize value⟩ after) :
    Held after ⟨request, .ok (some value), true⟩ key where
  keyed := keyed
  record := ⟨digest, value, digested, rfl, commits_found commits⟩
  rows _ member := commits.extended.events ▸ List.mem_append_right _ member
  headed _ member := extends_row commits.extended member
  accepted := ⟨around, state, some value, after, performed⟩

theorem history_step {labels emitted : List Served} (history : LogHistory labels state)
    (stepped : LogStep state emitted after) : LogHistory (labels ++ emitted) after := by
  rcases stepped with ⟨around, request, rfl, rfl⟩
  cases performed : perform around state request with
  | error failure =>
      -- nothing is written, and the request is not a committed one
      have same : serve around request state = (.error failure, state) := by
        simp only [serve, performed]
      simp only [same, lt_irrefl, decide_false]
      exact
        { authentic := history.authentic
          held := fun served member committed => by
            rcases List.mem_append.mp member with earlier | last
            · exact history.held served earlier committed
            · rw [List.mem_singleton.mp last] at committed
              cases committed
          once := by simpa [committedKeys, List.filter_append] using history.once }
  | ok answered =>
      rcases answered with ⟨answer, after⟩
      have same : serve around request state = (.ok answer, after) := serve_ok_iff.mpr performed
      rcases perform_effect performed with ⟨key, digest, keyed, digested, effect⟩
      simp only [same]
      cases effect with
      | repeated prior found _ | nothing fresh =>
          simp only [lt_irrefl, decide_false]
          exact
            { authentic := history.authentic
              held := fun served member committed => by
                rcases List.mem_append.mp member with earlier | last
                · exact history.held served earlier committed
                · rw [List.mem_singleton.mp last] at committed
                  cases committed
              once := by simpa [committedKeys, List.filter_append] using history.once }
      | committed value after commits =>
          have longer : state.commands.length < after.commands.length := by
            simp [commits.extended.commands]
          simp only [longer, decide_true]
          exact
            { authentic := fun key => extends_authentic commits.extended (history.authentic key)
              held := fun served member committed => by
                rcases List.mem_append.mp member with earlier | last
                · rcases history.held served earlier committed with ⟨key, held⟩
                  exact ⟨key, held_extends commits.extended held⟩
                · obtain rfl := List.mem_singleton.mp last
                  exact ⟨key, commits_held performed keyed digested commits⟩
              once := by
                have split : committedKeys (labels ++ [⟨request, .ok (some value), true⟩]) =
                    committedKeys labels ++ [key] := by
                  simp [committedKeys, List.filter_append, keyed, Except.toOption]
                rw [split]
                refine List.nodup_append.mpr ⟨history.once, List.nodup_singleton _, ?_⟩
                rintro old member _ last rfl
                obtain rfl := List.mem_singleton.mp last
                -- an earlier request under this key has a record already
                simp only [committedKeys, List.mem_filterMap, List.mem_filter] at member
                rcases member with ⟨served, ⟨listed, committed⟩, named⟩
                rcases history.held served listed committed with ⟨other, held⟩
                rcases held.record with ⟨_, _, _, _, found⟩
                rw [held.keyed] at named
                obtain rfl : other = old := Option.some.inj named
                rw [commits.fresh] at found
                cases found }

theorem fresh_authentic (key : StreamKey) : Authentic Authority.fresh key := ⟨[], rfl⟩

theorem fresh_history : LogHistory [] Authority.fresh where
  authentic key := fresh_authentic key
  held served member := by cases member
  once := List.nodup_nil

theorem log_history {labels : List Served} (run : Runs LogStep Authority.fresh labels state) :
    LogHistory labels state :=
  runs_invariant LogHistory fresh_history (fun _ _ _ _ _ history stepped =>
    history_step history stepped) run

/-- Two requests under one command that are the same. An append is known by its JSON and
the kind of append it is; an execution command is known by the digest that it gives. -/
def SameRequest : StoreRequest → StoreRequest → Prop
  | .append left, .append right => meaning left.toJson = meaning right.toJson
  | .publish left, .publish right => meaning left.toJson = meaning right.toJson
  | .append _, .publish _ | .publish _, .append _ => False
  | left, right => digestOf left = digestOf right

theorem digested_text {domain digest : JsString} {value : JsValue}
    (digested : requestDigest domain value = .ok digest) :
    digest = Engine.sha256Hex (domain ++ 0 :: serialize value) := by
  simp only [requestDigest, bind_ok_iff, map_error_ok_iff, clone_ok_iff, digest_ok_iff] at digested
  rcases digested with ⟨copy, ⟨_, rfl⟩, _, same⟩
  rw [← same, serialize_normalize]

-- The digests of the two kinds of append are taken in different domains.
theorem domains_apart (ideal : Function.Injective Engine.sha256Hex) {digest : JsString}
    {left right : JsValue} (first : requestDigest (js "horseness.store-append.v1") left = .ok digest)
    (second : requestDigest (js "horseness.store-artifact-append.v1") right = .ok digest) : False := by
  have texts := ideal ((digested_text first).symm.trans (digested_text second))
  have heads := congrArg (List.take 20) texts
  rw [List.take_append_of_le_length (by decide), List.take_append_of_le_length (by decide)] at heads
  revert heads
  decide

theorem same_json (ideal : Function.Injective Engine.sha256Hex) {domain digest : JsString}
    {left right : JsValue} (first : requestDigest domain left = .ok digest)
    (second : requestDigest domain right = .ok digest) : meaning left = meaning right := by
  have texts := ideal ((digested_text first).symm.trans (digested_text second))
  exact (serialize_eq_iff left right).mp (List.cons.inj (List.append_cancel_left texts)).2

theorem same_request (ideal : Function.Injective Engine.sha256Hex) {left right : StoreRequest}
    {digest : JsString} (first : digestOf left = .ok digest) (second : digestOf right = .ok digest) :
    SameRequest left right := by
  cases left with
  | append left =>
      cases right with
      | append right => exact same_json ideal first second
      | publish right => exact domains_apart ideal first second
      | command => exact first.trans second.symm
  | publish left =>
      cases right with
      | append right => exact domains_apart ideal second first
      | publish right => exact same_json ideal first second
      | command => exact first.trans second.symm
  | command => exact first.trans second.symm

/-- What the requests of all clients have made of the authority, and what it answers them. -/
structure AppendLogSafe (labels : List Served) (state : Authority) : Prop where
  chained : ∀ key, StreamSafe state key
  kept : ∀ served ∈ labels, served.committed = true →
    ∀ row ∈ rowsOf served.request, row.event ∈ state.rows row.key
  once : (committedKeys labels).Nodup
  repeated : ∀ served ∈ labels, served.committed = true → ∃ value, served.answer = .ok (some value) ∧
    ∀ around, Available around served.request → serve around served.request state =
      (.ok (some (repeatedAnswer served.request (normalize value))), state)
  reused : ∀ served ∈ labels, served.committed = true → ∀ around other answer,
    commandKey other = commandKey served.request → (serve around other state).1 = .ok answer →
      SameRequest other served.request
  whole : ∀ around request,
    (∃ failure, serve around request state = (.error failure, state)) ∨
      ∃ answer after, serve around request state = (.ok answer, after) ∧
        (after = state ∨ after.events = state.events ++ rowsOf request)

end Runs

section Recorded

def openSession : Surroundings :=
  { session := some (js "w")
    authorityState := fun _ _ => .error (.integrity (js "workspace authority state is missing"))
    consumptions := fun _ _ => 0
    publish := fun _ => .ok ()
    verifyRecord := fun _ => .ok ()
    readReferenced := fun _ => .ok ()
    retained := fun _ => false }

def sampleCommand : ExecutionCommand :=
  { workspaceId := js "w"
    runId := js "r"
    commandId := js "c"
    requestDigest := js "d"
    observationCursor := none
    authorityStateExpectations := none }

def otherCommand : ExecutionCommand := { sampleCommand with observationCursor := some sampleCursor }

def recordedCommand : StoreRequest := .command sampleCommand (some .null)

attribute [local instance] deltaEngine

theorem recorded_command_commits : Runs LogStep Authority.fresh
    [⟨recordedCommand, .ok (some .null), true⟩]
    (serve openSession recordedCommand Authority.fresh).2 :=
  Runs.step .start ⟨openSession, recordedCommand, rfl, rfl⟩

end Recorded

end Horseness.AppendLog
