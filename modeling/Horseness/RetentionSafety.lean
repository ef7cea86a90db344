import Horseness.AppendLog
import Horseness.Retention

/-!
What the object files of a vault promise whatever operations and resumptions come in whatever
order. What an event refers to, or a pin, keeps its catalog row and its file. A catalog row keeps its
file unless it was inserted while its file was waiting to be removed.
-/

namespace Horseness.RetentionSafety

open FallibleRuns Records ScriptText JsonValues ScriptEngine AuthorityLog AppendLog Retention

section Files

theorem object_kept {files : ObjectFiles} {digest : JsString} {data : StoredBytes}
    (there : files.get digest = some data) (record : ArtifactRecord) :
    (writeObject files record).get digest = some data := by
  unfold writeObject
  split
  · exact there
  · rename_i absent
    have different : record.digest ≠ digest := by
      rintro rfl
      simp [there] at absent
    rw [Record.get_set_other _ _ different, there]

theorem published_kept {files : ObjectFiles} {digest : JsString} {data : StoredBytes}
    (there : files.get digest = some data) (record : ArtifactRecord) :
    (publish files record).2.get digest = some data := by
  unfold publish
  split
  · exact object_kept there record
  · exact there

theorem all_published_kept {files : ObjectFiles} {digest : JsString} {data : StoredBytes}
    (there : files.get digest = some data) (records : List ArtifactRecord) :
    (publishAll files records).2.get digest = some data := by
  induction records generalizing files with
  | nil => exact there
  | cons record rest ih =>
      have kept := published_kept there record
      rw [publishAll]
      split
      · rename_i written published
        rw [published] at kept
        exact ih kept
      · rename_i failure written published
        rw [published] at kept
        exact kept

theorem read_verified_ok {files : ObjectFiles} {digest : JsString} {data : StoredBytes}
    (read : readVerifiedBytes files digest = .ok data) :
    files.get digest = some data ∧ data.digest = digest := by
  simp only [readVerifiedBytes, bind_ok_iff, ensure_ok_iff, required_ok_iff, pure_ok_iff] at read
  rcases read with ⟨_, -, _, found, _, same, rfl⟩
  exact ⟨found, same⟩

def Filed (files : ObjectFiles) (digest : JsString) (row : ArtifactRecord) : Prop :=
  files.get digest = some ⟨digest, row.byteLength⟩

theorem verified_filed {files : ObjectFiles} {record : ArtifactRecord}
    (verified : verifyRecord files record = .ok ()) : Filed files record.digest record := by
  simp only [verifyRecord, bind_ok_iff, ensure_ok_iff] at verified
  rcases verified with ⟨_, -, _, -, data, read, sized⟩
  rcases read_verified_ok read with ⟨found, same⟩
  rw [Filed, found, ← same, ← sized]

theorem referenced_filed {vault : Vault} {digest : JsString}
    (read : readReferenced vault digest = .ok ()) :
    ∃ row, vault.authority.artifacts.get digest = some row ∧ Filed vault.files digest row := by
  simp only [readReferenced, bind_ok_iff, ensure_ok_iff, required_ok_iff] at read
  rcases read with ⟨row, found, data, verified, sized⟩
  rcases read_verified_ok verified with ⟨there, same⟩
  refine ⟨row, found, ?_⟩
  rw [Filed, there, ← sized, ← same]

end Files

section Growth

variable {around : Surroundings} {records : List ArtifactRecord} {state middle after : Authority}

def Verified (around : Surroundings) (state : Authority) (digest : JsString) : Prop :=
  ∃ row, state.artifacts.get digest = some row ∧ row.digest = digest ∧
    around.verifyRecord row = .ok ()

/-- The catalog only gains rows that were verified, and nothing under retention gains a reference
or a pin. -/
structure Grows (around : Surroundings) (records : List ArtifactRecord) (state after : Authority) :
    Prop where
  kept : ∀ digest row, state.artifacts.get digest = some row → after.artifacts.get digest = some row
  rows : ∀ digest row, after.artifacts.get digest = some row →
    state.artifacts.get digest = some row ∨
      (row ∈ records ∧ row.digest = digest ∧ around.verifyRecord row = .ok ())
  references : ∀ row ∈ after.references, row ∈ state.references ∨
    (around.retained row.digest = false ∧ Verified around after row.digest)
  pins : ∀ row ∈ after.pins, row ∈ state.pins ∨
    (around.retained row.digest = false ∧ Verified around after row.digest)

theorem grows_other (artifacts : after.artifacts = state.artifacts)
    (references : after.references = state.references) (pins : after.pins = state.pins) :
    Grows around records state after where
  kept digest row found := by rw [artifacts, found]
  rows digest row found := .inl (by rw [← artifacts, found])
  references row member := .inl (references ▸ member)
  pins row member := .inl (pins ▸ member)

theorem Grows.verified (grows : Grows around records state after) {digest : JsString}
    (verified : Verified around state digest) : Verified around after digest := by
  rcases verified with ⟨row, found, own, passed⟩
  exact ⟨row, grows.kept digest row found, own, passed⟩

theorem Grows.trans (first : Grows around records state middle)
    (second : Grows around records middle after) : Grows around records state after where
  kept digest row found := second.kept digest row (first.kept digest row found)
  rows digest row found := by
    rcases second.rows digest row found with earlier | new
    · exact first.rows digest row earlier
    · exact .inr new
  references row member := by
    rcases second.references row member with earlier | new
    · rcases first.references row earlier with before | ⟨free, verified⟩
      · exact .inl before
      · exact .inr ⟨free, second.verified verified⟩
    · exact .inr new
  pins row member := by
    rcases second.pins row member with earlier | new
    · rcases first.pins row earlier with before | ⟨free, verified⟩
      · exact .inl before
      · exact .inr ⟨free, second.verified verified⟩
    · exact .inr new

theorem fold_grows {Item : Type} {step : Authority → Item → Except StoreError Authority}
    {items : List Item}
    (each : ∀ item ∈ items, ∀ before next, Grows around records state before →
      step before item = .ok next → Grows around records before next)
    (folded : items.foldlM step state = .ok after) : Grows around records state after := by
  suffices whole : ∀ before, Grows around records state before →
      items.foldlM step before = .ok after → Grows around records before after from
    whole state (grows_other rfl rfl rfl) folded
  clear folded
  induction items with
  | nil =>
      intro before grown folded
      rw [List.foldlM_nil, pure_ok_iff] at folded
      exact folded ▸ grows_other rfl rfl rfl
  | cons item rest ih =>
      intro before grown folded
      rcases (foldlM_cons_ok_iff _ _ _ _ _).mp folded with ⟨next, first, later⟩
      have one := each item List.mem_cons_self before next grown first
      exact one.trans (ih (fun other member => each other (List.mem_cons_of_mem _ member)) next
        (grown.trans one) later)

theorem register_grows {record : ArtifactRecord} (member : record ∈ records)
    (registered : register around state record = .ok after) : Grows around records state after := by
  simp only [register, check_ok_iff] at registered
  rcases registered with ⟨verified, registered⟩
  split at registered
  · simp only [check_ok_iff, pure_ok_iff] at registered
    rcases registered with ⟨-, rfl⟩
    exact grows_other rfl rfl rfl
  · rename_i absent
    rw [pure_ok_iff] at registered
    subst registered
    refine ⟨?_, ?_, fun _ member => .inl member, fun _ member => .inl member⟩
    · intro digest row found
      have different : record.digest ≠ digest := by
        rintro rfl
        rw [absent] at found
        cases found
      rw [Record.get_set_other _ _ different, found]
    · intro digest row found
      by_cases same : record.digest = digest
      · subst same
        rw [Record.get_set_same] at found
        cases found
        exact .inr ⟨member, rfl, verified⟩
      · rw [Record.get_set_other _ _ same] at found
        exact .inl found

theorem register_verified {record : ArtifactRecord}
    (registered : register around state record = .ok after) :
    Verified around after record.digest := by
  simp only [register, check_ok_iff] at registered
  rcases registered with ⟨verified, registered⟩
  split at registered
  · rename_i existing found
    simp only [check_ok_iff, ensure_ok_iff, pure_ok_iff] at registered
    rcases registered with ⟨rfl, rfl⟩
    exact ⟨existing, found, rfl, verified⟩
  · rw [pure_ok_iff] at registered
    subst registered
    exact ⟨record, by simp, rfl, verified⟩

theorem all_registered_verified (registered : records.foldlM (register around) state = .ok after) :
    ∀ record ∈ records, Verified around after record.digest := by
  induction records generalizing state with
  | nil => simp
  | cons record rest ih =>
      rcases (foldlM_cons_ok_iff _ _ _ _ _).mp registered with ⟨middle, first, later⟩
      have grown : Grows around rest middle after := by
        apply fold_grows _ later
        intro _ member _ _ _ wrote
        exact register_grows member wrote
      exact List.forall_mem_cons.mpr ⟨grown.verified (register_verified first), ih later⟩

variable [Engine]

theorem append_other {append : AppendRequest} {head : AppendHead}
    (written : writeAppend state append = .ok (head, after)) :
    after.artifacts = state.artifacts ∧ after.references = state.references ∧
      after.pins = state.pins := by
  rcases opened_streams state append.key with ⟨streams, opened, -⟩
  simp only [writeAppend, bind_ok_iff, required_ok_iff, pure_ok_iff, Prod.mk.injEq, opened] at written
  rcases written with ⟨_, _, _, _, inserted, filled, last, ends, rows, authenticated, _, _, -, rfl⟩
  have shape := inserted_rows filled
  subst shape
  exact ⟨rfl, rfl, rfl⟩

/-- A way of writing one part of a request that leaves the artifacts alone. -/
def LeavesArtifacts {Part : Type}
    (write : Authority → Part → Except StoreError (AppendHead × Authority)) : Prop :=
  ∀ state part head after, write state part = .ok (head, after) →
    after.artifacts = state.artifacts ∧ after.references = state.references ∧ after.pins = state.pins

omit [Engine] in
theorem part_grows {Part : Type} {write : Authority → Part → Except StoreError (AppendHead × Authority)}
    {part : Option Part} {head : Option AppendHead} (leaves : LeavesArtifacts write)
    (written : writePart write state part = .ok (head, after)) : Grows around records state after := by
  cases part with
  | none =>
      simp only [writePart, Except.ok.injEq, Prod.mk.injEq] at written
      rcases written with ⟨-, rfl⟩
      exact grows_other rfl rfl rfl
  | some part =>
      simp only [writePart, bind_ok_iff, pure_ok_iff, Prod.mk.injEq] at written
      rcases written with ⟨⟨found, next⟩, wrote, -, rfl⟩
      rcases leaves state part found next wrote with ⟨artifacts, references, pins⟩
      exact grows_other artifacts references pins

theorem appends_leave : LeavesArtifacts writeAppend := fun _ _ _ _ => append_other

theorem genesis_leaves {base : Surroundings} : LeavesArtifacts (writeRunGenesis base) := by
  intro state genesis head after written
  simp only [writeRunGenesis, bind_ok_iff] at written
  rcases written with ⟨_, _, _, _, _, _, _, _, _, _, _, _, written⟩
  exact append_other written

theorem command_grows {key : CommandKey} {digest : JsString} {result : JsValue}
    (inserted : insertCommand state key digest result = .ok after) :
    Grows around records state after := by
  simp only [insertCommand, bind_ok_iff, pure_ok_iff] at inserted
  rcases inserted with ⟨_, _, rfl⟩
  exact grows_other rfl rfl rfl

omit [Engine] in
theorem reference_grows {workspaceId digest : JsString} {reference : ArtifactReference}
    (verified : Verified around state digest)
    (written : AuthorityLog.addReference around workspaceId digest state reference = .ok after) :
    Grows around records state after := by
  simp only [AuthorityLog.addReference, check_ok_iff, ensure_ok_iff, pure_ok_iff] at written
  rcases written with ⟨-, free, rfl⟩
  refine ⟨fun _ _ => id, fun _ _ => .inl, ?_, fun _ => .inl⟩
  intro row member
  simp only at member
  split at member
  · exact .inl member
  · rcases List.mem_append.mp member with earlier | new
    · exact .inl earlier
    · obtain rfl := List.mem_singleton.mp new
      exact .inr ⟨free, verified⟩

omit [Engine] in
theorem pin_grows {digest pinId : JsString} (verified : Verified around state digest)
    (written : addPin around digest state pinId = .ok after) : Grows around records state after := by
  simp only [addPin, check_ok_iff, ensure_ok_iff, pure_ok_iff] at written
  rcases written with ⟨free, rfl⟩
  refine ⟨fun _ _ => id, fun _ _ => .inl, fun _ => .inl, ?_⟩
  intro row member
  simp only at member
  split at member
  · exact .inl member
  · rcases List.mem_append.mp member with earlier | new
    · exact .inl earlier
    · obtain rfl := List.mem_singleton.mp new
      exact .inr ⟨free, verified⟩

omit [Engine] in
theorem owners_grow {workspaceId : JsString} {publication : ArtifactPublication}
    (verified : Verified around state publication.record.digest)
    (written : addOwners around workspaceId state publication = .ok after) :
    Grows around records state after := by
  simp only [addOwners, bind_ok_iff] at written
  rcases written with ⟨middle, referenced, pinned⟩
  have first : Grows around records state middle := by
    apply fold_grows _ referenced
    intro reference _ before next grown wrote
    exact reference_grows (grown.verified verified) wrote
  apply first.trans
  apply fold_grows _ pinned
  intro pinId _ before next grown wrote
  exact pin_grows (grown.verified (first.verified verified)) wrote

omit [Engine] in
theorem owners_free {workspaceId : JsString} {publication : ArtifactPublication}
    (written : addOwners around workspaceId state publication = .ok after)
    (owned : publication.references ≠ [] ∨ publication.pins ≠ []) :
    around.retained publication.record.digest = false := by
  simp only [addOwners, bind_ok_iff] at written
  rcases written with ⟨middle, referenced, pinned⟩
  rcases owned with references | pins
  · cases listed : publication.references with
    | nil => exact absurd listed references
    | cons reference rest =>
        rw [listed, foldlM_cons_ok_iff] at referenced
        rcases referenced with ⟨_, first, -⟩
        simp only [AuthorityLog.addReference, check_ok_iff, ensure_ok_iff] at first
        exact first.2.1
  · cases listed : publication.pins with
    | nil => exact absurd listed pins
    | cons pinId rest =>
        rw [listed, foldlM_cons_ok_iff] at pinned
        rcases pinned with ⟨_, first, -⟩
        simp only [addPin, check_ok_iff, ensure_ok_iff] at first
        exact first.1

omit [Engine] in
theorem projection_grows {update : AtomicProjectionUpdate}
    (written : updateProjection state update = .ok after) : Grows around records state after := by
  simp only [updateProjection, bind_ok_iff, pure_ok_iff] at written
  rcases written with ⟨_, _, _, _, rfl⟩
  exact grows_other rfl rfl rfl

theorem snapshot_grows {snapshot : SnapshotRecord}
    (written : insertSnapshot state snapshot = .ok after) : Grows around records state after := by
  simp only [insertSnapshot, bind_ok_iff, pure_ok_iff] at written
  rcases written with ⟨_, _, _, _, _, _, rfl⟩
  exact grows_other rfl rfl rfl

def recordsOf (request : PublishAndAppendRequest) : List ArtifactRecord :=
  request.artifacts.map ArtifactPublication.record

def Recorded (state : Authority) (request : PublishAndAppendRequest) : Prop :=
  ∃ workspaceId, requestWorkspace request.toAtomicAppendRequest = .ok workspaceId ∧
    (state.command (commandScope request.toAtomicAppendRequest workspaceId)).isSome = true

/-- A request that is accepted was recorded before, or it registers its artifacts, of which those
under retention have neither a reference nor a pin. -/
theorem publish_grows {request : PublishAndAppendRequest} {answer : JsValue}
    (accepted : publishAndAppendAtomic around request state = .ok (answer, after)) :
    (Recorded state request ∧ after = state) ∨
      (¬ Recorded state request ∧ (∀ publication ∈ request.artifacts,
          publication.references ≠ [] ∨ publication.pins ≠ [] →
            around.retained publication.record.digest = false) ∧
        Grows around (recordsOf request) state after) := by
  simp only [publishAndAppendAtomic, bind_ok_iff] at accepted
  rcases accepted with ⟨_, _, workspaceId, admissible, digest, digested, accepted⟩
  have named := admissible_named admissible
  cases found : state.command (commandScope request.toAtomicAppendRequest workspaceId) with
  | some prior =>
      simp only [found, bind_ok_iff, ensure_ok_iff, pure_ok_iff, Prod.mk.injEq] at accepted
      rcases accepted with ⟨_, same, rfl, rfl⟩
      exact .inl ⟨⟨workspaceId, named, by rw [found]; rfl⟩, rfl⟩
  | none =>
      simp only [found, bind_ok_iff, pure_ok_iff, Prod.mk.injEq] at accepted
      rcases accepted with ⟨_, _, _, _, _, _, registered, catalogued, ⟨_, first⟩, workspace,
        ⟨_, second⟩, run, owned, referenced, _, _, projected, moved, pictured, pictures, last,
        inserted, rfl, rfl⟩
      have before : Grows around (recordsOf request) state registered := by
        apply fold_grows _ catalogued
        intro record member _ _ _ wrote
        exact register_grows member wrote
      have verified : ∀ publication ∈ request.artifacts,
          Verified around registered publication.record.digest :=
        fun publication member => all_registered_verified catalogued _ (List.mem_map_of_mem member)
      have written : Grows around (recordsOf request) registered second :=
        (part_grows appends_leave workspace).trans (part_grows appends_leave run)
      have owners : Grows around (recordsOf request) second owned := by
        apply fold_grows _ referenced
        intro publication member middle next grown wrote
        exact owners_grow (grown.verified (written.verified (verified publication member))) wrote
      have moves : Grows around (recordsOf request) owned projected := by
        apply fold_grows _ moved
        intro _ _ _ _ _ wrote
        exact projection_grows wrote
      have shows : Grows around (recordsOf request) projected pictured := by
        apply fold_grows _ pictures
        intro _ _ _ _ _ wrote
        exact snapshot_grows wrote
      refine .inr ⟨?_, ?_, before.trans (written.trans (owners.trans (moves.trans (shows.trans
        (command_grows inserted)))))⟩
      · rintro ⟨other, same, present⟩
        cases named.symm.trans same
        simp [found] at present
      intro publication member held
      rcases foldlM_member referenced publication member with ⟨middle, next, wrote⟩
      exact owners_free wrote held

theorem append_grows {base : Surroundings} {request : AtomicAppendRequest} {answer : JsValue}
    (accepted : appendAtomic base request state = .ok (answer, after)) :
    Grows around records state after := by
  simp only [appendAtomic, bind_ok_iff] at accepted
  rcases accepted with ⟨_, _, _, _, _, _, _, _, workspaceId, named, digest, digested, accepted⟩
  cases found : state.command (commandScope request workspaceId) with
  | some prior =>
      simp only [found, bind_ok_iff, pure_ok_iff, Prod.mk.injEq] at accepted
      rcases accepted with ⟨_, _, _, _, -, rfl⟩
      exact grows_other rfl rfl rfl
  | none =>
      simp only [found, bind_ok_iff, pure_ok_iff, Prod.mk.injEq] at accepted
      rcases accepted with ⟨_, _, ⟨_, first⟩, workspace, ⟨_, second⟩, run, ⟨_, third⟩, genesis, last,
        inserted, rfl, rfl⟩
      have one : Grows around records state first := part_grows appends_leave workspace
      have two : Grows around records first second := part_grows appends_leave run
      have three : Grows around records second third := part_grows genesis_leaves genesis
      exact one.trans (two.trans (three.trans (command_grows inserted)))

theorem execution_grows {base : Surroundings} {input : ExecutionCommand}
    {result answer : Option JsValue}
    (accepted : executionCommandResult base input result state = .ok (answer, after)) :
    Grows around records state after := by
  simp only [executionCommandResult, check_ok_iff] at accepted
  rcases accepted with ⟨-, accepted⟩
  split at accepted
  · simp only [check_ok_iff, pure_ok_iff, Prod.mk.injEq] at accepted
    rcases accepted with ⟨-, -, rfl⟩
    exact grows_other rfl rfl rfl
  · rw [pure_ok_iff, Prod.mk.injEq] at accepted
    rcases accepted with ⟨-, rfl⟩
    exact grows_other rfl rfl rfl
  · simp only [bind_ok_iff, pure_ok_iff, Prod.mk.injEq] at accepted
    rcases accepted with ⟨_, _, _, _, _, _, last, inserted, -, rfl⟩
    exact command_grows inserted

end Growth

section Vaults

variable {digests : List JsString} {vault after : Vault}

/-- What operations other than a collection do to a vault: files and rows stay, new rows are of
these digests and have their files, and nothing under retention gains a reference or a pin. -/
structure VaultGrows (digests : List JsString) (vault after : Vault) : Prop where
  intents : after.intents = vault.intents
  files : ∀ digest data, vault.files.get digest = some data → after.files.get digest = some data
  kept : ∀ digest row, vault.authority.artifacts.get digest = some row →
    after.authority.artifacts.get digest = some row
  rows : ∀ digest row, after.authority.artifacts.get digest = some row →
    vault.authority.artifacts.get digest = some row ∨
      (digest ∈ digests ∧ Filed after.files digest row)
  referenced : ∀ digest, after.referenced digest → vault.referenced digest ∨
    (vault.retained digest = false ∧
      ∃ row, after.authority.artifacts.get digest = some row ∧ Filed after.files digest row)

theorem vault_grows_refl : VaultGrows digests vault vault :=
  ⟨rfl, fun _ _ => id, fun _ _ => id, fun _ _ => .inl, fun _ => .inl⟩

theorem files_grow {files : ObjectFiles}
    (kept : ∀ digest data, vault.files.get digest = some data → files.get digest = some data) :
    VaultGrows digests vault { vault with files := files } :=
  ⟨rfl, kept, fun _ _ => id, fun _ _ => .inl, fun _ => .inl⟩

theorem tables_grow {base : Surroundings} {files : ObjectFiles} {records : List ArtifactRecord}
    {state : Authority}
    (kept : ∀ digest data, vault.files.get digest = some data → files.get digest = some data)
    (grows : Grows (Vault.around { vault with files := files } base) records vault.authority state) :
    VaultGrows (records.map ArtifactRecord.digest) vault
      { vault with files := files, authority := state } where
  intents := rfl
  files := kept
  kept := grows.kept
  rows digest row found := by
    rcases grows.rows digest row found with earlier | ⟨member, rfl, verified⟩
    · exact .inl earlier
    · exact .inr ⟨List.mem_map_of_mem member, verified_filed verified⟩
  referenced digest held := by
    have fresh (verified : Verified (Vault.around { vault with files := files } base) state digest) :
        ∃ row, state.artifacts.get digest = some row ∧ Filed files digest row := by
      rcases verified with ⟨row, found, rfl, passed⟩
      exact ⟨row, found, verified_filed passed⟩
    rcases held with ⟨row, member, rfl⟩ | ⟨row, member, rfl⟩
    · rcases grows.references row member with earlier | ⟨free, verified⟩
      · exact .inl (.inl ⟨row, earlier, rfl⟩)
      · exact .inr ⟨free, fresh verified⟩
    · rcases grows.pins row member with earlier | ⟨free, verified⟩
      · exact .inl (.inr ⟨row, earlier, rfl⟩)
      · exact .inr ⟨free, fresh verified⟩

theorem register_vault_grows {base : Surroundings} {record : ArtifactRecord} :
    VaultGrows [record.digest] vault (publishAndRegister vault base record).2 := by
  have kept (digest : JsString) (data : StoredBytes) (there : vault.files.get digest = some data) :
      (publish vault.files record).2.get digest = some data := published_kept there record
  unfold publishAndRegister
  dsimp only
  split
  · exact files_grow kept
  · split
    · exact files_grow kept
    · rename_i state registered
      have grows : Grows (Vault.around { vault with files := (publish vault.files record).2 } base)
          [record] vault.authority state := register_grows List.mem_cons_self registered
      exact tables_grow kept grows

theorem add_reference_grows {workspaceId ownerKind ownerId digest : JsString}
    (accepted : Retention.addReference vault workspaceId ownerKind ownerId digest = .ok after) :
    VaultGrows [] vault after := by
  simp only [Retention.addReference, check_ok_iff, ensure_ok_iff] at accepted
  rcases accepted with ⟨read, free, accepted⟩
  split at accepted
  · simp only [check_ok_iff, pure_ok_iff] at accepted
    rcases accepted with ⟨-, rfl⟩
    refine ⟨rfl, fun _ _ => id, fun _ _ => id, fun _ _ => .inl, ?_⟩
    rintro other (⟨row, member, rfl⟩ | pinned)
    · simp only at member
      split at member
      · exact .inl (.inl ⟨row, member, rfl⟩)
      · rcases List.mem_append.mp member with earlier | new
        · exact .inl (.inl ⟨row, earlier, rfl⟩)
        · obtain rfl := List.mem_singleton.mp new
          exact .inr ⟨free, referenced_filed read⟩
    · exact .inl (.inr pinned)
  · rw [pure_ok_iff] at accepted
    exact accepted ▸ vault_grows_refl

theorem pin_vault_grows {pinId digest : JsString} (accepted : Retention.pin vault pinId digest = .ok after) :
    VaultGrows [] vault after := by
  simp only [Retention.pin, check_ok_iff, ensure_ok_iff, pure_ok_iff] at accepted
  rcases accepted with ⟨read, free, rfl⟩
  refine ⟨rfl, fun _ _ => id, fun _ _ => id, fun _ _ => .inl, ?_⟩
  rintro other (referenced | ⟨row, member, rfl⟩)
  · exact .inl (.inl referenced)
  · simp only at member
    split at member
    · exact .inl (.inr ⟨row, member, rfl⟩)
    · rcases List.mem_append.mp member with earlier | new
      · exact .inl (.inr ⟨row, earlier, rfl⟩)
      · obtain rfl := List.mem_singleton.mp new
        exact .inr ⟨free, referenced_filed read⟩

variable [Engine] {base : Surroundings} {request : PublishAndAppendRequest}

/-- The triggers refuse the request: a retained artifact of it has a reference or a pin. -/
def Blocked (vault : Vault) (request : PublishAndAppendRequest) : Prop :=
  ∃ publication ∈ request.artifacts, vault.retained publication.record.digest = true ∧
    (publication.references ≠ [] ∨ publication.pins ≠ [])

theorem publish_append_grows : VaultGrows ((recordsOf request).map ArtifactRecord.digest) vault
    (Retention.publishAppend vault base request).2 := by
  have kept (digest : JsString) (data : StoredBytes) (there : vault.files.get digest = some data) :
      (publishAll vault.files (recordsOf request)).2.get digest = some data :=
    all_published_kept there (recordsOf request)
  unfold Retention.publishAppend
  dsimp only
  split
  · exact files_grow kept
  · split
    · exact files_grow kept
    · rename_i answer state accepted
      rcases publish_grows accepted with ⟨-, rfl⟩ | ⟨-, -, grows⟩
      · exact files_grow kept
      · exact tables_grow kept grows

-- A request that is refused by the triggers or was recorded before inserts no row.
theorem publish_append_quiet (quiet : Blocked vault request ∨ Recorded vault.authority request) :
    VaultGrows [] vault (Retention.publishAppend vault base request).2 := by
  have kept (digest : JsString) (data : StoredBytes) (there : vault.files.get digest = some data) :
      (publishAll vault.files (recordsOf request)).2.get digest = some data :=
    all_published_kept there (recordsOf request)
  unfold Retention.publishAppend
  dsimp only
  split
  · exact files_grow kept
  · split
    · exact files_grow kept
    · rename_i answer state accepted
      rcases publish_grows accepted with ⟨-, rfl⟩ | ⟨fresh, free, -⟩
      · exact files_grow kept
      · rcases quiet with ⟨publication, member, retained, owned⟩ | recorded
        · have released : vault.retained publication.record.digest = false :=
            free publication member owned
          rw [retained] at released
          cases released
        · exact absurd recorded fresh

end Vaults

section Systems

variable {digests : List JsString} {system : System} {vault after : Vault}

theorem retained_iff (vault : Vault) (digest : JsString) :
    vault.retained digest = true ↔ ∃ intent ∈ vault.intents, intent.digest = digest := by
  simp [Vault.retained, Vault.intent, List.find?_isSome]

/-- What is referred to or pinned keeps its row and its file, and no resumption will touch it. -/
structure Guarded (system : System) : Prop where
  references : ∀ digest, system.vault.referenced digest → system.vault.retained digest = false ∧
    ∃ row, system.vault.authority.artifacts.get digest = some row ∧ Filed system.vault.files digest row
  intentIds : (system.vault.intents.map RetentionIntent.intentId).Nodup
  tasks : ∀ process tasks, system.resumptions.get process = some tasks → ∀ task ∈ tasks,
    ∃ intent ∈ system.vault.intents, intent.intentId = task.intentId ∧ intent.digest = task.digest

def Awaiting (system : System) (digest : JsString) : Prop :=
  (∃ intent ∈ system.vault.intents, intent.digest = digest ∧ intent.state = .deleting) ∨
    ∃ process tasks, system.resumptions.get process = some tasks ∧
      ∃ task ∈ tasks, task.digest = digest ∧ task.stage = .removing

/-- Every row has its file, and none is there for a file that is going to be removed. -/
structure Catalogued (system : System) : Prop where
  rows : ∀ digest row, system.vault.authority.artifacts.get digest = some row →
    Filed system.vault.files digest row
  awaiting : ∀ digest, Awaiting system digest → system.vault.authority.artifacts.get digest = none

theorem fresh_guarded : Guarded .fresh where
  references digest held := by
    rcases held with ⟨row, member, -⟩ | ⟨row, member, -⟩ <;> cases member
  intentIds := List.nodup_nil
  tasks process tasks found := by cases found

theorem fresh_catalogued : Catalogued .fresh where
  rows digest row found := by cases found
  awaiting digest _ := rfl

theorem Guarded.grow (guarded : Guarded system) (grows : VaultGrows digests system.vault after) :
    Guarded { system with vault := after } where
  references digest held := by
    have retained : after.retained digest = system.vault.retained digest := by
      rw [Vault.retained, Vault.intent, grows.intents]
      rfl
    rcases grows.referenced digest held with earlier | ⟨free, row, found, filed⟩
    · rcases guarded.references digest earlier with ⟨free, row, found, filed⟩
      exact ⟨retained.trans free, row, grows.kept _ _ found, grows.files _ _ filed⟩
    · exact ⟨retained.trans free, row, found, filed⟩
  intentIds := by
    rw [grows.intents]
    exact guarded.intentIds
  tasks process tasks found task member := by
    rw [grows.intents]
    exact guarded.tasks process tasks found task member

theorem Catalogued.grow (catalogued : Catalogued system)
    (grows : VaultGrows digests system.vault after)
    (calm : ∀ digest ∈ digests, ¬ Awaiting system digest) :
    Catalogued { system with vault := after } where
  rows digest row found := by
    rcases grows.rows digest row found with earlier | ⟨-, filed⟩
    · exact grows.files _ _ (catalogued.rows digest row earlier)
    · exact filed
  awaiting digest waits := by
    have before : Awaiting system digest := by
      rcases waits with ⟨intent, member, rest⟩ | running
      · exact .inl ⟨intent, grows.intents ▸ member, rest⟩
      · exact .inr running
    cases found : after.authority.artifacts.get digest with
    | none => rfl
    | some row =>
        rcases grows.rows digest row found with earlier | ⟨member, -⟩
        · rw [catalogued.awaiting digest before] at earlier
          cases earlier
        · exact absurd before (calm digest member)

theorem remove_reference_grows {workspaceId ownerId digest : JsString} :
    VaultGrows [] vault (removeReference vault workspaceId ownerId digest) := by
  refine ⟨rfl, fun _ _ => id, fun _ _ => id, fun _ _ => .inl, ?_⟩
  rintro other (⟨row, member, rfl⟩ | pinned)
  · exact .inl (.inl ⟨row, List.mem_of_mem_filter member, rfl⟩)
  · exact .inl (.inr pinned)

theorem unpin_grows {pinId digest : JsString} : VaultGrows [] vault (Retention.unpin vault pinId digest) := by
  refine ⟨rfl, fun _ _ => id, fun _ _ => id, fun _ _ => .inl, ?_⟩
  rintro other (referenced | ⟨row, member, rfl⟩)
  · exact .inl (.inl referenced)
  · exact .inl (.inr ⟨row, List.mem_of_mem_filter member, rfl⟩)

end Systems

section Collections

variable {system : System} {vault after : Vault} {task : Task}

theorem moved_member {intentId : JsString} {state : IntentState} {moved : RetentionIntent}
    (member : moved ∈ (vault.moveIntent intentId state).intents) :
    ∃ intent ∈ vault.intents, moved.intentId = intent.intentId ∧ moved.digest = intent.digest ∧
      (intent.intentId = intentId ∧ moved.state = state ∨ moved.state = intent.state) := by
  rcases List.mem_map.mp member with ⟨intent, there, rfl⟩
  refine ⟨intent, there, ?_⟩
  split
  · rename_i own
    exact ⟨rfl, rfl, .inl ⟨own, rfl⟩⟩
  · exact ⟨rfl, rfl, .inr rfl⟩

theorem moved_there {intentId : JsString} {state : IntentState} {intent : RetentionIntent}
    (there : intent ∈ vault.intents) : ∃ moved ∈ (vault.moveIntent intentId state).intents,
      moved.intentId = intent.intentId ∧ moved.digest = intent.digest := by
  refine ⟨_, List.mem_map_of_mem there, ?_⟩
  split <;> exact ⟨rfl, rfl⟩

theorem moved_retained (vault : Vault) (intentId digest : JsString) (state : IntentState) :
    (vault.moveIntent intentId state).retained digest = vault.retained digest := by
  rw [Bool.eq_iff_iff, retained_iff, retained_iff]
  constructor
  · rintro ⟨moved, member, rfl⟩
    rcases moved_member member with ⟨intent, there, -, same, -⟩
    exact ⟨intent, there, same.symm⟩
  · rintro ⟨intent, there, rfl⟩
    rcases moved_there there with ⟨moved, member, -, same⟩
    exact ⟨moved, member, same⟩

theorem moved_ids (vault : Vault) (intentId : JsString) (state : IntentState) :
    (vault.moveIntent intentId state).intents.map RetentionIntent.intentId =
      vault.intents.map RetentionIntent.intentId := by
  rw [Vault.moveIntent, List.map_map]
  apply List.map_congr_left
  intro intent _
  simp only [Function.comp_apply]
  split <;> rfl

-- An intent that is planned is pending, and nothing refers to its artifact.
theorem plan_ok {workspaceId digest intentId : JsString} {row : RetentionIntent}
    (planned : planRetention vault workspaceId digest intentId = .ok (row, after)) :
    after = vault ∨ (¬ vault.referenced digest ∧
      (∀ intent ∈ vault.intents, intent.intentId ≠ intentId) ∧
      after = { vault with
        intents := vault.intents ++ [⟨intentId, workspaceId, digest, .pending⟩] }) := by
  simp only [planRetention, check_ok_iff, ensure_ok_iff] at planned
  rcases planned with ⟨-, free, planned⟩
  split at planned
  · simp only [check_ok_iff, pure_ok_iff, Prod.mk.injEq] at planned
    rcases planned with ⟨-, -, rfl⟩
    exact .inl rfl
  · simp only [check_ok_iff, ensure_ok_iff, pure_ok_iff, Prod.mk.injEq] at planned
    rcases planned with ⟨fresh, -, rfl⟩
    exact .inr ⟨free, fresh, rfl⟩

theorem commit_ok {going : Bool} (committed : commitDeletion vault task = .ok (going, after)) :
    (going = false ∧ after = vault) ∨ (going = true ∧ ¬ vault.referenced task.digest ∧
      after = (vault.withArtifacts (vault.authority.artifacts.erase task.digest)).moveIntent
        task.intentId .deleting) := by
  unfold commitDeletion at committed
  split at committed
  · simp only [check_ok_iff, ensure_ok_iff, pure_ok_iff, Prod.mk.injEq] at committed
    rcases committed with ⟨free, -, rfl, rfl⟩
    exact .inr ⟨rfl, free, rfl⟩
  · rw [pure_ok_iff, Prod.mk.injEq] at committed
    rcases committed with ⟨rfl, rfl⟩
    exact .inl ⟨rfl, rfl⟩

theorem remove_ok (removed : removeObject vault task = .ok after) :
    after = { vault with files := vault.files.erase task.digest } := by
  simp only [removeObject, check_ok_iff, pure_ok_iff] at removed
  exact removed.2.symm

theorem finish_ok (finished : finishDeletion vault task = .ok after) : after = vault ∨
    ∃ tombstones, after = { vault.moveIntent task.intentId .deleted with tombstones := tombstones } := by
  unfold finishDeletion at finished
  split at finished
  · simp only [check_ok_iff, pure_ok_iff] at finished
    exact .inr ⟨_, finished.2.symm⟩
  · rw [pure_ok_iff] at finished
    exact .inl finished.symm

def Founded (vault : Vault) (tasks : List Task) : Prop :=
  ∀ task ∈ tasks, ∃ intent ∈ vault.intents,
    intent.intentId = task.intentId ∧ intent.digest = task.digest

theorem selected_founded (vault : Vault) : Founded vault (selected vault) := by
  intro task member
  rcases List.mem_filterMap.mp member with ⟨intent, there, taken⟩
  refine ⟨intent, there, ?_⟩
  unfold taskOf at taken
  split at taken
  · cases taken
    exact ⟨rfl, rfl⟩
  · cases taken
    exact ⟨rfl, rfl⟩
  · cases taken

-- A selected file that is to be removed is that of an intent already deleting.
theorem selected_deleting {vault : Vault} (member : task ∈ selected vault)
    (removing : task.stage = .removing) :
    ∃ intent ∈ vault.intents, intent.digest = task.digest ∧ intent.state = .deleting := by
  rcases List.mem_filterMap.mp member with ⟨intent, there, taken⟩
  refine ⟨intent, there, ?_⟩
  unfold taskOf at taken
  split at taken
  · cases taken
    cases removing
  · rename_i deleting
    cases taken
    exact ⟨rfl, deleting⟩
  · cases taken

theorem Guarded.plan {workspaceId digest intentId : JsString} (guarded : Guarded system)
    (free : ¬ system.vault.referenced digest)
    (fresh : ∀ intent ∈ system.vault.intents, intent.intentId ≠ intentId) :
    Guarded { system with
      vault := { system.vault with
        intents := system.vault.intents ++ [⟨intentId, workspaceId, digest, .pending⟩] } } where
  references other held := by
    rcases guarded.references other held with ⟨unretained, kept⟩
    refine ⟨?_, kept⟩
    rw [← Bool.not_eq_true, retained_iff] at unretained ⊢
    rintro ⟨intent, member, rfl⟩
    rcases List.mem_append.mp member with earlier | new
    · exact unretained ⟨intent, earlier, rfl⟩
    · obtain rfl := List.mem_singleton.mp new
      exact free held
  intentIds := by
    rw [List.map_append, List.nodup_append]
    refine ⟨guarded.intentIds, List.nodup_singleton _, ?_⟩
    intro _ member _ new same
    obtain rfl := List.mem_singleton.mp new
    rcases List.mem_map.mp member with ⟨intent, there, rfl⟩
    exact fresh intent there same
  tasks process tasks found task member := by
    rcases guarded.tasks process tasks found task member with ⟨intent, there, same⟩
    exact ⟨intent, List.mem_append_left _ there, same⟩

theorem Guarded.commit (guarded : Guarded system) (free : ¬ system.vault.referenced task.digest) :
    Guarded { system with
      vault := (system.vault.withArtifacts
        (system.vault.authority.artifacts.erase task.digest)).moveIntent task.intentId .deleting } where
  references other held := by
    rcases guarded.references other held with ⟨unretained, row, found, filed⟩
    refine ⟨(moved_retained _ _ _ _).trans unretained, row, ?_, filed⟩
    have different : other ≠ task.digest := fun same => free (same ▸ held)
    change (system.vault.authority.artifacts.erase task.digest).get other = some row
    rw [Record.get_erase, if_neg (Ne.symm different), found]
  intentIds := by
    rw [moved_ids]
    exact guarded.intentIds
  tasks process tasks found task member := by
    rcases guarded.tasks process tasks found task member with ⟨intent, there, id, digest⟩
    have kept : intent ∈ (system.vault.withArtifacts
        (system.vault.authority.artifacts.erase task.digest)).intents := there
    rcases moved_there kept with ⟨moved, member, sameId, same⟩
    exact ⟨moved, member, sameId.trans id, same.trans digest⟩

theorem Guarded.remove (guarded : Guarded system) (retained : system.vault.retained task.digest = true) :
    Guarded { system with
      vault := { system.vault with files := system.vault.files.erase task.digest } } where
  references other held := by
    rcases guarded.references other held with ⟨unretained, row, found, filed⟩
    refine ⟨unretained, row, found, ?_⟩
    have different : task.digest ≠ other := by
      rintro rfl
      rw [retained] at unretained
      cases unretained
    change (system.vault.files.erase task.digest).get other = _
    rw [Record.get_erase, if_neg different]
    exact filed
  intentIds := guarded.intentIds
  tasks := guarded.tasks

theorem Guarded.finish (guarded : Guarded system) (tombstones : List ArtifactTombstone) :
    Guarded { system with
      vault := { system.vault.moveIntent task.intentId .deleted with tombstones := tombstones } } where
  references other held := by
    rcases guarded.references other held with ⟨unretained, kept⟩
    exact ⟨(moved_retained _ _ _ _).trans unretained, kept⟩
  intentIds := (moved_ids _ _ _).symm ▸ guarded.intentIds
  tasks process tasks found task member := by
    rcases guarded.tasks process tasks found task member with ⟨intent, there, id, digest⟩
    rcases moved_there there with ⟨moved, member, sameId, same⟩
    exact ⟨moved, member, sameId.trans id, same.trans digest⟩

theorem Guarded.run {tasks : List Task} (guarded : Guarded system) (process : Nat)
    (founded : Founded system.vault tasks) :
    Guarded { system with resumptions := system.resumptions.set process tasks } where
  references := guarded.references
  intentIds := guarded.intentIds
  tasks other work found := by
    rw [Record.get_set] at found
    split at found
    · cases found
      exact founded
    · exact guarded.tasks other work found

theorem Guarded.halt (guarded : Guarded system) (process : Nat) :
    Guarded { system with resumptions := system.resumptions.erase process } where
  references := guarded.references
  intentIds := guarded.intentIds
  tasks other work found := by
    rw [Record.get_erase] at found
    split at found
    · cases found
    · exact guarded.tasks other work found

theorem Guarded.advance (guarded : Guarded system) (process : Nat) :
    Guarded (resumeRetention system process) := by
  unfold resumeRetention
  split
  · exact guarded
  · exact guarded.halt process
  · rename_i task rest listed
    have founded : Founded system.vault (task :: rest) := guarded.tasks process _ listed
    rcases founded task List.mem_cons_self with ⟨intent, there, own⟩
    -- The tasks left are still founded, whatever the stage of the first.
    have later {vault : Vault} (stage : Stage)
        (moved : ∀ intent ∈ system.vault.intents, ∃ next ∈ vault.intents,
          next.intentId = intent.intentId ∧ next.digest = intent.digest) :
        Founded vault ({ task with stage := stage } :: rest) := by
      intro other member
      have before : ∃ intent ∈ system.vault.intents,
          intent.intentId = other.intentId ∧ intent.digest = other.digest := by
        rcases List.mem_cons.mp member with rfl | further
        · exact ⟨intent, there, own⟩
        · exact founded other (List.mem_cons_of_mem _ further)
      rcases before with ⟨intent, there, id, digest⟩
      rcases moved intent there with ⟨next, present, sameId, same⟩
      exact ⟨next, present, sameId.trans id, same.trans digest⟩
    have still : ∀ intent ∈ system.vault.intents, ∃ next ∈ system.vault.intents,
        next.intentId = intent.intentId ∧ next.digest = intent.digest :=
      fun intent there => ⟨intent, there, rfl, rfl⟩
    split
    · split
      · exact guarded.halt process
      · rename_i next committed
        rcases commit_ok committed with ⟨different, -⟩ | ⟨-, free, rfl⟩
        · cases different
        · exact (guarded.commit free).run process (later .removing fun intent there => moved_there there)
      · rename_i next committed
        rcases commit_ok committed with ⟨-, rfl⟩ | ⟨different, -⟩
        · exact guarded.run process fun other member => later task.stage still other
            (List.mem_cons_of_mem _ member)
        · cases different
    · split
      · exact guarded.halt process
      · rename_i next removed
        obtain rfl := remove_ok removed
        have retained := (retained_iff _ _).mpr ⟨intent, there, own.2⟩
        exact (guarded.remove retained).run process (later .finishing still)
    · split
      · exact guarded.halt process
      · rename_i next finished
        rcases finish_ok finished with rfl | ⟨tombstones, rfl⟩
        · exact guarded.run process fun other member => later task.stage still other
            (List.mem_cons_of_mem _ member)
        · apply (guarded.finish tombstones).run process
          exact fun other member => later task.stage (fun intent there => moved_there there) other
            (List.mem_cons_of_mem _ member)

theorem Catalogued.plan {row : RetentionIntent} (catalogued : Catalogued system)
    (pending : row.state = .pending) :
    Catalogued { system with
      vault := { system.vault with intents := system.vault.intents ++ [row] } } where
  rows := catalogued.rows
  awaiting digest waits := by
    apply catalogued.awaiting digest
    rcases waits with ⟨intent, member, same, deleting⟩ | running
    · rcases List.mem_append.mp member with earlier | new
      · exact .inl ⟨intent, earlier, same, deleting⟩
      · obtain rfl := List.mem_singleton.mp new
        rw [pending] at deleting
        cases deleting
    · exact .inr running

theorem Catalogued.commit (catalogued : Catalogued system) (guarded : Guarded system)
    (founded : Founded system.vault [task]) :
    Catalogued { system with
      vault := (system.vault.withArtifacts
        (system.vault.authority.artifacts.erase task.digest)).moveIntent task.intentId .deleting } where
  rows digest row found := by
    change (system.vault.authority.artifacts.erase task.digest).get digest = some row at found
    rw [Record.get_erase] at found
    split at found
    · cases found
    · exact catalogued.rows digest row found
  awaiting digest waits := by
    change (system.vault.authority.artifacts.erase task.digest).get digest = none
    rw [Record.get_erase]
    split
    · rfl
    · rename_i different
      apply catalogued.awaiting digest
      rcases waits with ⟨moved, member, rfl, deleting⟩ | running
      · rcases moved_member member with ⟨intent, there, id, digest, ⟨own, -⟩ | state⟩
        · -- the intent of the task has the digest of the task
          rcases founded task List.mem_cons_self with ⟨other, present, otherId, otherDigest⟩
          have same := List.inj_on_of_nodup_map guarded.intentIds there present
            (own.trans otherId.symm)
          exact absurd (otherDigest.symm.trans ((congrArg _ same).symm.trans digest.symm)) different
        · exact .inl ⟨intent, there, digest.symm, state.symm.trans deleting⟩
      · exact .inr running

theorem Catalogued.remove (catalogued : Catalogued system)
    (waits : Awaiting system task.digest) :
    Catalogued { system with
      vault := { system.vault with files := system.vault.files.erase task.digest } } where
  rows digest row found := by
    have different : task.digest ≠ digest := by
      rintro rfl
      have absent := catalogued.awaiting _ waits
      rw [absent] at found
      cases found
    change (system.vault.files.erase task.digest).get digest = _
    rw [Record.get_erase, if_neg different]
    exact catalogued.rows digest row found
  awaiting := catalogued.awaiting

theorem Catalogued.finish (catalogued : Catalogued system) (tombstones : List ArtifactTombstone) :
    Catalogued { system with
      vault := { system.vault.moveIntent task.intentId .deleted with tombstones := tombstones } } where
  rows := catalogued.rows
  awaiting digest waits := by
    apply catalogued.awaiting digest
    rcases waits with ⟨moved, member, rfl, deleting⟩ | running
    · rcases moved_member member with ⟨intent, there, -, same, ⟨-, deleted⟩ | state⟩
      · rw [deleted] at deleting
        cases deleting
      · exact .inl ⟨intent, there, same.symm, state.symm.trans deleting⟩
    · exact .inr running

theorem Catalogued.run {tasks : List Task} (catalogued : Catalogued system) (process : Nat)
    (known : ∀ task ∈ tasks, task.stage = .removing →
      system.vault.authority.artifacts.get task.digest = none) :
    Catalogued { system with resumptions := system.resumptions.set process tasks } where
  rows := catalogued.rows
  awaiting digest waits := by
    rcases waits with deleting | ⟨other, work, found, task, member, rfl, removing⟩
    · exact catalogued.awaiting digest (.inl deleting)
    · simp only [Record.get_set] at found
      split at found
      · cases found
        exact known task member removing
      · exact catalogued.awaiting _ (.inr ⟨other, work, found, task, member, rfl, removing⟩)

theorem Catalogued.halt (catalogued : Catalogued system) (process : Nat) :
    Catalogued { system with resumptions := system.resumptions.erase process } where
  rows := catalogued.rows
  awaiting digest waits := by
    apply catalogued.awaiting digest
    rcases waits with deleting | ⟨other, work, found, rest⟩
    · exact .inl deleting
    · simp only [Record.get_erase] at found
      split at found
      · cases found
      · exact .inr ⟨other, work, found, rest⟩

theorem Catalogued.advance (catalogued : Catalogued system) (guarded : Guarded system)
    (process : Nat) : Catalogued (resumeRetention system process) := by
  unfold resumeRetention
  split
  · exact catalogued
  · exact catalogued.halt process
  · rename_i task rest listed
    have founded : Founded system.vault (task :: rest) := guarded.tasks process _ listed
    have later : ∀ other ∈ rest, other.stage = .removing → Awaiting system other.digest :=
      fun other member removing =>
        .inr ⟨process, _, listed, other, List.mem_cons_of_mem _ member, rfl, removing⟩
    split
    · split
      · exact catalogued.halt process
      · rename_i next committed
        rcases commit_ok committed with ⟨different, -⟩ | ⟨-, -, rfl⟩
        · cases different
        · have own : Founded system.vault [task] := fun other member =>
            founded other (List.mem_singleton.mp member ▸ List.mem_cons_self)
          apply (catalogued.commit guarded own).run process
          intro other member removing
          change (system.vault.authority.artifacts.erase task.digest).get other.digest = none
          rw [Record.get_erase]
          split
          · rfl
          · rename_i different
            rcases List.mem_cons.mp member with rfl | further
            · exact absurd rfl different
            · exact catalogued.awaiting _ (later other further removing)
      · rename_i next committed
        rcases commit_ok committed with ⟨-, rfl⟩ | ⟨different, -⟩
        · exact catalogued.run process fun other member removing =>
            catalogued.awaiting _ (later other member removing)
        · cases different
    · rename_i stage
      split
      · exact catalogued.halt process
      · rename_i next removed
        obtain rfl := remove_ok removed
        have waits : Awaiting system task.digest :=
          .inr ⟨process, _, listed, task, List.mem_cons_self, rfl, stage⟩
        apply (catalogued.remove waits).run process
        intro other member removing
        rcases List.mem_cons.mp member with rfl | further
        · cases removing
        · exact catalogued.awaiting _ (later other further removing)
    · split
      · exact catalogued.halt process
      · rename_i next finished
        have known : ∀ other ∈ rest, other.stage = .removing →
            system.vault.authority.artifacts.get other.digest = none :=
          fun other member removing => catalogued.awaiting _ (later other member removing)
        rcases finish_ok finished with rfl | ⟨tombstones, rfl⟩
        · exact catalogued.run process known
        · exact (catalogued.finish tombstones).run process known

end Collections

section Runs

variable [Engine] {system : System} {action : Action}

/-- A row may be inserted: no file of its digest is going to be removed, or the request is one that
inserts no row. -/
def Calm (system : System) : Action → Prop
  | .register _ record => ¬ Awaiting system record.digest
  | .publishAppend _ request => Blocked system.vault request ∨
      Recorded system.vault.authority request ∨
      ∀ publication ∈ request.artifacts, ¬ Awaiting system publication.record.digest
  | _ => True

theorem serve_grows {base : Surroundings} {request : StoreRequest} {vault : Vault}
    (silent : ∀ publication, request ≠ .publish publication) :
    VaultGrows [] vault
      { vault with authority := (serve base request vault.authority).2 } := by
  unfold serve
  split
  · rename_i answer after performed
    have grows : Grows (vault.around base) [] vault.authority after := by
      cases request with
      | append request =>
          simp only [perform, bind_ok_iff, pure_ok_iff, Prod.mk.injEq] at performed
          rcases performed with ⟨_, accepted, -, rfl⟩
          exact append_grows accepted
      | publish request => exact absurd rfl (silent request)
      | command input result => exact execution_grows performed
    exact tables_grow (fun _ _ => id) grows
  · exact vault_grows_refl

omit [Engine] in
-- What holds before an operation, and after it where it is accepted, holds in either case.
theorem settled {Failure : Type} {holds : System → Prop} {result : Except Failure Vault}
    (before : holds system)
    (after : ∀ vault, result = .ok vault → holds { system with vault := vault }) :
    holds (system.settle result) := by
  unfold System.settle
  split
  · exact after _ rfl
  · exact before

omit [Engine] in
theorem planned_cases {workspaceId digest intentId : JsString} {vault after : Vault}
    (planned : (planRetention vault workspaceId digest intentId).map Prod.snd = .ok after) :
    after = vault ∨ (¬ vault.referenced digest ∧
      (∀ intent ∈ vault.intents, intent.intentId ≠ intentId) ∧
      after = { vault with
        intents := vault.intents ++ [⟨intentId, workspaceId, digest, .pending⟩] }) := by
  cases result : planRetention vault workspaceId digest intentId with
  | error failure => simp [result, Except.map] at planned
  | ok answer =>
      rcases answer with ⟨row, next⟩
      simp only [result, Except.map, Except.ok.injEq] at planned
      subst planned
      exact plan_ok result

theorem guarded_step (guarded : Guarded system) : Guarded (system.act action) := by
  cases action with
  | publish record =>
      have grows : VaultGrows [] system.vault { system.vault with
          files := (Retention.publish system.vault.files record).2 } :=
        files_grow fun _ _ there => published_kept there record
      exact guarded.grow grows
  | register base record => exact guarded.grow register_vault_grows
  | reference workspaceId ownerKind ownerId digest =>
      exact settled guarded fun vault accepted => guarded.grow (add_reference_grows accepted)
  | pin pinId digest =>
      exact settled guarded fun vault accepted => guarded.grow (pin_vault_grows accepted)
  | unreference workspaceId ownerId digest => exact guarded.grow remove_reference_grows
  | unpin pinId digest => exact guarded.grow unpin_grows
  | publishAppend base request => exact guarded.grow publish_append_grows
  | append base request => exact guarded.grow (serve_grows fun _ different => by cases different)
  | command base input result => exact guarded.grow (serve_grows fun _ different => by cases different)
  | plan workspaceId digest intentId =>
      apply settled guarded
      intro vault planned
      rcases planned_cases planned with rfl | ⟨free, fresh, rfl⟩
      · exact guarded
      · exact guarded.plan free fresh
  | resume process order =>
      by_cases listed : order.Perm (selected system.vault)
      · simp only [System.act, if_pos listed]
        apply guarded.run process
        exact fun task member => selected_founded system.vault task (listed.mem_iff.mp member)
      · simpa only [System.act, if_neg listed] using guarded
  | advance process => exact guarded.advance process
  | crash process => exact guarded.halt process

theorem catalogued_step (guarded : Guarded system) (catalogued : Catalogued system)
    (calm : Calm system action) : Catalogued (system.act action) := by
  cases action with
  | publish record =>
      have grows : VaultGrows [] system.vault { system.vault with
          files := (Retention.publish system.vault.files record).2 } :=
        files_grow fun _ _ there => published_kept there record
      exact catalogued.grow grows (by simp)
  | register base record =>
      apply catalogued.grow register_vault_grows
      intro digest member
      obtain rfl := List.mem_singleton.mp member
      exact calm
  | reference workspaceId ownerKind ownerId digest =>
      exact settled catalogued fun vault accepted => catalogued.grow (add_reference_grows accepted) (by simp)
  | pin pinId digest =>
      exact settled catalogued fun vault accepted => catalogued.grow (pin_vault_grows accepted) (by simp)
  | unreference workspaceId ownerId digest => exact catalogued.grow remove_reference_grows (by simp)
  | unpin pinId digest => exact catalogued.grow unpin_grows (by simp)
  | publishAppend base request =>
      rcases calm with blocked | recorded | calm
      · exact catalogued.grow (publish_append_quiet (.inl blocked)) (by simp)
      · exact catalogued.grow (publish_append_quiet (.inr recorded)) (by simp)
      · apply catalogued.grow publish_append_grows
        intro digest member
        simp only [recordsOf, List.map_map] at member
        rcases List.mem_map.mp member with ⟨publication, among, rfl⟩
        exact calm publication among
  | append base request =>
      exact catalogued.grow (serve_grows fun _ different => by cases different) (by simp)
  | command base input result =>
      exact catalogued.grow (serve_grows fun _ different => by cases different) (by simp)
  | plan workspaceId digest intentId =>
      apply settled catalogued
      intro vault planned
      rcases planned_cases planned with rfl | ⟨-, -, rfl⟩
      · exact catalogued
      · exact catalogued.plan rfl
  | resume process order =>
      by_cases listed : order.Perm (selected system.vault)
      · simp only [System.act, if_pos listed]
        apply catalogued.run process
        intro task member removing
        exact catalogued.awaiting _ (.inl (selected_deleting (listed.mem_iff.mp member) removing))
      · simpa only [System.act, if_neg listed] using catalogued
  | advance process => exact catalogued.advance guarded process
  | crash process => exact catalogued.halt process

/-- Every reference and every pin names a catalogued artifact whose file is there. -/
def ReferencesFiled (vault : Vault) : Prop :=
  ∀ digest, vault.referenced digest →
    ∃ row, vault.authority.artifacts.get digest = some row ∧ Filed vault.files digest row

/-- Every catalogued artifact has its file, unless its retention is under way. -/
def CatalogFiled (vault : Vault) : Prop :=
  ∀ digest row, vault.authority.artifacts.get digest = some row → Filed vault.files digest row ∨
    ∃ intent ∈ vault.intents, intent.digest = digest ∧
      (intent.state = .pending ∨ intent.state = .deleting)

/-- In every run the references and pins keep their files, and in every run in which no row is
inserted for a file that is going to be removed the catalog keeps its files. -/
theorem retention_safe :
    (∀ system, Reaches vaultStep (fun _ _ => True) .fresh system → ReferencesFiled system.vault) ∧
    ∀ system, Reaches vaultStep Calm .fresh system →
      CatalogFiled system.vault ∧ ReferencesFiled system.vault := by
  have filed {system : System} (guarded : Guarded system) : ReferencesFiled system.vault :=
    fun digest held => (guarded.references digest held).2
  constructor
  · intro system run
    apply filed
    apply reaches_invariant Guarded fresh_guarded _ run
    intro state action after _ guarded _ stepped
    cases stepped
    exact guarded_step guarded
  · intro system run
    have safe : Guarded system ∧ Catalogued system := by
      apply reaches_invariant (fun system => Guarded system ∧ Catalogued system)
        ⟨fresh_guarded, fresh_catalogued⟩ _ run
      rintro state action after _ ⟨guarded, catalogued⟩ calm stepped
      cases stepped
      exact ⟨guarded_step guarded, catalogued_step guarded catalogued calm⟩
    exact ⟨fun digest row found => .inl (safe.2.rows digest row found), filed safe.1⟩

theorem acts_reach (actions : List Action) (start : System) :
    Reaches vaultStep (fun _ _ => True) start (actions.foldl System.act start) := by
  induction actions generalizing start with
  | nil => exact .start
  | cons action rest ih =>
      have first : Reaches vaultStep (fun _ _ => True) start (start.act action) :=
        Reaches.start.next action trivial rfl
      exact reaches_trans first (ih (start.act action))

end Runs

section Recorded

attribute [local instance] RecordedRuns.shortEngine

def commonDigest : JsString := List.replicate 64 97

def commonRecord : ArtifactRecord := ⟨commonDigest, 3, pathFor commonDigest, none⟩

def commonTask (stage : Stage) : Task := ⟨js "intent", js "w", commonDigest, stage⟩

/-- The artifact is catalogued again between the transaction that lets its file go and the
resumption that removes the file. -/
def lostRun : List Action :=
  [.register openSession commonRecord, .plan (js "w") commonDigest (js "intent"),
    .resume 0 [commonTask .checking], .advance 0, .crash 0, .register openSession commonRecord,
    .resume 0 [commonTask .removing], .advance 0, .advance 0]

def lostSystem : System := lostRun.foldl System.act .fresh

theorem catalog_loses_file : Reaches vaultStep (fun _ _ => True) .fresh lostSystem ∧
    lostSystem.vault.authority.artifacts.get commonDigest = some commonRecord ∧
    lostSystem.vault.files.get commonDigest = none ∧ ¬ CatalogFiled lostSystem.vault := by
  have row : lostSystem.vault.authority.artifacts.get commonDigest = some commonRecord := by
    decide +kernel
  have gone : lostSystem.vault.files.get commonDigest = none := by decide +kernel
  have deleted : ∀ intent ∈ lostSystem.vault.intents, intent.state = .deleted := by decide +kernel
  refine ⟨acts_reach lostRun .fresh, row, gone, ?_⟩
  intro filed
  rcases filed commonDigest commonRecord row with there | ⟨intent, member, -, underWay⟩
  · rw [Filed, gone] at there
    cases there
  · rw [deleted intent member] at underWay
    rcases underWay with pending | deleting <;> simp at *

end Recorded

end Horseness.RetentionSafety
