import Horseness.ForkRegistry

/-!
The lineages of forks. Whatever is created and refreshed, in any order, the stored pins of a fork
are its versions from the first one on, each naming the digests of all before it; the active pin
is the last. Digests are taken to be ideal, as a colliding pin would replace another.
-/

namespace Horseness.ForkLineages

open FallibleRuns Records ScriptText JsonValues ScriptEngine Canonical ForkContext IdealDigests
  RecordedRuns ForkRegistry

section Pins

variable [Engine] {core : ForkPinCoreV1} {pin : SealedForkPinV1}

theorem seal_pin_ok_iff : sealForkPin core = .ok pin ↔ validateForkPinCore core = .ok () ∧
    domainDigest (js "horseness.fork-pin-core.v1") core.toJson = .ok pin.forkPinDigest ∧
      pin.core = core ∧ pin.forkPinId = digestId (js "fpk_") pin.forkPinDigest := by
  simp only [sealForkPin, bind_ok_iff, pure_ok_iff]
  constructor
  · rintro ⟨_, valid, digest, hashed, rfl⟩
    exact ⟨valid, hashed, rfl, rfl⟩
  · rintro ⟨valid, hashed, rfl, identifier⟩
    exact ⟨(), valid, _, hashed, by rw [← identifier]⟩

theorem sealed_verified (sealed : sealForkPin core = .ok pin) : verifyForkPin pin = .ok () := by
  have same : pin.core = core := (seal_pin_ok_iff.mp sealed).2.2.1
  rw [verifyForkPin, same, sealed, ok_bind]
  exact (ensure_ok_iff _ _ _).mpr ⟨rfl, rfl⟩

theorem verified_digest (verified : verifyForkPin pin = .ok ()) :
    domainDigest (js "horseness.fork-pin-core.v1") pin.core.toJson = .ok pin.forkPinDigest := by
  simp only [verifyForkPin, bind_ok_iff, ensure_ok_iff] at verified
  rcases verified with ⟨sealed, accepted, same, _⟩
  rw [← same]
  exact (seal_pin_ok_iff.mp accepted).2.1

theorem pin_identity (ideal : Function.Injective Engine.sha256Hex) {left right : SealedForkPinV1}
    (first : verifyForkPin left = .ok ()) (second : verifyForkPin right = .ok ())
    (same : left.forkPinDigest = right.forkPinDigest) :
    left.core.forkId = right.core.forkId ∧ left.core.pinVersion = right.core.pinVersion := by
  have hashed := verified_digest first
  rw [same] at hashed
  have fields := object_meaning (digest_meaning ideal hashed (verified_digest second)) rfl
    (by simp only [List.map_cons, List.map_nil]; decide +kernel)
  simp only [List.map_cons, List.map_nil, List.cons.injEq] at fields
  rcases fields with ⟨_, forkId, version, _⟩
  constructor
  · simpa only [meaning, JsonTree.str.injEq] using forkId
  · simpa [meaning, natural, JsNumber.meaning] using version

end Pins

section Lineages

/-- What a version says of those before it. -/
structure Follows (forkId workspaceId runId : JsString) (earlier : List SealedForkPinV1)
    (pin : SealedForkPinV1) : Prop where
  forkId : pin.core.forkId = forkId
  workspaceId : pin.core.workspaceId = workspaceId
  runId : pin.core.runId = runId
  version : pin.core.pinVersion = earlier.length + 1
  ancestry : pin.core.ancestry = earlier.map SealedForkPinV1.forkPinDigest
  parent : pin.core.parentForkPinDigest = (earlier.map SealedForkPinV1.forkPinDigest).getLast?
  refreshes : pin.core.refreshesForkPinDigest = (earlier.map SealedForkPinV1.forkPinDigest).getLast?

/-- The stored pins of a fork in the order of their versions; the last one is active. -/
structure ForkLineage (state : ForkProjectionV1) (forkId workspaceId runId : JsString)
    (versions : List SealedForkPinV1) : Prop where
  ordered : EachAfter (Follows forkId workspaceId runId) versions
  active : state.activeByForkId.get forkId =
    (versions.map SealedForkPinV1.forkPinDigest).getLast?
  stored : ∀ pin, pin ∈ state.pins.values ∧ pin.core.forkId = forkId ↔ pin ∈ versions

structure SoundForks [Engine] (state : ForkProjectionV1) : Prop where
  keyed : ∀ digest pin, state.pins.get digest = some pin → pin.forkPinDigest = digest
  verified : ∀ pin ∈ state.pins.values, verifyForkPin pin = .ok ()
  lineages : ∀ forkId, ∃ workspaceId runId versions,
    ForkLineage state forkId workspaceId runId versions

variable {forkId workspaceId runId : JsString} {versions : List SealedForkPinV1}
  {pin : SealedForkPinV1}

theorem follows_member (ordered : EachAfter (Follows forkId workspaceId runId) versions)
    (member : pin ∈ versions) : ∃ earlier later, versions = earlier ++ pin :: later ∧
      Follows forkId workspaceId runId earlier pin := by
  rcases List.append_of_mem member with ⟨earlier, later, split⟩
  exact ⟨earlier, later, split, ordered earlier pin later split⟩

theorem lineage_versions (ordered : EachAfter (Follows forkId workspaceId runId) versions) :
    versions.map (fun pin => pin.core.pinVersion) = List.range' 1 versions.length := by
  induction versions using List.reverseRecOn with
  | nil => rfl
  | append_singleton earlier pin ih =>
      rcases (each_after_concat_iff _ _ _).mp ordered with ⟨before, last⟩
      rw [List.map_append, ih before, List.map_singleton, last.version, List.length_append,
        List.length_singleton, List.range'_1_concat, Nat.add_comm]

variable [Engine] {state : ForkProjectionV1} {identities : ForkAuthoritySnapshotIdentitiesV1}

theorem next_fresh (ideal : Function.Injective Engine.sha256Hex) (sound : SoundForks state)
    (lineage : ForkLineage state forkId workspaceId runId versions)
    (verified : verifyForkPin pin = .ok ())
    (follows : Follows forkId workspaceId runId versions pin) :
    state.pins.get pin.forkPinDigest = none := by
  by_contra taken
  rcases Option.ne_none_iff_exists'.mp taken with ⟨old, found⟩
  have stored : old ∈ state.pins.values := (Record.mem_values_iff _ _).mpr ⟨_, found⟩
  have same := pin_identity ideal (sound.verified old stored) verified (sound.keyed _ _ found)
  have member := (lineage.stored old).mp ⟨stored, same.1.trans follows.forkId⟩
  rcases follows_member lineage.ordered member with ⟨earlier, later, split, placed⟩
  have early := placed.version
  have late := follows.version
  rw [split, List.length_append, List.length_cons] at late
  omega

-- Storing the next version of one fork extends its lineage and leaves the others alone.
theorem store_sound (ideal : Function.Injective Engine.sha256Hex) (sound : SoundForks state)
    (lineage : ForkLineage state forkId workspaceId runId versions)
    (verified : verifyForkPin pin = .ok ())
    (follows : Follows forkId workspaceId runId versions pin) :
    SoundForks (store state pin identities) := by
  have fresh := next_fresh ideal sound lineage verified follows
  have members : ∀ other, other ∈ (store state pin identities).pins.values ↔
      other ∈ state.pins.values ∨ other = pin := by
    intro other
    simp only [store, Record.mem_values_iff, Record.get_set]
    constructor
    · rintro ⟨key, found⟩
      by_cases here : pin.forkPinDigest = key
      · rw [if_pos here] at found
        exact Or.inr (Option.some.inj found).symm
      · rw [if_neg here] at found
        exact Or.inl ⟨key, found⟩
    · rintro (⟨key, found⟩ | rfl)
      · refine ⟨key, ?_⟩
        rw [if_neg, found]
        rintro rfl
        rw [fresh] at found
        cases found
      · exact ⟨other.forkPinDigest, if_pos rfl⟩
  constructor
  · intro digest other found
    rw [store, Record.get_set] at found
    by_cases here : pin.forkPinDigest = digest
    · rw [if_pos here] at found
      obtain rfl := Option.some.inj found
      exact here
    · rw [if_neg here] at found
      exact sound.keyed digest other found
  · intro other stored
    rcases (members other).mp stored with old | rfl
    · exact sound.verified other old
    · exact verified
  · intro name
    by_cases here : forkId = name
    · subst here
      refine ⟨workspaceId, runId, versions ++ [pin], ?_, ?_, ?_⟩
      · exact (each_after_concat_iff _ _ _).mpr ⟨lineage.ordered, follows⟩
      · rw [store, follows.forkId, Record.get_set_same, List.map_append]
        simp
      · intro other
        rw [members, List.mem_append, List.mem_singleton, ← lineage.stored]
        constructor
        · rintro ⟨old | same, named⟩
          · exact Or.inl ⟨old, named⟩
          · exact Or.inr same
        · rintro (⟨old, named⟩ | rfl)
          · exact ⟨Or.inl old, named⟩
          · exact ⟨Or.inr rfl, follows.forkId⟩
    · rcases sound.lineages name with ⟨workspace, run, others, other⟩
      refine ⟨workspace, run, others, other.ordered, ?_, ?_⟩
      · rw [store, follows.forkId, Record.get_set_other _ _ here]
        exact other.active
      · intro found
        rw [members, ← other.stored]
        constructor
        · rintro ⟨old | rfl, named⟩
          · exact ⟨old, named⟩
          · exact absurd (follows.forkId.symm.trans named) here
        · rintro ⟨old, named⟩
          exact ⟨Or.inl old, named⟩

end Lineages

section Operations

variable [Engine] {state after : ForkProjectionV1} {forkId : JsString}
  {capability : ForkAuthorityCapabilityV1} {pin : SealedForkPinV1}

theorem created_ok (accepted : createProjectedFork state forkId capability = .ok (after, pin)) :
    ∃ identities, after = store state pin identities ∧
      state.activeByForkId.get forkId = none ∧ verifyForkPin pin = .ok () ∧
      Follows forkId pin.core.workspaceId pin.core.runId [] pin := by
  simp only [createProjectedFork, createForkPin, bind_ok_iff, ensure_ok_iff, map_error_ok_iff,
    pure_ok_iff, Prod.mk.injEq] at accepted
  rcases accepted with ⟨identities, _, _, ⟨unused, _⟩, changes, _, made, ⟨_, _, sealed⟩, rfl, rfl⟩
  have core := (seal_pin_ok_iff.mp sealed).2.2.1
  refine ⟨identities, rfl, unused, sealed_verified sealed, ?_⟩
  constructor <;> simp only [core, ForkPinDraft.core, List.length_nil, List.map_nil,
    List.getLast?_nil, Nat.zero_add]

theorem refreshed_ok (accepted : refreshProjectedFork state forkId capability = .ok (after, pin)) :
    ∃ identities parent, after = store state pin identities ∧
      activePin state forkId = some parent ∧ verifyForkPin pin = .ok () ∧
      pin.core.forkId = parent.core.forkId ∧
      pin.core.workspaceId = parent.core.workspaceId ∧ pin.core.runId = parent.core.runId ∧
      pin.core.pinVersion = parent.core.pinVersion + 1 ∧
      pin.core.ancestry = parent.core.ancestry ++ [parent.forkPinDigest] ∧
      pin.core.parentForkPinDigest = some parent.forkPinDigest ∧
      pin.core.refreshesForkPinDigest = some parent.forkPinDigest := by
  simp only [refreshProjectedFork, refreshForkPin, createForkPin, bind_ok_iff, ensure_ok_iff,
    required_ok_iff, map_error_ok_iff, pure_ok_iff, Prod.mk.injEq] at accepted
  rcases accepted with ⟨identities, _, parent, active, _, _, _, _, _, _, changes, _, made,
    ⟨_, _, _, _, _, _, _, _, _, _, sealed⟩, rfl, rfl⟩
  have core := (seal_pin_ok_iff.mp sealed).2.2.1
  refine ⟨identities, parent, rfl, active, sealed_verified sealed, ?_⟩
  simp only [core, ForkPinDraft.core, and_self]

theorem created_sound (ideal : Function.Injective Engine.sha256Hex) (sound : SoundForks state)
    (accepted : createProjectedFork state forkId capability = .ok (after, pin)) :
    SoundForks after := by
  rcases created_ok accepted with ⟨identities, rfl, unused, verified, follows⟩
  rcases sound.lineages forkId with ⟨workspaceId, runId, versions, lineage⟩
  -- a fork that has no active pin has no pin
  have none : versions = [] := by
    have active := lineage.active
    rw [unused] at active
    simpa using active.symm
  subst none
  exact store_sound ideal sound ⟨each_after_nil _, lineage.active, lineage.stored⟩ verified follows

theorem active_pin (sound : SoundForks state) {workspaceId runId : JsString}
    {versions : List SealedForkPinV1} {parent : SealedForkPinV1}
    (lineage : ForkLineage state forkId workspaceId runId versions)
    (active : activePin state forkId = some parent) :
    ∃ earlier, versions = earlier ++ [parent] := by
  unfold activePin at active
  split at active
  next =>
    rcases Option.bind_eq_some_iff.mp active with ⟨digest, named, found⟩
    rw [lineage.active, List.getLast?_map, Option.map_eq_some_iff] at named
    rcases named with ⟨last, ending, rfl⟩
    rcases List.getLast?_eq_some_iff.mp ending with ⟨earlier, rfl⟩
    have stored := (lineage.stored last).mpr (by simp)
    rcases (Record.mem_values_iff _ _).mp stored.1 with ⟨key, held⟩
    rw [← sound.keyed key last held] at held
    exact ⟨earlier, by rw [Option.some.inj (held.symm.trans found)]⟩
  next => cases active

theorem refreshed_sound (ideal : Function.Injective Engine.sha256Hex) (sound : SoundForks state)
    (accepted : refreshProjectedFork state forkId capability = .ok (after, pin)) :
    SoundForks after := by
  rcases refreshed_ok accepted with ⟨identities, parent, rfl, active, verified, named, workspace,
    run, version, ancestry, parents, refreshes⟩
  rcases sound.lineages forkId with ⟨workspaceId, runId, versions, lineage⟩
  rcases active_pin sound lineage active with ⟨earlier, rfl⟩
  have before := ((each_after_concat_iff _ _ _).mp lineage.ordered).2
  apply store_sound ideal sound lineage verified
  constructor
  · exact named.trans before.forkId
  · exact workspace.trans before.workspaceId
  · exact run.trans before.runId
  · rw [version, before.version, List.length_append, List.length_singleton]
  · rw [ancestry, before.ancestry, List.map_append, List.map_singleton]
  · simpa using parents
  · simpa using refreshes

end Operations

section Runs

variable [Engine]

inductive ForkCall where
  | createProjectedFork (forkId : JsString) (capability : ForkAuthorityCapabilityV1)
  | refreshProjectedFork (forkId : JsString) (capability : ForkAuthorityCapabilityV1)

def ForkCall.run (call : ForkCall) (state : ForkProjectionV1) :
    Except ForkError (ForkProjectionV1 × SealedForkPinV1) :=
  match call with
  | .createProjectedFork forkId capability =>
      ForkRegistry.createProjectedFork state forkId capability
  | .refreshProjectedFork forkId capability =>
      ForkRegistry.refreshProjectedFork state forkId capability

/-- The projection that is kept: the returned one, or the old one where the call throws. -/
def ForkCall.after (state : ForkProjectionV1) (call : ForkCall) : ForkProjectionV1 :=
  match call.run state with
  | .ok (next, _) => next
  | .error _ => state

theorem call_sound (ideal : Function.Injective Engine.sha256Hex) {state : ForkProjectionV1}
    (sound : SoundForks state) (call : ForkCall) : SoundForks (call.after state) := by
  unfold ForkCall.after
  cases taken : call.run state with
  | error _ => exact sound
  | ok result =>
      rcases result with ⟨next, pin⟩
      cases call with
      | createProjectedFork forkId capability => exact created_sound ideal sound taken
      | refreshProjectedFork forkId capability => exact refreshed_sound ideal sound taken

omit [Engine] in
theorem empty_pins (pin : SealedForkPinV1) : pin ∉ emptyForkProjection.pins.values := by
  intro member
  rcases (Record.mem_values_iff _ _).mp member with ⟨key, found⟩
  cases found

theorem empty_sound : SoundForks emptyForkProjection where
  keyed _ _ found := nomatch found
  verified pin member := absurd member (empty_pins pin)
  lineages _ := ⟨[], [], [], each_after_nil _, rfl, fun pin =>
    ⟨fun stored => absurd stored.1 (empty_pins pin), fun member => nomatch member⟩⟩

theorem calls_sound (ideal : Function.Injective Engine.sha256Hex) (calls : List ForkCall)
    {state : ForkProjectionV1} (sound : SoundForks state) :
    SoundForks (calls.foldl ForkCall.after state) := by
  induction calls generalizing state with
  | nil => exact sound
  | cons call rest ih => exact ih (call_sound ideal sound call)

/-- Whatever calls were made, every stored pin verifies, and the pins of a fork with an active
digest are its versions in order, the active one last; a call that throws changes nothing. -/
theorem fork_lineages (ideal : Function.Injective Engine.sha256Hex) (calls : List ForkCall) :
    let state := calls.foldl ForkCall.after emptyForkProjection
    (∀ digest pin, state.pins.get digest = some pin →
      pin.forkPinDigest = digest ∧ verifyForkPin pin = .ok ()) ∧
    (∀ forkId digest, state.activeByForkId.get forkId = some digest →
      ∃ workspaceId runId versions active,
        ForkLineage state forkId workspaceId runId (versions ++ [active]) ∧
        active.forkPinDigest = digest ∧
        (versions ++ [active]).map (fun pin => pin.core.pinVersion) =
          List.range' 1 (versions.length + 1)) ∧
    ∀ (call : ForkCall) (error : ForkError), call.run state = .error error →
      call.after state = state := by
  have sound := calls_sound ideal calls empty_sound
  refine ⟨fun digest pin found => ⟨sound.keyed digest pin found, sound.verified pin
    ((Record.mem_values_iff _ _).mpr ⟨digest, found⟩)⟩, ?_, ?_⟩
  · intro forkId digest found
    rcases sound.lineages forkId with ⟨workspaceId, runId, versions, lineage⟩
    rw [lineage.active, List.getLast?_map, Option.map_eq_some_iff] at found
    rcases found with ⟨active, ending, named⟩
    rcases List.getLast?_eq_some_iff.mp ending with ⟨earlier, rfl⟩
    refine ⟨workspaceId, runId, earlier, active, lineage, named, ?_⟩
    rw [lineage_versions lineage.ordered, List.length_append, List.length_singleton]
  · intro call error failed
    rw [ForkCall.after, failed]

end Runs

section Reuses

variable [Engine] {state after : ForkProjectionV1} {forkId : JsString} {call : ForkCall}
  {capability : ForkAuthorityCapabilityV1} {pin new : SealedForkPinV1}

def ForkCall.fork : ForkCall → JsString
  | .createProjectedFork forkId _ | .refreshProjectedFork forkId _ => forkId

/-- One of the calls is for the fork and is accepted. -/
def Moved (forkId : JsString) : ForkProjectionV1 → List ForkCall → Prop
  | _, [] => False
  | state, call :: rest =>
      (call.fork = forkId ∧ ∃ result, call.run state = .ok result) ∨ Moved forkId (call.after state) rest

/-- A later version than the pin is stored. -/
def Outdated (state : ForkProjectionV1) (forkId : JsString) (pin : SealedForkPinV1) : Prop :=
  ∃ newer ∈ state.pins.values, newer.core.forkId = forkId ∧ pin.core.pinVersion < newer.core.pinVersion

theorem call_stores (sound : SoundForks state) (ran : call.run state = .ok (after, new)) :
    (∃ identities, after = store state new identities) ∧ verifyForkPin new = .ok () ∧
      new.core.forkId = call.fork ∧
      ∀ pin, activePin state call.fork = some pin → new.core.pinVersion = pin.core.pinVersion + 1 := by
  cases call with
  | createProjectedFork forkId capability =>
      rcases created_ok ran with ⟨identities, stored, unused, verified, follows⟩
      refine ⟨⟨identities, stored⟩, verified, follows.forkId, fun pin active => ?_⟩
      simp [ForkCall.fork, activePin, unused] at active
  | refreshProjectedFork forkId capability =>
      rcases refreshed_ok ran with ⟨identities, parent, stored, active, verified, named, _, _, version, _⟩
      rcases sound.lineages forkId with ⟨workspaceId, runId, versions, lineage⟩
      rcases active_pin sound lineage active with ⟨earlier, rfl⟩
      have own := ((each_after_concat_iff _ _ _).mp lineage.ordered).2.forkId
      refine ⟨⟨identities, stored⟩, verified, named.trans own, fun pin found => ?_⟩
      rw [version, Option.some.inj (active.symm.trans found)]

theorem reuse_facts (sound : SoundForks state)
    (reused : reuseProjectedFork state forkId capability = .ok pin) :
    activePin state forkId = some pin ∧ verifyForkPin pin = .ok () ∧ pin.core.forkId = forkId ∧
      state.activeByForkId.get forkId = some pin.forkPinDigest ∧
      capability.context.authorization.expectedActiveForkPinDigest = some pin.forkPinDigest ∧
      ∃ identities, authenticate capability = .ok identities := by
  simp only [reuseProjectedFork, bind_ok_iff, required_ok_iff, ensure_ok_iff, map_error_ok_iff,
    pure_ok_iff] at reused
  rcases reused with ⟨identities, allowed, found, active, _, expected, _, verified, rest⟩
  obtain rfl : found = pin := by
    rcases rest with ⟨_, _, _, _, _, _, _, _, _, _, same⟩
    exact same
  rcases sound.lineages forkId with ⟨workspaceId, runId, versions, lineage⟩
  rcases active_pin sound lineage active with ⟨earlier, rfl⟩
  have named : state.activeByForkId.get forkId = some found.forkPinDigest := by
    simpa using lineage.active
  exact ⟨active, verified, ((each_after_concat_iff _ _ _).mp lineage.ordered).2.forkId, named,
    expected.trans named, identities, allowed⟩

-- A reuse reads the fork's active pin and what was recorded beside it, and nothing else.
theorem reuse_kept (sound : SoundForks state) (ideal : Function.Injective Engine.sha256Hex)
    (reused : reuseProjectedFork state forkId capability = .ok pin)
    (ran : call.run state = .ok (after, new)) (other : call.fork ≠ forkId) :
    reuseProjectedFork after forkId capability = .ok pin := by
  rcases call_stores sound ran with ⟨⟨identities, rfl⟩, fresh, named, _⟩
  rcases reuse_facts sound reused with ⟨active, verified, own, digest, _, _⟩
  have different : new.core.forkId ≠ forkId := fun same => other (named.symm.trans same)
  have apart : new.forkPinDigest ≠ pin.forkPinDigest := fun same =>
    different ((pin_identity ideal fresh verified same).1.trans own)
  have same : (store state new identities).activeByForkId.get forkId = state.activeByForkId.get forkId :=
    Record.get_set_other _ _ different
  have still : activePin (store state new identities) forkId = activePin state forkId := by
    rw [activePin, same, activePin, digest]
    simp only [Option.bind_some, store, Record.get_set_other _ _ apart]
  have beside : (store state new identities).authoritySnapshotsByPin.get pin.forkPinDigest =
      state.authoritySnapshotsByPin.get pin.forkPinDigest := Record.get_set_other _ _ apart
  rw [← reused]
  simp only [reuseProjectedFork, still, same, active, required, ok_bind, beside]

theorem outdated_stale (ideal : Function.Injective Engine.sha256Hex) (sound : SoundForks state)
    (verified : verifyForkPin pin = .ok ()) (outdated : Outdated state forkId pin)
    {identities : ForkAuthoritySnapshotIdentitiesV1} (allowed : authenticate capability = .ok identities)
    (expected : capability.context.authorization.expectedActiveForkPinDigest = some pin.forkPinDigest) :
    reuseProjectedFork state forkId capability = .error .forkReuseStale := by
  have replaced : state.activeByForkId.get forkId ≠ some pin.forkPinDigest := by
    intro named
    rcases outdated with ⟨newer, stored, own, later⟩
    rcases sound.lineages forkId with ⟨workspaceId, runId, versions, lineage⟩
    have member := (lineage.stored newer).mp ⟨stored, own⟩
    have active := lineage.active
    rw [named, List.getLast?_map, eq_comm, Option.map_eq_some_iff] at active
    rcases active with ⟨last, ending, same⟩
    rcases List.getLast?_eq_some_iff.mp ending with ⟨earlier, rfl⟩
    -- the last version has the pin's number, and no version has a larger one
    have held := ((lineage.stored last).mpr (by simp)).1
    have version := (pin_identity ideal (sound.verified last held) verified same).2
    have number := ((each_after_concat_iff _ _ _).mp lineage.ordered).2.version
    have bound : newer.core.pinVersion ∈ List.range' 1 (earlier ++ [last]).length :=
      lineage_versions lineage.ordered ▸ List.mem_map_of_mem member
    rw [List.mem_range'_1, List.length_append, List.length_singleton] at bound
    omega
  simp only [reuseProjectedFork, allowed, ok_bind]
  cases activePin state forkId with
  | none => rfl
  | some found =>
      have stale := fun same => replaced (Eq.trans (Eq.symm same) expected)
      simp only [required, ok_bind, ensure, if_neg stale]
      rfl

theorem outdated_kept (ideal : Function.Injective Engine.sha256Hex) (sound : SoundForks state)
    (outdated : Outdated state forkId pin) (call : ForkCall) : Outdated (call.after state) forkId pin := by
  unfold ForkCall.after
  cases ran : call.run state with
  | error _ => exact outdated
  | ok result =>
      rcases result with ⟨after, new⟩
      rcases call_stores sound ran with ⟨⟨identities, rfl⟩, fresh, _⟩
      rcases outdated with ⟨newer, member, own, later⟩
      rcases (Record.mem_values_iff _ _).mp member with ⟨digest, found⟩
      by_cases same : new.forkPinDigest = digest
      · have identity := pin_identity ideal fresh (sound.verified newer member)
          (same.trans (sound.keyed digest newer found).symm)
        exact ⟨new, (Record.mem_values_iff _ _).mpr ⟨_, Record.get_set_same _ _ _⟩,
          identity.1.trans own, identity.2 ▸ later⟩
      · exact ⟨newer, (Record.mem_values_iff _ _).mpr
          ⟨digest, (Record.get_set_other _ _ same).trans found⟩, own, later⟩

theorem outdated_calls (ideal : Function.Injective Engine.sha256Hex) (calls : List ForkCall)
    {state : ForkProjectionV1} (sound : SoundForks state) (outdated : Outdated state forkId pin) :
    Outdated (calls.foldl ForkCall.after state) forkId pin := by
  induction calls generalizing state with
  | nil => exact outdated
  | cons call rest ih => exact ih (call_sound ideal sound call) (outdated_kept ideal sound outdated call)

/-- A pin that can be reused can be reused until a call on its fork is accepted, whatever happens
to other forks; from then on the capability is stale for good. -/
theorem reuse_until_moved (ideal : Function.Injective Engine.sha256Hex) (calls more : List ForkCall)
    (reused : reuseProjectedFork (calls.foldl ForkCall.after emptyForkProjection) forkId capability =
      .ok pin) :
    let state := calls.foldl ForkCall.after emptyForkProjection
    let later := (calls ++ more).foldl ForkCall.after emptyForkProjection
    (Moved forkId state more → reuseProjectedFork later forkId capability = .error .forkReuseStale) ∧
      (¬ Moved forkId state more → reuseProjectedFork later forkId capability = .ok pin) := by
  have sound := calls_sound ideal calls empty_sound
  simp only [List.foldl_append]
  generalize calls.foldl ForkCall.after emptyForkProjection = state at sound reused ⊢
  induction more generalizing state with
  | nil => exact ⟨False.elim, fun _ => reused⟩
  | cons call rest ih =>
      have next := call_sound ideal sound call
      rcases reuse_facts sound reused with ⟨active, verified, own, _, expected, identities, allowed⟩
      cases ran : call.run state with
      | error failure =>
          have same : call.after state = state := by rw [ForkCall.after, ran]
          simpa [Moved, same, ran] using ih state sound reused
      | ok result =>
          rcases result with ⟨after, new⟩
          have here : call.after state = after := by rw [ForkCall.after, ran]
          rw [here] at next
          by_cases hit : call.fork = forkId
          · -- the call's pin is a later version, and stays
            rcases call_stores sound ran with ⟨⟨_, stored⟩, _, named, version⟩
            have outdated : Outdated after forkId pin := ⟨new,
              stored ▸ (Record.mem_values_iff _ _).mpr ⟨_, Record.get_set_same _ _ _⟩,
              named.trans hit, by rw [version pin (hit ▸ active)]; omega⟩
            refine ⟨fun _ => ?_, fun still => absurd (Or.inl ⟨hit, _, ran⟩) still⟩
            rw [List.foldl_cons, here]
            exact outdated_stale ideal (calls_sound ideal rest next) verified
              (outdated_calls ideal rest next outdated) allowed expected
          · simpa [Moved, here, hit] using ih after next (reuse_kept sound ideal reused ran hit)

end Reuses

section Recorded

def cursorText : JsString :=
  js "\x7b\"kind\":\"composite\",\"runContextEpoch\":0," ++
  js "\"runEnvelopeHash\":\"h\",\"runId\":\"r\",\"runSequence\":1," ++
  js "\"schemaVersion\":\"1\",\"workspaceContextEpoch\":0," ++
  js "\"workspaceEnvelopeHash\":\"h\",\"workspaceId\":\"w\"," ++ js "\"workspaceSequence\":1\x7d"

def versionText : JsString :=
  js "\x7b\"kind\":\"composite\",\"observationCursor\":" ++ cursorText ++
  js ",\"runContextEpoch\":0,\"schemaVersion\":\"1\"," ++ js "\"workspaceContextEpoch\":0\x7d"

def forkDigests : List (JsString × JsString) :=
  [(js "horseness.delta-authority-scope.v1" ++ 0 :: (
        js "\x7b\"roots\":[\"\"],\"runId\":\"r\",\"schemaVersion\":\"1\"," ++
        js "\"taskId\":\"t\",\"workspaceId\":\"w\"\x7d"),
      js "a0fed94dae0a07de92c0798ee59f01db377e24f315dd242a06cce02ebda8d494"),
    (js "horseness.fork-source-snapshot.v1" ++ 0 :: (
        js "\x7b\"canonicalRevision\":0,\"canonicalStateHash\":\"s\"," ++
        js "\"contextVersion\":" ++ versionText ++
        js ",\"dependencyJoinSnapshotDigest\":\"d\",\"observationCursor\":" ++ cursorText ++
        js ",\"pinnedPolicyDigest\":\"p\",\"runId\":\"r\",\"schemaVersion\":\"1\"," ++
        js "\"scope\":\x7b\"roots\":[\"\"],\"runId\":\"r\",\"schemaVersion\":\"1\"," ++
        js "\"taskId\":\"t\",\"workspaceId\":\"w\"\x7d,\"workspaceId\":\"w\"\x7d"),
      js "ba7da7d0ddbcfb10a62150750893d967c27c5667e73d66c66c72d411197859f1"),
    (js "horseness.fork-authorization-snapshot.v1" ++ 0 :: (
        js "\x7b\"contextVersion\":" ++ versionText ++
        js ",\"currentPolicyDigest\":\"c\",\"grantDigest\":\"g\"," ++
        js "\"observationCursor\":" ++ cursorText ++
        js ",\"pinnedPolicyDigest\":\"p\",\"principalId\":\"u\"," ++
        js "\"quotaAvailable\":true,\"quotaDigest\":\"k\",\"quotaId\":\"q\"," ++
        js "\"revoked\":false,\"runId\":\"r\",\"schemaVersion\":\"1\"," ++
        js "\"workspaceId\":\"w\"\x7d"),
      js "ecb49daf5863407ecc039171aa6b9fa88867bf86cece3fbf3a1f2f9281659def"),
    (js "horseness.fork-pin-core.v1" ++ 0 :: (
        js "\x7b\"ancestry\":[],\"canonicalRevision\":0," ++
        js "\"canonicalStateHash\":\"s\",\"canonicalizerVersion\":\"jcs-v1\"," ++
        js "\"createdByGrantDigest\":\"g\",\"createdByPrincipalId\":\"u\"," ++
        js "\"deltaAuthorityScopeDigest\":\"a0fed94dae0a07de92c0798ee59f01db377e24f315dd242a06cce02ebda8d494\"," ++
        js "\"dependencyJoinSnapshotDigest\":\"d\",\"forkId\":\"f\"," ++
        js "\"hashVersion\":\"sha256-v1\",\"parentForkPinDigest\":null," ++
        js "\"pinVersion\":1,\"pinnedPolicyDigest\":\"p\"," ++
        js "\"refreshesForkPinDigest\":null,\"runId\":\"r\",\"schemaVersion\":\"1\"," ++
        js "\"sourceContextVersion\":" ++ versionText ++ js ",\"sourceObservationCursor\":" ++
        cursorText ++ js ",\"workspaceId\":\"w\"\x7d"),
      js "94f02912afe29ccb7cc6d03aac2946920addcd20d4e13fbd4111be557b23caf3"),
    (js "horseness.fork-pin-core.v1" ++ 0 :: (
        js "\x7b\"ancestry\":[\"94f02912afe29ccb7cc6d03aac2946920addcd20d4e13fbd4111be557b23caf3\"]," ++
        js "\"canonicalRevision\":0,\"canonicalStateHash\":\"s\"," ++
        js "\"canonicalizerVersion\":\"jcs-v1\",\"createdByGrantDigest\":\"g\"," ++
        js "\"createdByPrincipalId\":\"u\"," ++
        js "\"deltaAuthorityScopeDigest\":\"a0fed94dae0a07de92c0798ee59f01db377e24f315dd242a06cce02ebda8d494\"," ++
        js "\"dependencyJoinSnapshotDigest\":\"d\",\"forkId\":\"f\"," ++
        js "\"hashVersion\":\"sha256-v1\"," ++
        js "\"parentForkPinDigest\":\"94f02912afe29ccb7cc6d03aac2946920addcd20d4e13fbd4111be557b23caf3\"," ++
        js "\"pinVersion\":2,\"pinnedPolicyDigest\":\"p\"," ++
        js "\"refreshesForkPinDigest\":\"94f02912afe29ccb7cc6d03aac2946920addcd20d4e13fbd4111be557b23caf3\"," ++
        js "\"runId\":\"r\",\"schemaVersion\":\"1\",\"sourceContextVersion\":" ++ versionText ++
        js ",\"sourceObservationCursor\":" ++ cursorText ++ js ",\"workspaceId\":\"w\"\x7d"),
      js "099e5a95bb330838679ba40e3adf1876457cb2fe23cf5bc3a9540753908c15d9")]

@[reducible] def forkEngine : Engine :=
  { recordedEngine with sha256Hex := tableDigest forkDigests }

theorem fork_engine_ideal : Function.Injective forkEngine.sha256Hex :=
  table_injective (table_of_digests (by decide +kernel) (by decide +kernel))

attribute [local instance] forkEngine

def sampleCapability (expected : Option JsString) : ForkAuthorityCapabilityV1 where
  context :=
    { source :=
        { workspaceId := js "w"
          runId := js "r"
          observationCursor := sampleCursor
          contextVersion := .composite 0 0 sampleCursor
          canonicalRevision := 0
          canonicalStateHash := js "s"
          dependencyJoinSnapshotDigest := js "d"
          scope := ⟨js "w", js "r", js "t", [[]]⟩
          pinnedPolicyDigest := js "p" }
      authorization :=
        { workspaceId := js "w"
          runId := js "r"
          observationCursor := sampleCursor
          contextVersion := .composite 0 0 sampleCursor
          principalId := js "u"
          grantDigest := js "g"
          revoked := false
          pinnedPolicyDigest := js "p"
          currentPolicyDigest := js "c"
          quotaId := js "q"
          quotaDigest := js "k"
          quotaAvailable := true
          expectedActiveForkPinDigest := expected } }

def firstPin : JsString := js "94f02912afe29ccb7cc6d03aac2946920addcd20d4e13fbd4111be557b23caf3"

def secondPin : JsString := js "099e5a95bb330838679ba40e3adf1876457cb2fe23cf5bc3a9540753908c15d9"

def forkCalls : List ForkCall :=
  [.createProjectedFork (js "f") (sampleCapability none),
    .refreshProjectedFork (js "f") (sampleCapability (some firstPin))]

theorem fork_lineages_refreshed : ∃ workspaceId runId versions active,
    ForkLineage (forkCalls.foldl ForkCall.after emptyForkProjection) (js "f") workspaceId runId
      (versions ++ [active]) ∧ active.forkPinDigest = secondPin ∧
      (versions ++ [active]).map (fun pin => pin.core.pinVersion) =
        List.range' 1 (versions.length + 1) :=
  (fork_lineages fork_engine_ideal forkCalls).2.1 (js "f") secondPin (by decide +kernel)

/-- The pin of a fork is reused until the fork is refreshed. -/
theorem reuse_until_moved_refreshed : ∃ pin,
    reuseProjectedFork ((forkCalls.take 1).foldl ForkCall.after emptyForkProjection) (js "f")
      (sampleCapability (some firstPin)) = .ok pin ∧
    reuseProjectedFork (forkCalls.foldl ForkCall.after emptyForkProjection) (js "f")
      (sampleCapability (some firstPin)) = .error .forkReuseStale := by
  have made : endsIn (fun _ => true) (reuseProjectedFork
      ((forkCalls.take 1).foldl ForkCall.after emptyForkProjection) (js "f")
      (sampleCapability (some firstPin))) = true := by decide +kernel
  have moved : endsIn (fun _ => true) (ForkCall.run
      (.refreshProjectedFork (js "f") (sampleCapability (some firstPin)))
      ((forkCalls.take 1).foldl ForkCall.after emptyForkProjection)) = true := by decide +kernel
  obtain ⟨pin, reused, _⟩ := ends_in_exists made
  obtain ⟨result, ran, _⟩ := ends_in_exists moved
  exact ⟨pin, reused, (reuse_until_moved fork_engine_ideal (forkCalls.take 1) (forkCalls.drop 1)
    reused).1 (.inl ⟨rfl, result, ran⟩)⟩

end Recorded

end Horseness.ForkLineages
