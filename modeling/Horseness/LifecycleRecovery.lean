import Horseness.HostLifecycle

/-!
What a lifecycle operation and the retries after it leave of the managed target and its owner
marker, wherever the process stops and whichever of the allowed steps fail.
-/

namespace Horseness.LifecycleRecovery

open CrashScripts Folders InstallerVersions InstallerJournal HostLifecycle

def generationOf (entry : Contribution) : List StoredFile := entry.files.map (·.toStoredFile)

/-- The faults under which the prior generation is not lost: no step fails before the prior
generation is recorded as retained, the process does not stop between retaining and recording
it, and a compensation that is recorded runs to the removal of the state. -/
def careful : Faults Step where
  mayFail := fun step => step ∉ [.clearStaged, .makeStaged, .fillStaged, .verifyStaged,
    .persist .staged, .settle .staged, .append .staged, .findRetained, .clearRetained,
    .makeGenerations, .retain, .persist .priorRetained, .settle .compensating,
    .append .compensating, .findTarget, .clearTarget, .findPrior, .restore, .restoreMarker,
    .dropStaged, .dropState]
  mayStop := fun step => step ∉ [.persist .priorRetained, .settle .compensating,
    .append .compensating, .findTarget, .clearTarget, .findPrior, .restore, .restoreMarker,
    .dropStaged, .dropState]

def sure : Faults Step where
  mayFail := fun step => match step with
    | .hook _ => true
    | _ => false
  mayStop := careful.mayStop

/-- An unfinished lifecycle that has already written its owner marker. -/
def markerWritten (host : Host) : Bool :=
  match host.files.marker, host.files.lifecycle with
  | some marker, some state => state.phase ≠ .healthy && marker.operationId == state.transactionId
  | _, _ => false

def faultsAt (host : Host) : Faults Step := if markerWritten host then sure else careful

section Standings

variable {entry : Contribution} {digest : String} {prior : List StoredFile}
  {existing : OwnerMarker}

/-- A recorded state of the lifecycle from the prior generation to the requested one. -/
structure Begun (digest : String) (existing : OwnerMarker) (state : LifecycleState) : Prop where
  requested : state.requestedDigest = digest
  target : state.target = .target
  staged : state.staged = .staged digest state.transactionId
  retained : state.retained = .retained existing.releaseManifestDigest
  tokens : isToken state.transactionId = true ∧ isToken state.requestedVersion = true

theorem Begun.enter {state : LifecycleState} (begun : Begun digest existing state)
    (phase : Phase) : Begun digest existing { state with phase := phase } :=
  ⟨begun.requested, begun.target, begun.staged, begun.retained, begun.tokens⟩

/-- The marker of the requested generation, as this lifecycle writes it. -/
def Renewed (digest : String) (state : LifecycleState) (marker : OwnerMarker) : Prop :=
  marker.releaseManifestDigest = digest ∧ marker.operationId = state.transactionId

/-- What a host may stand at between two calls. -/
inductive Standing (entry : Contribution) (digest : String) (prior : List StoredFile)
    (existing : OwnerMarker) (host : Host) : Prop where
  | idle (marker : host.files.marker = some existing)
      (target : host.folders .target = some prior)
      (rest : ∀ state, host.files.lifecycle = some state → state.phase = .healthy)
  | staging {state : LifecycleState} (begun : Begun digest existing state)
      (lifecycle : host.files.lifecycle = some state) (phase : state.phase = .staging)
      (marker : host.files.marker = some existing) (target : host.folders .target = some prior)
  | staged {state : LifecycleState} (begun : Begun digest existing state)
      (lifecycle : host.files.lifecycle = some state) (phase : state.phase = .staged)
      (marker : host.files.marker = some existing) (target : host.folders .target = some prior)
      (next : host.folders state.staged = some (generationOf entry))
  | retained {state : LifecycleState} (begun : Begun digest existing state)
      (lifecycle : host.files.lifecycle = some state) (phase : state.phase = .priorRetained)
      (marker : host.files.marker = some existing) (kept : host.folders state.retained = some prior)
      (next : host.folders .target = none ∧ host.folders state.staged = some (generationOf entry) ∨
        host.folders .target = some (generationOf entry) ∧ host.folders state.staged = none)
  | activated {state : LifecycleState} (begun : Begun digest existing state)
      (lifecycle : host.files.lifecycle = some state) (phase : state.phase = .activated)
      (marker : host.files.marker = some existing ∨
        ∃ renewed, host.files.marker = some renewed ∧ Renewed digest state renewed)
      (kept : host.folders state.retained = some prior)
      (target : host.folders .target = some (generationOf entry))
  | healthy {state : LifecycleState} {renewed : OwnerMarker}
      (lifecycle : host.files.lifecycle = some state) (phase : state.phase = .healthy)
      (marker : host.files.marker = some renewed) (names : renewed.releaseManifestDigest = digest)
      (target : host.folders .target = some (generationOf entry))

variable {faults : Faults Step} {host : Host}

-- Nothing here reads the journal.
def noting (host : Host) (journal : List JournalEntry) : Host :=
  host.write fun files => { files with journal := journal }

@[simp] theorem noting_folders (journal : List JournalEntry) :
    (noting host journal).folders = host.folders := rfl

@[simp] theorem noting_marker (journal : List JournalEntry) :
    (noting host journal).files.marker = host.files.marker := rfl

@[simp] theorem noting_lifecycle (journal : List JournalEntry) :
    (noting host journal).files.lifecycle = host.files.lifecycle := rfl

def recording (host : Host) (state : LifecycleState) : Host :=
  host.write fun files => { files with lifecycle := some state }

def marking (host : Host) (marker : OwnerMarker) : Host :=
  host.write fun files => { files with marker := some marker }

theorem append_meets {post : Post Host (Trouble Step Refusal) Unit}
    {operation : JournalOperation} {transactionId releaseVersion detailDigest : String}
    (stopped : faults.mayStop (.append operation) = true →
      ∀ journal, post.stopped (noting host journal))
    (threw : faults.mayFail (.append operation) = true →
      ∀ journal, post.threw (.broken (.append operation)) (noting host journal))
    (refused : ¬(isToken transactionId = true ∧ isToken releaseVersion = true) →
      post.threw (.refused .invalidJournalPayload) host)
    (returned : isToken transactionId = true ∧ isToken releaseVersion = true →
      ∀ journal, post.returned () (noting host journal)) :
    Meets faults post (append operation transactionId releaseVersion detailDigest) host := by
  rw [append, meets_bind, meets_refuse_unless]
  refine ⟨fun accepted => meets_bind.2 ?_, refused⟩
  rw [meets_step]
  refine ⟨fun may => stopped may host.files.journal, fun may => threw may host.files.journal, ?_⟩
  exact meets_step.2 ⟨fun may => stopped may _, fun may => threw may _, returned accepted _⟩

theorem persist_meets {post : Post Host (Trouble Step Refusal) Unit} {state : LifecycleState}
    {phase : Phase} (before : faults.mayStop (.persist phase) = true → post.stopped host)
    (after : faults.mayStop (.settle phase) = true →
      post.stopped (recording host { state with phase := phase }))
    (early : faults.mayFail (.persist phase) = true → post.threw (.broken (.persist phase)) host)
    (late : faults.mayFail (.settle phase) = true →
      post.threw (.broken (.settle phase)) (recording host { state with phase := phase }))
    (returned : post.returned () (recording host { state with phase := phase })) :
    Meets faults post (persist state phase) host :=
  write_atomic_meets before after early late returned

-- Looking a place up first makes no difference to what its removal leaves.
theorem remove_existing_meets {post : Post Host (Trouble Step Refusal) Unit}
    {finding clearing : Step} {place : Place}
    (unmoved : (faults.mayStop finding = true → post.stopped host) ∧
      (faults.mayFail finding = true → post.threw (.broken finding) host))
    (inside : ∀ part, (faults.mayStop clearing = true → post.stopped (host.put place part)) ∧
      (faults.mayFail clearing = true → post.threw (.broken clearing) (host.put place part)))
    (returned : post.returned () (host.put place none)) :
    Meets faults post (removeExisting finding clearing place) host := by
  rw [removeExisting, meets_bind]
  refine meets_ask.2 ⟨unmoved.1, unmoved.2, ?_⟩
  dsimp only
  split
  · exact remove_meets inside returned
  · rename_i absent
    rw [Bool.not_eq_true, Option.isSome_eq_false_iff, Option.isNone_iff_eq_none] at absent
    rw [← absent, Disk.put_found] at returned
    exact returned

theorem rename_existing_meets {post : Post Host (Trouble Step Refusal) Unit}
    {finding moving : Step} {source destination : Place} {pieces : List StoredFile}
    (found : host.folders source = some pieces) (absent : host.folders destination = none)
    (unmoved : ∀ label, label = finding ∨ label = moving →
      (faults.mayStop label = true → post.stopped host) ∧
      (faults.mayFail label = true → post.threw (.broken label) host))
    (returned : post.returned () ((host.put destination (some pieces)).put source none)) :
    Meets faults post (renameExisting finding moving source destination) host := by
  rw [renameExisting, pathExists, meets_bind]
  refine meets_ask.2 ⟨(unmoved finding (.inl rfl)).1, (unmoved finding (.inl rfl)).2, ?_⟩
  simp only [found, Option.isSome_some, if_true]
  refine rename_meets (unmoved moving (.inr rfl)).1 (fun refused => ?_) fun other source => ?_
  · refine (unmoved moving (.inr rfl)).2 (refused.resolve_right fun blocked => ?_)
    simp [renamed, found, absent] at blocked
  · cases found.symm.trans source
    exact returned

theorem hook_meets {post : Post Host (Trouble Step Refusal) Unit} {point : CrashPoint}
    (stopped : post.stopped host) (threw : post.threw (.refused .injectedCrash) host)
    (returned : post.returned () host) : Meets faults post (hook point) host :=
  ⟨fun _ => stopped, fun _ => threw, returned⟩

variable [ContentDigests]

open ContentDigests

/-- `validateBundle` has compared every file with its digest and ordered the paths. -/
structure Sound (entry : Contribution) : Prop where
  digests : ∀ file ∈ entry.files, installerSha256 file.bytes = file.contentDigest
  paths : (entry.files.map (·.path)).Nodup

theorem generation_verified (sound : Sound entry) : verified entry (generationOf entry) := by
  intro file member
  refine ⟨file.toStoredFile, ?_, sound.digests file member⟩
  have paths := sound.paths
  unfold generationOf
  generalize entry.files = files at member paths
  induction files with
  | nil => exact absurd member (by simp)
  | cons first rest ih =>
      simp only [List.map_cons, List.nodup_cons, List.mem_map, not_exists, not_and] at paths
      rcases List.mem_cons.1 member with rfl | inner
      · simp
      · have other : first.path ≠ file.path := fun same => paths.1 file inner same.symm
        simp only [List.map_cons, List.find?_cons, other, decide_false]
        exact ih inner paths.2

theorem verify_meets {post : Post Host (Trouble Step Refusal) Unit} {label : Step}
    {place : Place} (sound : Sound entry) (found : host.folders place = some (generationOf entry))
    (stopped : faults.mayStop label = true → post.stopped host)
    (threw : faults.mayFail label = true → post.threw (.broken label) host)
    (returned : post.returned () host) :
    Meets faults post (verifyContributionBytes label entry place) host := by
  rw [verifyContributionBytes, meets_bind, meets_ask]
  refine ⟨stopped, threw, ?_⟩
  simp only [found]
  exact meets_refuse_unless.2 ⟨fun _ => returned,
    fun unverified => absurd (generation_verified sound) unverified⟩

/-- Wherever the `try` block ends. What it throws, a hook's crash apart, finds the prior
generation retained. -/
def trying (entry : Contribution) (digest : String) (prior : List StoredFile)
    (existing : OwnerMarker) (returned : Unit → Host → Prop) :
    Post Host (Trouble Step Refusal) Unit where
  stopped := Standing entry digest prior existing
  threw := fun failure after => Standing entry digest prior existing after ∧
    (failure ≠ .refused .injectedCrash →
      after.folders (.retained existing.releaseManifestDigest) = some prior)
  returned := returned

/-- The phase is recorded and the requested generation is staged beside the prior one. -/
structure Staged (entry : Contribution) (prior : List StoredFile) (existing : OwnerMarker)
    (state : LifecycleState) (host : Host) : Prop where
  lifecycle : host.files.lifecycle = some { state with phase := .staged }
  marker : host.files.marker = some existing
  target : host.folders .target = some prior
  next : host.folders state.staged = some (generationOf entry)

theorem stage_section {call : Call} {state : LifecycleState} (sound : Sound call.entry)
    (begun : Begun digest existing state) (lifecycle : host.files.lifecycle = some state)
    (phase : state.phase = .staging) (marker : host.files.marker = some existing)
    (target : host.folders .target = some prior) :
    Meets careful (trying call.entry digest prior existing fun _ =>
      Staged call.entry prior existing state) (stageSection call state) host := by
  have apart : Place.target ≠ state.staged := by rw [begun.staged]; simp
  have stays : ∀ part, Standing call.entry digest prior existing (host.put state.staged part) :=
    fun part => .staging begun lifecycle phase marker (by rw [Disk.put_other _ _ apart, target])
  rw [stageSection, stageGeneration, meets_bind, meets_bind]
  refine remove_meets (fun part => ⟨fun _ => stays part, fun may => absurd may (by decide)⟩) ?_
  refine meets_bind.2 (meets_step.2 ⟨fun _ => stays _, fun may => absurd may (by decide), ?_⟩)
  simp only [Disk.put_same, Option.getD_none, Disk.put_put]
  refine meets_bind.2 (fill_meets (fun part _ => ⟨fun _ => stays _,
    fun may => absurd may (by decide)⟩) ?_)
  have next : (host.put state.staged (some ([] ++ generationOf call.entry))).folders state.staged =
      some (generationOf call.entry) := by simp
  refine verify_meets sound next (fun _ => stays _) (fun may => absurd may (by decide)) ?_
  have staged : ∀ journal, Standing call.entry digest prior existing (noting (recording
      (host.put state.staged (some ([] ++ generationOf call.entry)))
      { state with phase := .staged }) journal) := fun journal =>
    .staged (begun.enter .staged) rfl rfl marker ((Disk.put_other _ _ apart).trans target) next
  refine meets_bind.2 (persist_meets (fun _ => stays _) (fun _ => staged _)
    (fun may => absurd may (by decide)) (fun may => absurd may (by decide)) (meets_bind.2 ?_))
  refine append_meets (fun _ journal => staged journal) (fun may => absurd may (by decide))
    (fun refused => absurd begun.tokens refused) fun _ journal => ?_
  refine hook_meets (staged journal) ⟨staged journal, fun other => absurd rfl other⟩
    ⟨rfl, marker, (Disk.put_other _ _ apart).trans target, next⟩

/-- The prior generation is recorded as retained, the requested one not yet activated. -/
structure Retained (entry : Contribution) (prior : List StoredFile) (existing : OwnerMarker)
    (state : LifecycleState) (host : Host) : Prop where
  lifecycle : host.files.lifecycle = some { state with phase := .priorRetained }
  marker : host.files.marker = some existing
  kept : host.folders state.retained = some prior
  target : host.folders .target = none
  next : host.folders state.staged = some (generationOf entry)

omit [ContentDigests] in
theorem retain_section {state : LifecycleState} (begun : Begun digest existing state)
    (staged : Staged entry prior existing state host) :
    Meets careful (trying entry digest prior existing fun _ =>
      Retained entry prior existing state) (retainSection state) host := by
  have aside : Place.target ≠ state.retained := by rw [begun.retained]; simp
  have apart : state.staged ≠ state.retained := by rw [begun.staged, begun.retained]; simp
  have away : state.staged ≠ .target := by rw [begun.staged]; simp
  have stays : ∀ part, Standing entry digest prior existing (host.put state.retained part) :=
    fun part => .staged (begun.enter .staged) staged.lifecycle rfl staged.marker
      ((Disk.put_other _ _ aside).trans staged.target) ((Disk.put_other _ _ apart).trans staged.next)
  have here := stays (host.folders state.retained)
  rw [Disk.put_found] at here
  rw [retainSection, meets_bind]
  refine remove_existing_meets ⟨fun _ => here, fun may => absurd may (by decide)⟩
    (fun part => ⟨fun _ => stays part, fun may => absurd may (by decide)⟩) ?_
  refine meets_bind.2 (meets_step.2 ⟨fun _ => stays _, fun may => absurd may (by decide), ?_⟩)
  -- From the rename to the record of it the prior generation is known to no one.
  have source : (host.put state.retained none).folders state.target = some prior := by
    rw [begun.target, Disk.put_other _ _ aside, staged.target]
  refine meets_bind.2 (rename_meets (fun _ => stays _) (fun refused => ?_) fun pieces found => ?_)
  · rcases refused with may | blocked
    · exact absurd may (by decide)
    · simp [renamed, source] at blocked
  rw [id, source] at found
  cases found
  rw [begun.target, id, Disk.put_put]
  have kept : ((host.put state.retained (some prior)).put .target none).folders state.retained =
      some prior := (Disk.put_other _ _ aside.symm).trans (Disk.put_same _ _ _)
  have next : ((host.put state.retained (some prior)).put .target none).folders state.staged =
      some (generationOf entry) :=
    (Disk.put_other _ _ away).trans ((Disk.put_other _ _ apart).trans staged.next)
  have gone : ((host.put state.retained (some prior)).put .target none).folders .target = none :=
    Disk.put_same _ _ _
  have retained : ∀ journal, Standing entry digest prior existing (noting (recording
      ((host.put state.retained (some prior)).put .target none)
      { state with phase := .priorRetained }) journal) := fun journal =>
    .retained (begun.enter .priorRetained) rfl rfl staged.marker kept (.inl ⟨gone, next⟩)
  have saved : ((host.put state.retained (some prior)).put .target none).folders
      (.retained existing.releaseManifestDigest) = some prior := by
    rw [← begun.retained]
    exact kept
  refine meets_bind.2 (persist_meets (fun may => absurd may (by decide)) (fun _ => retained _)
    (fun may => absurd may (by decide)) (fun _ => ⟨retained _, fun _ => saved⟩)
    (meets_bind.2 ?_))
  refine append_meets (fun _ journal => retained journal)
    (fun _ journal => ⟨retained journal, fun _ => saved⟩)
    (fun _ => ⟨retained _, fun _ => saved⟩) fun _ journal => ?_
  exact hook_meets (retained journal) ⟨retained journal, fun _ => saved⟩
    ⟨rfl, staged.marker, kept, gone, next⟩

/-- The requested generation is activated, the prior one retained. -/
structure Activated (entry : Contribution) (prior : List StoredFile) (state : LifecycleState)
    (host : Host) : Prop where
  lifecycle : host.files.lifecycle = some { state with phase := .activated }
  kept : host.folders state.retained = some prior
  target : host.folders .target = some (generationOf entry)

omit [ContentDigests] in
theorem activate_section {state : LifecycleState} (begun : Begun digest existing state)
    (lifecycle : host.files.lifecycle = some { state with phase := .priorRetained })
    (marker : host.files.marker = some existing) (kept : host.folders state.retained = some prior)
    (next : host.folders .target = none ∧ host.folders state.staged = some (generationOf entry) ∨
      host.folders .target = some (generationOf entry) ∧ host.folders state.staged = none) :
    Meets careful (trying entry digest prior existing fun _ after =>
        Activated entry prior state after ∧ after.files.marker = some existing)
      (activateSection state) host := by
  have aside : state.retained ≠ .target := by rw [begun.retained]; simp
  have apart : state.retained ≠ state.staged := by rw [begun.staged, begun.retained]; simp
  have away : Place.target ≠ state.staged := by rw [begun.staged]; simp
  have stays : Standing entry digest prior existing host :=
    .retained (begun.enter .priorRetained) lifecycle rfl marker kept next
  have saved : host.folders (.retained existing.releaseManifestDigest) = some prior := by
    rw [← begun.retained]
    exact kept
  rw [activateSection, meets_bind]
  refine rename_meets (fun _ => stays) (fun _ => ⟨stays, fun _ => saved⟩) fun pieces found => ?_
  rw [begun.target]
  -- What was staged is the requested generation: a target that holds it leaves nothing staged.
  have pieces_eq : pieces = generationOf entry := by
    rcases next with ⟨_, staged⟩ | ⟨_, staged⟩
    · exact Option.some.inj (found.symm.trans staged)
    · rw [staged] at found
      exact absurd found (by simp)
  rw [pieces_eq]
  set moved := (host.put .target (some (generationOf entry))).put state.staged none with shape
  have target : moved.folders .target = some (generationOf entry) :=
    (Disk.put_other _ _ away).trans (Disk.put_same _ _ _)
  have kept : moved.folders state.retained = some prior :=
    (Disk.put_other _ _ apart).trans ((Disk.put_other _ _ aside).trans kept)
  have saved : moved.folders (.retained existing.releaseManifestDigest) = some prior := by
    rw [← begun.retained]
    exact kept
  have moving : Standing entry digest prior existing moved :=
    .retained (begun.enter .priorRetained) lifecycle rfl marker kept
      (.inr ⟨target, Disk.put_same _ _ _⟩)
  have activated : Standing entry digest prior existing
      (recording moved { state with phase := .activated }) :=
    .activated (begun.enter .activated) rfl rfl (.inl marker) kept target
  refine meets_bind.2 (persist_meets (fun _ => moving) (fun _ => activated)
    (fun _ => ⟨moving, fun _ => saved⟩) (fun _ => ⟨activated, fun _ => saved⟩) ?_)
  exact hook_meets activated ⟨activated, fun _ => saved⟩ ⟨⟨rfl, kept, target⟩, marker⟩

/-- The requested generation is in place and named by the marker. -/
def Done (entry : Contribution) (digest : String) (host : Host) : Prop :=
  host.folders .target = some (generationOf entry) ∧
    ∃ renewed, host.files.marker = some renewed ∧ renewed.releaseManifestDigest = digest

def Still (faults : Faults Step) : Prop :=
  ∀ label, faults.mayFail label = true → ∃ point, label = .hook point

theorem health_section {call : Call} {state : LifecycleState} (sound : Sound call.entry)
    (begun : Begun digest existing state) (requested : call.releaseManifestDigest = digest)
    (activated : Activated call.entry prior state host)
    (marker : host.files.marker = some existing ∨
      ∃ renewed, host.files.marker = some renewed ∧ Renewed digest state renewed) :
    Meets faults
      ⟨Standing call.entry digest prior existing, fun failure after =>
        Standing call.entry digest prior existing after ∧
          after.folders (.retained existing.releaseManifestDigest) = some prior ∧
          (failure ≠ .refused .injectedCrash → ¬Still faults),
        fun _ after => Standing call.entry digest prior existing after ∧
          Done call.entry digest after⟩
      (healthSection call state) host := by
  have loud : ∀ {label : Step}, (∀ point, label ≠ .hook point) → faults.mayFail label = true →
      ¬Still faults := fun plain may still => (still _ may).elim fun point => plain point
  have saved : host.folders (.retained existing.releaseManifestDigest) = some prior := by
    rw [← begun.retained]
    exact activated.kept
  have stays : Standing call.entry digest prior existing host :=
    .activated (begun.enter .activated) activated.lifecycle rfl marker activated.kept
      activated.target
  have fails : ∀ {label : Step} {after : Host}, (∀ point, label ≠ .hook point) →
      Standing call.entry digest prior existing after →
      after.folders (.retained existing.releaseManifestDigest) = some prior →
      faults.mayFail label = true → Standing call.entry digest prior existing after ∧
        after.folders (.retained existing.releaseManifestDigest) = some prior ∧
          ((Trouble.broken label : Trouble Step Refusal) ≠ .refused .injectedCrash →
            ¬Still faults) :=
    fun plain standing saved may => ⟨standing, saved, fun _ => loud plain may⟩
  rw [healthSection, begun.target, meets_bind]
  refine verify_meets sound activated.target (fun _ => stays) (fails (by simp) stays saved) ?_
  refine meets_bind.2 (meets_step.2 ⟨fun _ => stays, fails (by simp) stays saved, ?_⟩)
  have renewed : Renewed digest state (markerOf call state) := ⟨requested, rfl⟩
  have marked : ∀ versions, Standing call.entry digest prior existing
      ((marking host (markerOf call state)).write fun files =>
        { files with versions := versions }) := fun versions =>
    .activated (begun.enter .activated) activated.lifecycle rfl (.inr ⟨_, rfl, renewed⟩)
      activated.kept activated.target
  refine meets_bind.2 (write_atomic_meets (fun _ => stays) (fun _ => marked _)
    (fails (by simp) stays saved) (fails (by simp) (marked _) saved) ?_)
  refine meets_bind.2 (write_atomic_meets (fun _ => marked _) (fun _ => marked _)
    (fails (by simp) (marked _) saved) (fails (by simp) (marked _) saved) ?_)
  let versions := Function.update host.files.versions call.releaseManifestDigest
    (some call.releaseVersion)
  have healthy : ∀ journal, Standing call.entry digest prior existing
      (noting (recording ((marking host (markerOf call state)).write fun files =>
        { files with versions := versions }) { state with phase := .healthy }) journal) :=
    fun journal => .healthy rfl rfl rfl requested activated.target
  refine meets_bind.2 (persist_meets (fun _ => marked _) (fun _ => healthy _)
    (fails (by simp) (marked _) saved) (fails (by simp) (healthy _) saved) ?_)
  refine meets_bind.2 (append_meets (fun _ journal => healthy journal)
    (fun may journal => fails (by simp) (healthy journal) saved may)
    (fun refused => absurd begun.tokens refused) fun _ journal => ?_)
  exact hook_meets (healthy journal) ⟨healthy journal, saved, fun other => absurd rfl other⟩
    ⟨healthy journal, activated.target, _, rfl, requested⟩

omit [ContentDigests] in
-- A compensation that finds the prior generation retained puts it back.
theorem compensate_meets {state : LifecycleState} {failure : Trouble Step Refusal}
    (begun : Begun digest existing state) (stands : Standing entry digest prior existing host)
    (saved : failure ≠ .refused .injectedCrash →
      host.folders (.retained existing.releaseManifestDigest) = some prior) :
    Meets careful ⟨Standing entry digest prior existing,
        fun _ => Standing entry digest prior existing, fun _ _ => False⟩
      (compensate existing state failure) host := by
  by_cases crashed : failure = .refused .injectedCrash
  · simp only [compensate, if_pos crashed, meets_throw]
    exact stands
  have saved := saved crashed
  rw [← begun.retained] at saved
  have aside : state.retained ≠ .target := by rw [begun.retained]; simp
  have away : Place.target ≠ state.staged := by rw [begun.staged]; simp
  simp only [compensate, if_neg crashed]
  refine meets_bind.2 (persist_meets (fun _ => stands) (fun may => absurd may (by decide))
    (fun _ => stands) (fun may => absurd may (by decide)) (meets_bind.2 ?_))
  refine append_meets (fun may => absurd may (by decide)) (fun may => absurd may (by decide))
    (fun refused => absurd begun.tokens refused) fun _ journal => meets_bind.2 ?_
  set noted := noting (recording host { state with phase := .compensating }) journal
  have saved : noted.folders state.retained = some prior := saved
  -- No fault is allowed from here to the removal of the state.
  rw [begun.target]
  refine remove_existing_meets ⟨fun may => absurd may (by decide), fun may => absurd may (by decide)⟩
    (fun part => ⟨fun may => absurd may (by decide), fun may => absurd may (by decide)⟩)
    (meets_bind.2 ?_)
  have source : (noted.put .target none).folders state.retained = some prior :=
    (Disk.put_other _ _ aside).trans saved
  refine rename_existing_meets source (Disk.put_same _ _ _) ?_ (meets_bind.2 ?_)
  · rintro label (rfl | rfl)
    · exact ⟨fun may => absurd may (by decide), fun may => absurd may (by decide)⟩
    · exact ⟨fun may => absurd may (by decide), fun may => absurd may (by decide)⟩
  rw [Disk.put_put]
  set restored := (noted.put .target (some prior)).put state.retained none
  have target : restored.folders .target = some prior :=
    (Disk.put_other _ _ aside.symm).trans (Disk.put_same _ _ _)
  refine write_atomic_meets (fun may => absurd may (by decide)) (fun may => absurd may (by decide))
    (fun may => absurd may (by decide)) (fun may => absurd may (by decide)) (meets_bind.2 ?_)
  refine remove_meets (fun part => ⟨fun may => absurd may (by decide),
    fun may => absurd may (by decide)⟩) (meets_bind.2 (meets_step.2
      ⟨fun may => absurd may (by decide), fun may => absurd may (by decide), ?_⟩))
  have idle : ∀ journal, Standing entry digest prior existing (noting (Disk.write ((Disk.write
      restored fun files => { files with marker := some existing }).put state.staged none)
      fun files => { files with lifecycle := none }) journal) := fun journal =>
    .idle rfl ((Disk.put_other _ _ away).trans target) fun _ found => absurd found (by simp)
  exact meets_bind.2 (append_meets (fun _ journal => idle journal) (fun _ journal => idle journal)
    (fun _ => idle _) fun _ journal => idle journal)

omit [ContentDigests] in
theorem phase_same {state : LifecycleState} {phase : Phase} (same : state.phase = phase) :
    { state with phase := phase } = state := by
  cases state
  cases same
  rfl

theorem advance_meets {call : Call} {state : LifecycleState} (sound : Sound call.entry)
    (requested : call.releaseManifestDigest = digest)
    (stands : Standing call.entry digest prior existing host)
    (lifecycle : host.files.lifecycle = some state) (marker : host.files.marker = some existing)
    (unfinished : state.phase ≠ .healthy) :
    Begun digest existing state ∧ Meets careful
      (trying call.entry digest prior existing fun _ after =>
        Standing call.entry digest prior existing after ∧ Done call.entry digest after)
      (advance call state) host := by
  have health : Begun digest existing state → ∀ {after : Host},
      Activated call.entry prior state after → after.files.marker = some existing →
      Meets careful (trying call.entry digest prior existing fun _ after =>
        Standing call.entry digest prior existing after ∧ Done call.entry digest after)
        (healthSection call state) after := fun begun _ activated marker =>
    meets_mono (health_section sound begun requested activated (.inl marker))
      (fun _ holds => holds) (fun _ _ holds => ⟨holds.1, fun _ => holds.2.1⟩) fun _ _ holds => holds
  have activate : Begun digest existing state → ∀ {after : Host},
      Retained call.entry prior existing state after → Meets careful
        (trying call.entry digest prior existing fun _ after =>
          Standing call.entry digest prior existing after ∧ Done call.entry digest after)
        (activateSection state >>= fun _ => healthSection call state) after :=
    fun begun _ retained => meets_bind.2 (meets_mono (activate_section begun retained.lifecycle retained.marker
      retained.kept (.inl ⟨retained.target, retained.next⟩)) (fun _ holds => holds)
      (fun _ _ holds => holds) fun _ _ holds => health begun holds.1 holds.2)
  cases stands with
  | idle _ _ rest => exact absurd (rest state lifecycle) unfinished
  | healthy found phase =>
      cases lifecycle.symm.trans found
      exact absurd phase unfinished
  | staging begun found phase _ target =>
      cases lifecycle.symm.trans found
      refine ⟨begun, ?_⟩
      simp only [advance, phase]
      refine meets_bind.2 (meets_mono (stage_section sound begun lifecycle phase marker target)
        (fun _ holds => holds) (fun _ _ holds => holds) fun _ _ staged => meets_bind.2 ?_)
      exact meets_mono (retain_section begun staged) (fun _ holds => holds)
        (fun _ _ holds => holds) fun _ _ retained => activate begun retained
  | staged begun found phase _ target next =>
      cases lifecycle.symm.trans found
      refine ⟨begun, ?_⟩
      simp only [advance, phase]
      exact meets_bind.2 (meets_mono (retain_section begun
        ⟨by rw [phase_same phase, lifecycle], marker, target, next⟩) (fun _ holds => holds)
        (fun _ _ holds => holds) fun _ _ retained => activate begun retained)
  | retained begun found phase _ kept next =>
      cases lifecycle.symm.trans found
      refine ⟨begun, ?_⟩
      simp only [advance, phase]
      exact meets_bind.2 (meets_mono (activate_section begun (by rw [phase_same phase, lifecycle])
        marker kept next) (fun _ holds => holds) (fun _ _ holds => holds)
        fun _ _ holds => health begun holds.1 holds.2)
  | activated begun found phase _ kept target =>
      cases lifecycle.symm.trans found
      refine ⟨begun, ?_⟩
      simp only [advance, phase]
      exact health begun ⟨by rw [phase_same phase, lifecycle], kept, target⟩ marker

def calling (entry : Contribution) (digest : String) (prior : List StoredFile)
    (existing : OwnerMarker) : Post Host (Trouble Step Refusal) Unit where
  stopped := Standing entry digest prior existing
  threw := fun _ => Standing entry digest prior existing
  returned := fun _ after => Standing entry digest prior existing after ∧ Done entry digest after

omit [ContentDigests] in
theorem faults_careful (label : Step) :
    ((faultsAt host).mayStop label = true → careful.mayStop label = true) ∧
      ((faultsAt host).mayFail label = true → careful.mayFail label = true) := by
  unfold faultsAt
  split
  · refine ⟨fun may => may, fun may => ?_⟩
    cases label <;> first | rfl | exact absurd may (by simp [sure])
  · exact ⟨fun may => may, fun may => may⟩

omit [ContentDigests] in
theorem still_sure : Still sure := by
  intro label may
  cases label with
  | hook point => exact ⟨point, rfl⟩
  | _ => exact absurd may (by simp [sure])

-- A call goes on from a recorded state while the marker is still the prior one.
theorem resume_careful {call : Call} {state : LifecycleState} (sound : Sound call.entry)
    (requested : call.releaseManifestDigest = digest)
    (stands : Standing call.entry digest prior existing host)
    (lifecycle : host.files.lifecycle = some state) (marker : host.files.marker = some existing)
    (unfinished : state.phase ≠ .healthy) :
    Meets careful (calling call.entry digest prior existing)
      ((advance call state).handle (compensate existing state)) host := by
  rcases advance_meets sound requested stands lifecycle marker unfinished with ⟨begun, meets⟩
  refine meets_handle.2 (meets_mono meets (fun _ holds => holds) ?_ fun _ _ holds => holds)
  intro failure after thrown
  exact meets_mono (compensate_meets begun thrown.1 thrown.2) (fun _ holds => holds)
    (fun _ _ holds => holds) fun _ _ never => never.elim

theorem resume_meets {call : Call} {state : LifecycleState} {current : OwnerMarker}
    (sound : Sound call.entry) (requested : call.releaseManifestDigest = digest)
    (stands : Standing call.entry digest prior existing host)
    (lifecycle : host.files.lifecycle = some state) (found : host.files.marker = some current)
    (unfinished : state.phase ≠ .healthy) :
    Meets (faultsAt host) (calling call.entry digest prior existing)
      ((advance call state).handle (compensate current state)) host := by
  by_cases first : current = existing
  · subst first
    exact meets_fewer (fun label => (faults_careful label).1) (fun label => (faults_careful label).2)
      (resume_careful sound requested stands lifecycle found unfinished)
  · cases stands with
    | idle marker => exact absurd (Option.some.inj (found.symm.trans marker)) first
    | staging _ _ _ marker => exact absurd (Option.some.inj (found.symm.trans marker)) first
    | staged _ _ _ marker => exact absurd (Option.some.inj (found.symm.trans marker)) first
    | retained _ _ _ marker => exact absurd (Option.some.inj (found.symm.trans marker)) first
    | healthy recorded phase =>
        cases lifecycle.symm.trans recorded
        exact absurd phase unfinished
    | activated begun recorded phase marker kept target =>
        cases lifecycle.symm.trans recorded
        rcases marker with marker | ⟨renewed, marker, names, written⟩
        · exact absurd (Option.some.inj (found.symm.trans marker)) first
        cases found.symm.trans marker
        have faults : faultsAt host = sure := by
          simp [faultsAt, markerWritten, found, lifecycle, written, unfinished]
        rw [faults]
        simp only [advance, phase]
        refine meets_handle.2 (meets_mono (health_section sound begun requested
          ⟨by rw [phase_same phase, lifecycle], kept, target⟩ (.inr ⟨_, marker, names, written⟩))
          (fun _ holds => holds) (fun failure after thrown => ?_) fun _ _ holds => holds)
        have crashed : failure = .refused .injectedCrash :=
          not_not.1 fun other => thrown.2.2 other still_sure
        simp only [compensate, if_pos crashed, meets_throw]
        exact thrown.1

variable [Collation]

omit [ContentDigests] in
theorem begin_meets {call : Call} (tokens : isToken call.transactionId = true ∧
      isToken call.releaseVersion = true) (requested : call.releaseManifestDigest = digest)
    (marker : host.files.marker = some existing) (target : host.folders .target = some prior)
    (rest : ∀ state, host.files.lifecycle = some state → state.phase = .healthy) :
    Meets faults ⟨Standing entry digest prior existing,
        fun _ => Standing entry digest prior existing,
        fun state after => Standing entry digest prior existing after ∧
          after.files.lifecycle = some state ∧ state.phase = .staging ∧
          after.files.marker = some existing⟩
      (beginLifecycle call existing) host := by
  have stays : Standing entry digest prior existing host := .idle marker target rest
  have read : ∀ {post : Post Host (Trouble Step Refusal) String} {name : String},
      post.stopped host → (∀ text, post.returned text host) →
      Meets faults post (readVersion name) host := fun stopped returned =>
    meets_bind.2 (meets_handle.2 ⟨fun _ => stopped, fun _ => returned _, returned _⟩)
  rw [beginLifecycle, meets_bind]
  have compared : Meets faults ⟨Standing entry digest prior existing,
      fun _ => Standing entry digest prior existing, fun _ after => after = host⟩
      (installedVersion call existing) host := by
    unfold installedVersion
    split
    · exact rfl
    · exact read stays fun _ => rfl
  refine meets_mono compared (fun _ holds => holds) (fun _ _ holds => holds) ?_
  rintro other _ rfl
  refine meets_bind.2 (meets_refuse_unless.2 ⟨fun _ => meets_bind.2 ?_, fun _ => stays⟩)
  refine meets_refuse_unless.2 ⟨fun _ => meets_bind.2 (read stays fun text => ?_), fun _ => stays⟩
  have begun : Begun digest existing (begunState call existing text) :=
    ⟨requested, rfl, by rw [← requested]; rfl, rfl, tokens⟩
  have staging : ∀ journal, Standing entry digest prior existing
      (noting (recording _ (begunState call existing text)) journal) := fun journal =>
    .staging begun rfl rfl marker target
  refine meets_bind.2 (write_atomic_meets (fun _ => stays) (fun _ => staging _) (fun _ => stays)
    (fun _ => staging _) (meets_bind.2 ?_))
  exact append_meets (fun _ journal => staging journal) (fun _ journal => staging journal)
    (fun _ => staging _) fun _ journal => ⟨staging journal, rfl, rfl, marker⟩

-- A retry-install, from wherever the calls before it left the host.
theorem retry_meets {call : Call} (sound : Sound call.entry)
    (requested : call.releaseManifestDigest = digest) (retry : call.operation = .retryInstall)
    (stands : Standing call.entry digest prior existing host) :
    Meets (faultsAt host) (calling call.entry digest prior existing)
      (operateHostLifecycle call) host := by
  have marked : ∃ current, host.files.marker = some current := by
    cases stands with
    | idle marker => exact ⟨_, marker⟩
    | staging _ _ _ marker => exact ⟨_, marker⟩
    | staged _ _ _ marker => exact ⟨_, marker⟩
    | retained _ _ _ marker => exact ⟨_, marker⟩
    | healthy _ _ marker => exact ⟨_, marker⟩
    | activated _ _ _ marker =>
        rcases marker with marker | ⟨_, marker, _⟩
        · exact ⟨_, marker⟩
        · exact ⟨_, marker⟩
  rcases marked with ⟨current, found⟩
  rw [operateHostLifecycle, readMarker, meets_bind]
  refine meets_ask.2 ⟨fun _ => stands, fun _ => stands, ?_⟩
  simp only [found]
  refine meets_bind.2 (meets_refuse_unless.2 ⟨fun _ => meets_bind.2 ?_, fun _ => stands⟩)
  refine meets_ask.2 ⟨fun _ => stands, fun _ => stands, ?_⟩
  simp only [if_pos retry]
  cases lifecycle : host.files.lifecycle with
  | none => exact meets_bind.2 stands
  | some state =>
      refine meets_bind.2 (meets_bind.2 (meets_refuse_unless.2 ⟨fun unfinished => meets_bind.2 ?_,
        fun _ => stands⟩))
      exact meets_refuse_unless.2 ⟨fun _ => resume_meets sound requested stands lifecycle found
        unfinished, fun _ => stands⟩

-- The first call, on a host that has the prior generation installed.
theorem first_meets {call : Call} (sound : Sound call.entry)
    (tokens : isToken call.transactionId = true ∧ isToken call.releaseVersion = true)
    (requested : call.releaseManifestDigest = digest)
    (marker : host.files.marker = some existing) (target : host.folders .target = some prior)
    (rest : ∀ state, host.files.lifecycle = some state → state.phase = .healthy) :
    Meets (faultsAt host) (calling call.entry digest prior existing)
      (operateHostLifecycle call) host := by
  have stands : Standing call.entry digest prior existing host := .idle marker target rest
  by_cases retry : call.operation = .retryInstall
  · exact retry_meets sound requested retry stands
  have faults : faultsAt host = careful := by
    unfold faultsAt markerWritten
    cases lifecycle : host.files.lifecycle with
    | none => simp [marker]
    | some state => simp [marker, rest state lifecycle]
  rw [faults, operateHostLifecycle, readMarker, meets_bind]
  refine meets_ask.2 ⟨fun _ => stands, fun _ => stands, ?_⟩
  simp only [marker]
  refine meets_bind.2 (meets_refuse_unless.2 ⟨fun _ => meets_bind.2 ?_, fun _ => stands⟩)
  refine meets_ask.2 ⟨fun _ => stands, fun _ => stands, ?_⟩
  simp only [if_neg retry]
  refine meets_bind.2 (meets_mono (begin_meets tokens requested marker target rest)
    (fun _ holds => holds) (fun _ _ holds => holds) fun state after holds => ?_)
  exact resume_careful sound requested holds.1 holds.2.1 holds.2.2.2
    (by rw [holds.2.2.1]; decide)

abbrev Reached := Ending (Trouble Step Refusal) Unit × Host

def run (calls : List (Call × List Choice)) (reached : Reached) : Reached :=
  calls.foldl (fun reached call => follow call.2 (operateHostLifecycle call.1) reached.2) reached

/-- Every call is a retry of the same bundle, under the faults allowed where it begins. -/
def Careful (entry : Contribution) (digest : String) : List (Call × List Choice) → Host → Prop
  | [], _ => True
  | (call, choices) :: rest, host =>
      call.operation = .retryInstall ∧ call.entry = entry ∧ call.releaseManifestDigest = digest ∧
        permitted (faultsAt host) choices (operateHostLifecycle call) host = true ∧
        Careful entry digest rest (follow choices (operateHostLifecycle call) host).2

/-- The target holds the prior or the requested generation, and the marker names it. -/
def Whole (entry : Contribution) (digest : String) (prior : List StoredFile)
    (existing : OwnerMarker) (host : Host) : Prop :=
  host.folders .target = some prior ∧ host.files.marker = some existing ∨ Done entry digest host

theorem run_calling (calls : List (Call × List Choice)) :
    ∀ {reached : Reached}, Sound entry → Careful entry digest calls reached.2 →
      (calling entry digest prior existing).holds reached →
      (calling entry digest prior existing).holds (run calls reached) := by
  induction calls with
  | nil => exact fun _ _ holds => holds
  | cons first rest ih =>
      rintro ⟨ending, host⟩ sound ⟨retry, rfl, requested, allowed, careful⟩ holds
      refine ih sound careful (meets_follow (retry_meets sound requested retry ?_) allowed)
      cases ending with
      | stopped => exact holds
      | threw => exact holds
      | returned => exact holds.1

/-- A host with an installed generation and no lifecycle under way. -/
structure Installed (prior : List StoredFile) (existing : OwnerMarker) (host : Host) : Prop where
  marker : host.files.marker = some existing
  target : host.folders .target = some prior
  rest : ∀ state, host.files.lifecycle = some state → state.phase = .healthy

/-- After careful calls a success has put the requested generation in place, and a failure
that compensated leaves a whole generation with its own marker. -/
theorem lifecycle_recovers {first : Call} {choices : List Choice}
    {retries : List (Call × List Choice)} (sound : Sound first.entry)
    (tokens : isToken first.transactionId = true ∧ isToken first.releaseVersion = true)
    (installed : Installed prior existing host)
    (allowed : permitted (faultsAt host) choices (operateHostLifecycle first) host = true)
    (careful : Careful first.entry first.releaseManifestDigest retries
      (follow choices (operateHostLifecycle first) host).2) :
    let reached := run retries (follow choices (operateHostLifecycle first) host)
    (reached.1 = .returned () → Done first.entry first.releaseManifestDigest reached.2) ∧
      ∀ failure, reached.1 = .threw failure → reached.2.files.lifecycle = none →
        Whole first.entry first.releaseManifestDigest prior existing reached.2 := by
  intro reached
  have holds : (calling first.entry first.releaseManifestDigest prior existing).holds reached :=
    run_calling retries sound careful (meets_follow (first_meets sound tokens rfl installed.marker
      installed.target installed.rest) allowed)
  rcases shape : reached with ⟨ending, after⟩
  rw [shape] at holds
  constructor
  · rintro rfl
    exact holds.2
  · rintro failure rfl removed
    cases holds with
    | idle marker target => exact .inl ⟨target, marker⟩
    | staging _ lifecycle => exact absurd (removed.symm.trans lifecycle) (by simp)
    | staged _ lifecycle => exact absurd (removed.symm.trans lifecycle) (by simp)
    | retained _ lifecycle => exact absurd (removed.symm.trans lifecycle) (by simp)
    | activated _ lifecycle => exact absurd (removed.symm.trans lifecycle) (by simp)
    | healthy lifecycle => exact absurd (removed.symm.trans lifecycle) (by simp)

end Standings

section Recorded

@[reducible] def recordedContents : ContentDigests where
  installerSha256 := fun bytes =>
    if bytes = "new" then "11507a0e2f5e69d5dfa40a62a1bd7b6ee57e6bcd85c67c9b8431b36fff21c437"
    else "cba06b5736faf67e54b07b561eae94395e774c517a7d910a54369e1263ccfbd4"

@[reducible] def recordedCollation : Collation where
  localeCompare := fun left right => if left < right then -1 else if right < left then 1 else 0

attribute [local instance] recordedContents recordedCollation

def sampleMarker : OwnerMarker where
  scope := .user
  workspaceId := "workspace-1"
  accountId := "account-1"
  hostId := .pi
  releaseManifestDigest := "1111111111111111111111111111111111111111111111111111111111111111"
  packageDigest := "2222222222222222222222222222222222222222222222222222222222222222"
  sourceArtifactDigest := "3333333333333333333333333333333333333333333333333333333333333333"
  target := .target
  operationId := "0d3f5a2e-6c1b-4b57-9e0a-5f3c1d2b7a10"
  grantDigest := "grant-1"

def sampleEntry : Contribution where
  hostId := .pi
  packageDigest := "5555555555555555555555555555555555555555555555555555555555555555"
  sourceArtifactDigest := "6666666666666666666666666666666666666666666666666666666666666666"
  files := [⟨⟨"plugin.json", 384, "new"⟩,
    "11507a0e2f5e69d5dfa40a62a1bd7b6ee57e6bcd85c67c9b8431b36fff21c437"⟩]

def sampleCall (operation : Operation) (transactionId : String) : Call where
  operation := operation
  releaseVersion := "1.1.0"
  releaseManifestDigest := "4444444444444444444444444444444444444444444444444444444444444444"
  scope := .user
  accountId := "account-1"
  workspaceId := "workspace-1"
  entry := sampleEntry
  transactionId := transactionId
  grantDigest := "grant-2"

def sampleHost : Host where
  folders := fun place => if place = .target then some [⟨"plugin.json", 384, "old"⟩] else none
  files := ⟨some sampleMarker, none, fun digest =>
    if digest = sampleMarker.releaseManifestDigest then some "1.0.0" else none, []⟩

theorem sample_sound : Sound sampleEntry :=
  ⟨fun file member => by cases List.mem_singleton.1 member; decide, by decide⟩

theorem sample_installed : Installed [⟨"plugin.json", 384, "old"⟩] sampleMarker sampleHost :=
  ⟨rfl, rfl, fun _ found => absurd found (by simp [sampleHost])⟩

def sampleUpgrade : Call := sampleCall .upgrade "7b0c2d94-1f5e-4a3c-8d62-90be47a1c358"

def sampleRetry : Call := sampleCall .retryInstall "c29e6f01-7a48-4d1b-b3f5-2e8d0c917a64"

def upgraded (choices : List Choice) : Reached :=
  follow choices (operateHostLifecycle sampleUpgrade) sampleHost

def retried (reached : Reached) : Reached := run [(sampleRetry, List.replicate 40 .goes)] reached

/-- The process stops after the staged generation is renamed to the target and before that is
recorded; the retry finds nothing staged and puts the prior generation back. -/
theorem activation_compensated :
    (retried (upgraded (List.replicate 29 .goes))).1 = .threw (.broken .activate) ∧
      Whole sampleUpgrade.entry sampleUpgrade.releaseManifestDigest
        [⟨"plugin.json", 384, "old"⟩] sampleMarker
        (retried (upgraded (List.replicate 29 .goes))).2 := by
  have allowed : permitted (faultsAt sampleHost) (List.replicate 29 .goes)
      (operateHostLifecycle sampleUpgrade) sampleHost = true := by decide +kernel
  have careful : Careful sampleUpgrade.entry sampleUpgrade.releaseManifestDigest
      [(sampleRetry, List.replicate 40 .goes)]
      (follow (List.replicate 29 .goes) (operateHostLifecycle sampleUpgrade) sampleHost).2 :=
    ⟨rfl, rfl, rfl, by decide +kernel, trivial⟩
  have recovers := lifecycle_recovers (sample_sound : Sound sampleUpgrade.entry)
    (by decide +kernel) sample_installed allowed careful
  have threw : (retried (upgraded (List.replicate 29 .goes))).1 = .threw (.broken .activate) := by
    decide +kernel
  exact ⟨threw, recovers.2 _ threw (by decide +kernel)⟩

/-- The directory for the staged files cannot be made; the compensation removes the target and
finds nothing retained. -/
theorem unstaged_upgrade_loses :
    Installed [⟨"plugin.json", 384, "old"⟩] sampleMarker sampleHost ∧
    (upgraded (List.replicate 10 .goes ++ .fails :: List.replicate 40 .goes)).1 =
      .threw (.broken .makeStaged) ∧
    (upgraded (List.replicate 10 .goes ++ .fails :: List.replicate 40 .goes)).2.files.lifecycle =
      none ∧
    ¬Whole sampleUpgrade.entry sampleUpgrade.releaseManifestDigest
      [⟨"plugin.json", 384, "old"⟩] sampleMarker
      (upgraded (List.replicate 10 .goes ++ .fails :: List.replicate 40 .goes)).2 := by
  refine ⟨sample_installed, by decide +kernel, by decide +kernel, ?_⟩
  have target : (upgraded (List.replicate 10 .goes ++ .fails ::
      List.replicate 40 .goes)).2.folders .target = none := by decide +kernel
  rintro (kept | renewed)
  · exact absurd (target.symm.trans kept.1) (by simp)
  · exact absurd (target.symm.trans renewed.1) (by simp)

example : ((upgraded []).2.folders .target).isSome = true := by decide +kernel

end Recorded

end Horseness.LifecycleRecovery
