import Horseness.NativeSpool

/-!
Any number of sessions over one state directory, their calls interleaved and stopped anywhere.
The call that creates the marker is the only one to start the native process and to write the
terminal record. Until there is a marker, a launch gets through to the process unless an earlier
one has left a file of the guard.
-/

namespace Horseness.NativeHandoff

open FallibleRuns CrashScripts Interleaving ScriptText ScriptEngine TaskPlans AttemptReceipts
  NativeSpool

section Worlds

variable [Engine] {spool : NativeTaskSpoolV1} {Session Call : Type}

/-- What holds of the files and of the sessions at any time. -/
structure Sound (spool : NativeTaskSpoolV1) (world : World Session Call) : Prop where
  made : ∀ name, world.files name = .absent ↔ world.creators name = none
  once : world.starts.length ≤ 1
  started : world.starts ≠ [] → world.creators .marker ≠ none
  active : ∀ session, world.active session ≠ none → world.creators .marker ≠ none
  ended : world.creators .terminal ≠ none → world.creators .marker ≠ none
  settled : ∀ attempt record, world.settled attempt = some (.ok record) →
    world.files .terminal = .written (retain spool record)

/-- What a call may do: a file is the business of its creator, the process that of the creator of
the marker. -/
structure Changes (call : Call) (before after : World Session Call) : Prop where
  creators : ∀ name, after.creators name = before.creators name ∨
    (before.creators name = none ∧ after.creators name = some call)
  files : ∀ name, after.files name = before.files name ∨ after.creators name = some call
  written : ∀ name content, before.files name = .written content →
    after.files name = .written content
  starts : after.starts = before.starts ∨ before.creators .marker = some call

omit [Engine] in
theorem changes_same (call : Call) (world : World Session Call) : Changes call world world :=
  ⟨fun _ => .inl rfl, fun _ => .inl rfl, fun _ _ kept => kept, .inl rfl⟩

variable (spool) in
def pact : Pact (World Session Call) Call := ⟨Sound spool, Changes, changes_same⟩

theorem sound_fresh : Sound spool (World.fresh : World Session Call) :=
  ⟨fun _ => ⟨fun _ => rfl, fun _ => rfl⟩, Nat.zero_le 1, fun some_ => absurd rfl some_,
    fun _ some_ => absurd rfl some_, fun some_ => absurd rfl some_, nofun⟩

theorem present_lasting (name : FileName) :
    (pact spool).Lasting fun world : World Session Call => world.files name ≠ .absent := by
  intro call before after sound sound' changes here gone
  have creator := (sound'.made name).1 gone
  rcases changes.creators name with same | ⟨_, made⟩
  · exact here ((sound.made name).2 (same ▸ creator))
  · rw [creator] at made
    cases made

theorem written_lasting (name : FileName) (content : name.Content) :
    (pact spool).Lasting fun world : World Session Call => world.files name = .written content :=
  fun _ _ _ _ _ changes here => changes.written name content here

theorem created_stable (call : Call) (name : FileName) (held : FileState name.Content) :
    (pact spool).Stable call fun world : World Session Call =>
      world.creators name = some call ∧ world.files name = held := by
  intro other differs before after _ _ changes here
  have creator : after.creators name = some call := by
    rcases changes.creators name with same | ⟨absent, _⟩
    · exact same.trans here.1
    · rw [here.1] at absent
      cases absent
  refine ⟨creator, ?_⟩
  rcases changes.files name with same | mine
  · exact same.trans here.2
  · rw [creator] at mine
    exact absurd (Option.some.inj mine).symm differs

theorem unstarted_stable (call : Call) :
    (pact spool).Stable call fun world : World Session Call =>
      world.creators .marker = some call ∧ world.starts = [] := by
  intro other differs before after _ _ changes here
  have creator : after.creators .marker = some call := by
    rcases changes.creators .marker with same | ⟨absent, _⟩
    · exact same.trans here.1
    · rw [here.1] at absent
      cases absent
  refine ⟨creator, ?_⟩
  rcases changes.starts with same | mine
  · exact same.trans here.2
  · rw [here.1] at mine
    exact absurd (Option.some.inj mine).symm differs

def created (call : Call) (name : FileName) (world : World Session Call) : World Session Call :=
  { world with
    files := Function.update world.files name .empty
    creators := Function.update world.creators name (some call) }

def filled (name : FileName) (content : name.Content) (world : World Session Call) :
    World Session Call :=
  { world with files := Function.update world.files name (.written content) }

theorem created_sound {call : Call} {name : FileName} {world : World Session Call}
    (sound : Sound spool world) (absent : world.files name = .absent)
    (may : name = .terminal → world.creators .marker ≠ none) :
    Sound spool (created call name world) ∧ Changes call world (created call name world) := by
  have fresh := (sound.made name).1 absent
  have handed : world.creators .marker ≠ none →
      (created call name world).creators .marker ≠ none := by
    intro some_
    by_cases same : FileName.marker = name
    · subst same
      simp [created]
    · simpa [created, same] using some_
  refine ⟨⟨fun other => ?_, sound.once, fun some_ => handed (sound.started some_),
    fun session some_ => handed (sound.active session some_), fun some_ => handed ?_,
    fun attempt record ended => ?_⟩,
    ⟨fun other => ?_, fun other => ?_, fun other content here => ?_, .inl rfl⟩⟩
  · by_cases same : other = name
    · subst same
      simp [created]
    · simpa [created, same] using sound.made other
  · by_cases same : name = .terminal
    · exact may same
    · exact sound.ended (by simpa [created, Ne.symm same] using some_)
  · have kept := sound.settled attempt record ended
    have differs : FileName.terminal ≠ name := by
      rintro rfl
      rw [absent] at kept
      cases kept
    simpa [created, differs] using kept
  · by_cases same : other = name
    · subst same
      exact .inr ⟨fresh, by simp [created]⟩
    · exact .inl (by simp [created, same])
  · by_cases same : other = name
    · subst same
      exact .inr (by simp [created])
    · exact .inl (by simp [created, same])
  · have differs : other ≠ name := by
      rintro rfl
      rw [absent] at here
      cases here
    simpa [created, differs] using here

theorem filled_sound {call : Call} {name : FileName} {content : name.Content}
    {world : World Session Call} (sound : Sound spool world)
    (creator : world.creators name = some call) (empty : world.files name = .empty) :
    Sound spool (filled name content world) ∧ Changes call world (filled name content world) := by
  have keeps : ∀ other (held : other.Content), world.files other = .written held →
      (filled name content world).files other = .written held := by
    intro other held here
    have differs : other ≠ name := by
      rintro rfl
      rw [empty] at here
      cases here
    simpa [filled, differs] using here
  refine ⟨⟨fun other => ?_, sound.once, sound.started, sound.active, sound.ended,
    fun attempt record ended => keeps _ _ (sound.settled attempt record ended)⟩,
    ⟨fun _ => .inl rfl, fun other => ?_, keeps, .inl rfl⟩⟩
  · by_cases same : other = name
    · subst same
      simp [filled, creator]
    · simpa [filled, same] using sound.made other
  · by_cases same : other = name
    · subst same
      exact .inr creator
    · exact .inl (by simp [filled, same])

end Worlds

section Threads

variable [Engine] {spool : NativeTaskSpoolV1} {Session Call : Type} {call : Call}

/-- What a script of one call is to keep to, from any sound world on. -/
abbrev SecureCall {Result : Type} (spool : NativeTaskSpoolV1) (call : Call)
    (ends : Ends (World Session Call) (Trouble (Step Call) NativeRefusal) Result)
    (script : Action Session Call Result) (world : World Session Call) : Prop :=
  Secure conduct (pact spool) call ends script world

abbrev answers {Result : Type} (returned : Result → World Session Call → Prop) :
    Ends (World Session Call) (Trouble (Step Call) NativeRefusal) Result :=
  ⟨returned, fun _ _ => True⟩

theorem thrown {Result : Type} {returned : Result → World Session Call → Prop}
    (trouble : Trouble (Step Call) NativeRefusal) (world : World Session Call) :
    SecureCall spool call (answers returned) (.fails trouble) world :=
  secure_fails Pact.stable_true trivial

theorem chained {Result Answer : Type} {returned : Answer → World Session Call → Prop}
    {script : Action Session Call Result} {rest : Result → Action Session Call Answer}
    {world : World Session Call} (sound : Sound spool world)
    (secure : SecureCall spool call
      (answers fun result => SecureCall spool call (answers returned) (rest result)) script world) :
    SecureCall spool call (answers returned) (script >>= rest) world :=
  secure_bind secure sound

theorem followed {Result Answer : Type} {told : Result → World Session Call → Prop}
    {returned : Answer → World Session Call → Prop} {script : Action Session Call Result}
    {rest : Result → Action Session Call Answer} {world : World Session Call}
    (sound : Sound spool world) (first : SecureCall spool call (answers told) script world)
    (goes : ∀ result now, Sound spool now → told result now →
      SecureCall spool call (answers returned) (rest result) now) :
    SecureCall spool call (answers returned) (script >>= rest) world :=
  chained sound (secure_mono (secure_lasting Pact.lasting_true trivial sound first)
    (fun result now ended => goes result now ended.1 ended.2.2) fun _ _ _ => trivial)

variable {name : FileName} {content : name.Content} {asks knows : World Session Call → Prop}
  {returned : Unit → World Session Call → Prop}

-- `knows` is what the call has made sure of; the creation itself may have to establish it.
theorem write_new_secure (asked : (pact spool).Stable call asks)
    (may : ∀ world, Sound spool world → asks world → name = .terminal → world.creators .marker ≠ none)
    (stable : (pact spool).Stable call knows)
    (made : ∀ world, Sound spool world → world.files name = .absent →
      knows (created call name world))
    (fills : ∀ world, knows world → knows (filled name content world))
    (goes : ∀ world, Sound spool world → knows world → world.files name = .written content →
      returned () world)
    {world : World Session Call} (holds : asks world) :
    SecureCall spool call (answers returned) (writeNew call name content) world := by
  refine secure_attempt asked holds (fun now here known _ after effect => ?_)
    fun now _ _ => thrown _ now
  split at effect
  · rename_i absent
    cases effect
    have step : _ ∧ Changes call now (created call name now) :=
      created_sound here absent (may now here known)
    refine ⟨step.1, step.2, ?_⟩
    refine secure_act ((created_stable call name .empty).and stable)
      ⟨⟨Function.update_self .., Function.update_self ..⟩, made now here absent⟩
      (fun later there known _ => ?_) fun _ later _ _ => thrown _ later
    have step' : _ ∧ Changes call later (filled name content later) :=
      filled_sound there known.1.1 known.1.2
    refine ⟨step'.1, step'.2, fun last others sound' => ?_⟩
    have settled := (((written_lasting name content).stable call).and stable).kept others
      ⟨Function.update_self .., fills later known.2⟩
    exact goes last sound' settled.2 settled.1
  · cases effect

theorem exclusive_secure (asked : (pact spool).Stable call asks)
    (may : ∀ world, Sound spool world → asks world → name = .terminal → world.creators .marker ≠ none)
    (stable : (pact spool).Stable call knows)
    (made : ∀ world, Sound spool world → world.files name = .absent →
      knows (created call name world))
    (fills : ∀ world, knows world → knows (filled name content world))
    (goes : ∀ world, Sound spool world → knows world → world.files name = .written content →
      returned () world)
    {world : World Session Call} (sound : Sound spool world) (holds : asks world) :
    SecureCall spool call (answers returned) (exclusive call name content) world := by
  refine chained sound (write_new_secure asked may stable made fills
    (fun now here known written => ?_) holds)
  have kept := ((written_lasting name content).stable call).and stable
  refine secure_act kept ⟨written, known⟩ (fun later there still _ =>
    ⟨there, changes_same call later, fun last others sound' => ?_⟩)
    fun _ later _ _ => thrown _ later
  have final := kept.kept others still
  exact goes last sound' final.2 final.1

-- A file that nothing is to be known about but that it is written.
theorem exclusive_written (asked : (pact spool).Stable call asks)
    (may : ∀ world, Sound spool world → asks world → name = .terminal → world.creators .marker ≠ none)
    (goes : ∀ world, Sound spool world → world.files name = .written content → returned () world)
    {world : World Session Call} (sound : Sound spool world) (holds : asks world) :
    SecureCall spool call (answers returned) (exclusive call name content) world :=
  exclusive_secure asked may Pact.stable_true (fun _ _ _ => trivial) (fun _ _ => trivial)
    (fun world here _ written => goes world here written) sound holds

/-- What a call may answer: the record that is retained, and nothing only if it did not begin
after the handoff. -/
def Told (spool : NativeTaskSpoolV1) (handed : Prop) :
    Option NativeTaskTerminalV1 → World Session Call → Prop
  | some record, world => world.files .terminal = .written (retain spool record)
  | none, _ => ¬handed

def Retained (spool : NativeTaskSpoolV1) (record : NativeTaskTerminalV1)
    (world : World Session Call) : Prop :=
  world.files .terminal = .written (retain spool record)

theorem retained_stable (call : Call) (record : NativeTaskTerminalV1) :
    (pact spool).Stable call (Retained spool record : World Session Call → Prop) :=
  (written_lasting .terminal (retain spool record)).stable call

theorem told_stable {handed : Prop} (result : Option NativeTaskTerminalV1) :
    (pact spool).Stable call (Told spool handed result : World Session Call → Prop) := by
  cases result with
  | none => exact fun _ _ _ _ _ _ _ here => here
  | some record => exact retained_stable call record

theorem answered {handed : Prop} {result : Option NativeTaskTerminalV1}
    {world : World Session Call} (told : Told spool handed result world) :
    SecureCall spool call (answers (Told spool handed)) (.done result) world :=
  secure_done (told_stable result) told

section Reads

variable {Result Answer : Type} {told : Result → World Session Call → Prop}

theorem find_then {rest : FileState name.Content → Action Session Call Result}
    (stable : (pact spool).Stable call knows) {world : World Session Call} (holds : knows world)
    (goes : ∀ now, Sound spool now → knows now →
      SecureCall spool call (answers told) (rest (now.files name)) now) :
    SecureCall spool call (answers told) (find spool name >>= rest) world := by
  refine secure_transact stable holds (fun now sound known _ result after found => ?_)
    (fun now _ _ refusal _ => thrown _ now) fun _ now _ _ => thrown _ now
  have same : after = now ∧ result = now.files name := by
    split at found
    · rename_i content here
      rcases bind_ok_iff.1 found with ⟨_, _, same⟩
      cases same
      exact ⟨rfl, here.symm⟩
    · cases found
      exact ⟨rfl, rfl⟩
  rw [same.1, same.2]
  exact ⟨sound, changes_same call now, goes now sound known⟩

theorem find_quiet : Quiet (find spool name : Action Session Call (FileState name.Content)) := by
  refine quiet_transact fun found result after body => ?_
  split at body
  · rcases bind_ok_iff.1 body with ⟨_, _, same⟩
    cases same
    rfl
  · cases body
    rfl

theorem private_read_quiet (text : name.Content → JsString) :
    Quiet (privateRead spool name text : Action Session Call JsString) :=
  quiet_bind find_quiet fun found => by cases found <;> trivial

theorem check_quiet : Quiet (check spool : Action Session Call Bool) :=
  quiet_bind find_quiet fun _ => quiet_bind quiet_refuse_unless fun _ => trivial

theorem publication_quiet (digest : JsString) :
    Quiet (publication spool digest : Action Session Call NativeTaskPublicationV1) := by
  have bytes : Quiet (privateRead spool (.bytes digest) id : Action Session Call JsString) :=
    private_read_quiet _
  have media : Quiet (privateRead spool (.media digest) id : Action Session Call JsString) :=
    private_read_quiet _
  exact quiet_bind quiet_refuse_unless fun _ => quiet_bind check_quiet fun _ =>
    quiet_bind quiet_refuse_unless fun _ => quiet_bind bytes fun _ =>
      quiet_bind quiet_refuse_unless fun _ => quiet_bind media fun _ =>
        quiet_bind quiet_refuse_unless fun _ => trivial

theorem evidence_quiet (evidence : List ReceiptEvidenceV1) :
    Quiet (validateEvidence spool evidence : Action Session Call Unit) := by
  induction evidence with
  | nil => trivial
  | cons item rest ih =>
      exact quiet_bind (publication_quiet item.digest) fun _ =>
        quiet_bind quiet_refuse_unless fun _ => ih

theorem publications_quiet (record : NativeTaskTerminalV1) :
    Quiet (validatePublications spool record : Action Session Call Unit) := by
  unfold validatePublications
  cases record.outputDigest with
  | none => exact evidence_quiet record.evidence
  | some digest => exact quiet_bind (publication_quiet digest) fun _ => evidence_quiet _

theorem quiet_then {script : Action Session Call Answer} {rest : Answer → Action Session Call Result}
    (quiet : Quiet script) (stable : (pact spool).Stable call knows) {world : World Session Call}
    (sound : Sound spool world) (holds : knows world)
    (goes : ∀ result now, Sound spool now → knows now →
      SecureCall spool call (answers told) (rest result) now) :
    SecureCall spool call (answers told) (script >>= rest) world :=
  chained sound (quiet_secure quiet stable (fun result now here known => goes result now here known)
    (fun _ _ _ _ => trivial) holds)

end Reads

section Loading

variable {handed : Prop}

theorem handed_lasting :
    (pact spool).Lasting fun world : World Session Call =>
      handed → world.files .marker ≠ .absent :=
  fun call before after sound sound' changes here holds =>
    present_lasting .marker call before after sound sound' changes (here holds)

theorem check_then {Result : Type} {told : Result → World Session Call → Prop}
    {rest : Bool → Action Session Call Result} {world : World Session Call}
    (sound : Sound spool world) (known : handed → world.files .marker ≠ .absent)
    (goes : ∀ found now, Sound spool now → (handed → now.files .marker ≠ .absent) →
      (handed → found = true) → (found = true → now.files .marker ≠ .absent) →
      SecureCall spool call (answers told) (rest found) now) :
    SecureCall spool call (answers told) (check spool >>= rest) world := by
  refine chained sound (find_then (handed_lasting.stable call) known fun now here holds => ?_)
  refine secure_refuse_unless (fun _ => ?_) fun _ => thrown _ now
  refine secure_done (fun other differs before after sound sound' changes secure =>
    secure_later secure (.single ⟨sound, sound', other, differs, changes⟩)) ?_
  exact goes _ now here holds (fun begun => by simpa using holds begun) fun found => by
    simpa using found

/-- What is read is the retained record itself, and once handed off there is an answer or a
refusal. -/
theorem load_secure {world : World Session Call} (sound : Sound spool world)
    (known : handed → world.files .marker ≠ .absent) :
    SecureCall spool call (answers (Told spool handed)) (load spool) world := by
  refine check_then sound known fun found now here holds saw _ => ?_
  refine find_then (Pact.stable_true : (pact spool).Stable call fun _ => True) trivial
    fun later there _ => ?_
  cases file : later.files .terminal with
  | absent =>
      refine secure_refuse_unless (fun missed => answered fun begun => ?_) fun _ => thrown _ later
      rw [saw begun] at missed
      cases missed
  | empty => exact thrown _ later
  | written envelope =>
      refine secure_refuse_unless (fun bound => ?_) fun _ => thrown _ later
      refine secure_refuse_unless (fun intact => ?_) fun _ => thrown _ later
      refine secure_compute (fun _ _ => ?_) fun _ _ => thrown _ later
      have retained : envelope = retain spool envelope.record := by
        cases envelope
        simp only [retain, RetainedTerminal.mk.injEq, true_and]
        exact ⟨bound.2, intact⟩
      rw [retained] at file
      exact quiet_then (publications_quiet _) (retained_stable call _) there file
        fun _ last _ kept => answered kept

end Loading

section Calls

variable {host : Host Call} {handed : Prop} {world : World Session Call}

theorem awaiting_secure (attempt : Call) :
    SecureCall spool call (answers (Retained spool)) (awaiting attempt) world := by
  refine secure_act (Pact.stable_true : (pact spool).Stable call fun _ => True) trivial
    (fun now sound _ _ => ⟨sound, changes_same call now, ?_⟩) fun _ now _ _ => thrown _ now
  cases ended : now.settled attempt with
  | none => exact thrown _ now
  | some outcome =>
      cases outcome with
      | error trouble => exact thrown trouble now
      | ok record =>
          exact secure_done (retained_stable call _) (sound.settled attempt record ended)

theorem publish_then {Result : Type} {told : Result → World Session Call → Prop}
    {bytes mediaType : JsString} {rest : JsString → Action Session Call Result}
    (sound : Sound spool world)
    (goes : ∀ digest now, Sound spool now →
      SecureCall spool call (answers told) (rest digest) now) :
    SecureCall spool call (answers told) (publish spool call bytes mediaType >>= rest) world := by
  refine chained sound (quiet_then check_quiet Pact.stable_true sound trivial
    fun found now here _ => ?_)
  refine secure_refuse_unless (fun _ => ?_) fun _ => thrown _ now
  refine secure_refuse_unless (fun _ => ?_) fun _ => thrown _ now
  refine secure_refuse_unless (fun _ => ?_) fun _ => thrown _ now
  refine chained here (exclusive_written Pact.stable_true (fun _ _ _ same => by cases same)
    (fun later there _ => ?_) here trivial)
  refine chained there (exclusive_written Pact.stable_true (fun _ _ _ same => by cases same)
    (fun last final _ => ?_) there trivial)
  exact fun after _ sound' => goes _ after sound'

theorem save_secure {record : NativeTaskTerminalV1} (sound : Sound spool world) :
    SecureCall spool call (answers fun _ => Retained spool record) (save spool call record)
      world := by
  have nothing : False → world.files .marker ≠ .absent := nofun
  refine check_then sound nothing fun found now here _ _ marked => ?_
  refine secure_refuse_unless (fun saw => ?_) fun _ => thrown _ now
  refine secure_compute (fun _ _ => ?_) fun _ _ => thrown _ now
  have present : (pact spool).Stable call
      fun world : World Session Call => world.files .marker ≠ .absent :=
    (present_lasting .marker).stable call
  refine quiet_then (publications_quiet record) present here (marked saw)
    fun _ later there still => ?_
  exact exclusive_written present (fun last final marker _ none_ => marker ((final.made _).2 none_))
    (fun _ _ written => written) there still

theorem publish_output_then {Result : Type} {told : Result → World Session Call → Prop}
    {seen : NativeObservation} {rest : Option JsString → Action Session Call Result}
    (sound : Sound spool world)
    (goes : ∀ digest now, Sound spool now →
      SecureCall spool call (answers told) (rest digest) now) :
    SecureCall spool call (answers told) (publishOutput spool call seen >>= rest) world := by
  unfold publishOutput
  by_cases succeeded : seen.outcome = .succeeded
  · rw [if_pos succeeded]
    refine chained sound (publish_then sound fun digest now here => ?_)
    exact fun later _ there => goes (some digest) later there
  · rw [if_neg succeeded]
    exact goes none world sound

theorem observe_secure :
    SecureCall spool call (answers (Retained spool)) (observe spool host call) world := by
  refine secure_transact (Pact.stable_true : (pact spool).Stable call fun _ => True) trivial
    (fun now here _ _ seen after ran => ?_) (fun now _ _ _ _ => thrown _ now)
    fun _ now _ _ => thrown _ now
  rcases bind_ok_iff.1 ran with ⟨_, _, same⟩
  cases same
  refine ⟨here, changes_same call now, publish_output_then here fun outputDigest later there => ?_⟩
  refine publish_then there fun evidenceDigest last final => chained final ?_
  refine secure_mono (save_secure final) (fun _ end_ retained => ?_) fun _ _ _ => trivial
  exact fun after others _ => (retained_stable call _).kept others retained

variable [DecidableEq Call]

-- An attempt is settled with a record only when the record is retained.
theorem settle_secure {outcome : Except (Trouble (Step Call) NativeRefusal) NativeTaskTerminalV1}
    (retained : ∀ record, outcome = .ok record → Retained spool record world) :
    SecureCall spool call (answers (Retained spool)) (settle call outcome) world := by
  have stable : (pact spool).Stable call fun world : World Session Call =>
      ∀ record, outcome = .ok record → Retained spool record world :=
    fun other differs before after here here' changes holds record same =>
      retained_stable call _ other differs before after here here' changes
        (holds record same)
  refine secure_step stable retained (fun now here known _ => ⟨⟨here.made, here.once,
    here.started, here.active, here.ended, fun attempt record ended => ?_⟩, ⟨fun _ => .inl rfl, fun _ => .inl rfl,
    fun _ _ kept => kept, .inl rfl⟩, ?_⟩) fun _ now _ _ => thrown _ now
  · by_cases own : attempt = call
    · subst own
      simp only [Function.update_self, Option.some.injEq] at ended
      exact known record ended
    · simp only [Function.update_of_ne own] at ended
      exact here.settled attempt record ended
  · cases outcome with
    | error trouble => exact thrown trouble _
    | ok record => exact secure_done (retained_stable call _) (known record rfl)

variable [DecidableEq Session] {session : Session}

def launched (session : Session) (call : Call) (world : World Session Call) :
    World Session Call :=
  { world with
    starts := call :: world.starts
    active := Function.update world.active session (some call) }

omit [DecidableEq Call] in
theorem launched_sound (sound : Sound spool world) (creator : world.creators .marker = some call)
    (unstarted : world.starts = []) :
    Sound spool (launched session call world) ∧
      Changes call world (launched session call world) := by
  refine ⟨⟨sound.made, ?_, fun _ => ?_, fun _ _ => ?_, sound.ended, sound.settled⟩,
    ⟨fun _ => .inl rfl, fun _ => .inl rfl, fun _ _ kept => kept, .inr creator⟩⟩
  · simp [launched, unstarted]
  · simp [launched, creator]
  · simp [launched, creator]

omit [Engine] [DecidableEq Call] [DecidableEq Session] in
theorem reported_ok {outcome : Except (Trouble (Step Call) NativeRefusal) NativeTaskTerminalV1}
    {record : NativeTaskTerminalV1} (reports : reported spool outcome = .ok record) :
    outcome = .ok record := by
  unfold reported at reports
  split at reports
  · exact reports
  · exact (map_error_ok_iff _ _ _).1 reports

theorem hand_off_secure (sound : Sound spool world) :
    SecureCall spool call (answers (Retained spool)) (handOff spool host session call) world := by
  refine chained sound (exclusive_secure Pact.stable_true (fun _ _ _ same => by cases same)
    (unstarted_stable call) (fun now here absent => ?_) (fun now known => known)
    (fun now here known _ => ?_) sound trivial)
  · refine ⟨by simp [created], ?_⟩
    by_contra some_
    exact here.started some_ ((here.made .marker).1 absent)
  refine secure_step (unstarted_stable call) known (fun later there mine _ => ?_)
    fun _ later _ _ => thrown _ later
  have step : _ ∧ Changes call later (launched session call later) :=
    launched_sound there mine.1 mine.2
  refine ⟨step.1, step.2, chained step.1 (secure_outcome observe_secure
    (fun record last retained => ?_) fun trouble last _ => ?_)⟩
  · refine settle_secure fun other reports => ?_
    cases reported_ok reports
    exact retained
  · refine settle_secure fun other reports => ?_
    cases reported_ok reports

omit [Engine] [DecidableEq Session] [DecidableEq Call] in
theorem verify_quiet (refusal : NativeRefusal) :
    Quiet (verifyExecutable spool host call refusal : Action Session Call Unit) :=
  quiet_bind quiet_ask fun _ => quiet_refuse_unless

theorem launch_fresh_secure (sound : Sound spool world) :
    SecureCall spool call (answers (Retained spool)) (launchFresh spool host session call)
      world := by
  unfold launchFresh
  by_cases guards : guarded (adapter spool) = true
  · rw [if_pos guards]
    refine quiet_then (verify_quiet _) Pact.stable_true sound trivial fun _ now here _ => ?_
    refine secure_refuse_unless (fun _ => ?_) fun _ => thrown _ now
    refine chained here (chained here (write_new_secure Pact.stable_true (fun _ _ _ same => by cases same)
      Pact.stable_true (fun _ _ _ => trivial) (fun _ _ => trivial) (fun _ _ _ _ => ?_) trivial))
    refine write_new_secure Pact.stable_true (fun _ _ _ same => by cases same) Pact.stable_true
      (fun _ _ _ => trivial) (fun _ _ => trivial) (fun later there _ _ => ?_) trivial
    exact hand_off_secure there
  · rw [if_neg guards]
    exact quiet_then (verify_quiet _) Pact.stable_true sound trivial
      fun _ now here _ => hand_off_secure here

omit [DecidableEq Call] [DecidableEq Session] in
theorem retained_answer {record : NativeTaskTerminalV1} (retained : Retained spool record world) :
    SecureCall spool call (answers (Retained spool)) (.done record) world :=
  secure_done (retained_stable call _) retained

theorem launch_unless_retained_secure (sound : Sound spool world) :
    SecureCall spool call (answers (Retained spool))
      (launchUnlessRetained spool host session call) world := by
  have nothing : False → world.files .marker ≠ .absent := nofun
  refine followed sound (load_secure sound nothing) fun retained now here told => ?_
  cases retained with
  | some record => exact retained_answer told
  | none => exact launch_fresh_secure here

theorem launch_secure (request : JsString) (sound : Sound spool world) :
    SecureCall spool call (answers (Retained spool)) (launch spool host session call request)
      world := by
  unfold launch
  by_cases guards : guarded (adapter spool) = true
  · rw [if_pos guards]
    refine secure_refuse_unless (fun _ => ?_) fun _ => thrown _ world
    refine secure_ask (Pact.stable_true : (pact spool).Stable call fun _ => True) trivial
      (fun now here _ _ => ?_) fun _ now _ _ => thrown _ now
    cases now.active session with
    | some attempt => exact awaiting_secure attempt
    | none => exact launch_unless_retained_secure here
  · rw [if_neg guards]
    exact secure_refuse_unless (fun _ => launch_unless_retained_secure sound)
      fun _ => thrown _ world

omit [DecidableEq Call] [DecidableEq Session] in
theorem collect_secure (known : handed → world.files .marker ≠ .absent) :
    SecureCall spool call (answers (Told spool handed)) (collect spool session) world := by
  refine secure_ask (handed_lasting.stable call) known (fun now here still _ => ?_) fun _ now _ _ => thrown _ now
  cases now.active session with
  | some attempt =>
      exact followed here (awaiting_secure attempt) fun record later _ retained =>
        answered (show Told spool handed (some record) later from retained)
  | none => exact load_secure here still

omit [DecidableEq Call] [DecidableEq Session] in
theorem collected_secure (sound : Sound spool world) :
    SecureCall spool call (answers (Retained spool)) (collected spool session) world := by
  have nothing : False → world.files .marker ≠ .absent := nofun
  refine followed sound (collect_secure nothing) fun result now here told => ?_
  cases result with
  | some record => exact retained_answer told
  | none => exact thrown _ now

omit [DecidableEq Call] [DecidableEq Session] in
theorem await_active_secure :
    SecureCall spool call (answers fun _ _ => True) (awaitActive session) world := by
  refine secure_ask (Pact.stable_true : (pact spool).Stable call fun _ => True) trivial
    (fun now here _ _ => ?_) fun _ now _ _ => thrown _ now
  cases now.active session with
  | some attempt =>
      have ended : SecureCall spool call (answers fun _ _ => True)
          (awaiting attempt).outcome now :=
        secure_outcome (awaiting_secure attempt) (fun _ _ _ => trivial) fun _ _ _ => trivial
      exact followed here ended fun _ _ _ _ => secure_done Pact.stable_true trivial
  | none => exact secure_done Pact.stable_true trivial

omit [DecidableEq Call] [DecidableEq Session] in
theorem cancel_secure (sound : Sound spool world) :
    SecureCall spool call (answers (Retained spool)) (cancel spool session) world := by
  unfold cancel
  by_cases guards : guarded (adapter spool) = true
  · rw [if_pos guards]
    exact thrown _ world
  · rw [if_neg guards]
    refine followed sound await_active_secure fun _ now here _ => ?_
    have nothing : False → now.files .marker ≠ .absent := nofun
    refine followed here (load_secure here nothing) fun result later _ told => ?_
    cases result with
    | some record => exact retained_answer told
    | none => exact thrown _ later

omit [DecidableEq Call] [DecidableEq Session] in
theorem reconcile_secure (sound : Sound spool world)
    (known : handed → world.files .marker ≠ .absent) :
    SecureCall spool call (answers (Told spool handed)) (reconcile spool session) world := by
  unfold reconcile
  by_cases guards : guarded (adapter spool) = true
  · rw [if_pos guards]
    refine chained sound (secure_mono (secure_lasting handed_lasting known sound
      (collected_secure sound)) (fun _ now ended => ?_) fun _ _ _ => trivial)
    exact collect_secure ended.2.1
  · rw [if_neg guards]
    exact followed sound (collected_secure sound) fun record now _ retained =>
      answered (show Told spool handed (some record) now from retained)

omit [DecidableEq Session] [DecidableEq Call] in
theorem create_quiet : Quiet (createTaskAdapter spool host call : Action Session Call Unit) := by
  have resolving : Quiet (resolveTaskProfile spool host call :
      Action Session Call TaskExecutionProfileV1) := by
    refine quiet_bind (verify_quiet _) fun _ => quiet_bind ?_ fun _ => trivial
    refine quiet_transact fun found resolved after body => ?_
    rcases bind_ok_iff.1 body with ⟨_, _, same⟩
    cases same
    rfl
  refine quiet_bind quiet_refuse_unless fun _ => ?_
  by_cases guards : guarded (adapter spool) = true
  · rw [if_pos guards]
    refine quiet_bind check_quiet fun handed => ?_
    cases handed with
    | true => trivial
    | false =>
        exact quiet_bind resolving fun _ => quiet_bind quiet_compute fun _ => quiet_refuse_unless
  · rw [if_neg guards]
    trivial

def Asks : Operation → Prop
  | .create => False
  | .close => False
  | _ => True

theorem perform_secure (operation : Operation) (sound : Sound spool world)
    (known : handed → world.files .marker ≠ .absent) :
    SecureCall spool call (answers (Told spool (handed ∧ Asks operation)))
      (perform spool host session call operation) world := by
  have both : handed ∧ Asks operation → world.files .marker ≠ .absent := fun asked => known asked.1
  have recorded : ∀ {script : Action Session Call NativeTaskTerminalV1},
      SecureCall spool call (answers (Retained spool)) script world →
      SecureCall spool call (answers (Told spool (handed ∧ Asks operation)))
        (do
          let record ← script
          return some record) world :=
    fun secure => followed sound secure fun record now _ retained =>
      answered (show Told spool _ (some record) now from retained)
  cases operation with
  | create =>
      refine quiet_then create_quiet Pact.stable_true sound trivial fun _ now _ _ => ?_
      exact answered fun asked => asked.2
  | launch request => exact recorded (launch_secure request sound)
  | cancel => exact recorded (cancel_secure sound)
  | reconcile => exact reconcile_secure sound both
  | resume =>
      refine recorded ?_
      unfold resume
      by_cases guards : guarded (adapter spool) = true
      · rw [if_pos guards]
        exact thrown _ world
      · rw [if_neg guards]
        exact collected_secure sound
  | collect => exact collect_secure both
  | load => exact load_secure sound both
  | close =>
      refine followed sound await_active_secure fun _ now _ _ => ?_
      exact answered fun asked => asked.2

end Calls

end Threads

section Later

variable [Engine] {spool : NativeTaskSpoolV1} {Session Call : Type} {host : Host Call}
  {call : Call} {world : World Session Call}

/-- The host is the one that the options name, and can run their profile. -/
structure Works (spool : NativeTaskSpoolV1) (host : Host Call) (call : Call) : Prop where
  supported : Supported spool.options
  executable : host.executable call = spool.options.profile.nativeExecutableDigest
  resolved : ∃ profile, host.resolved call = .ok profile ∧
    taskExecutionProfileDigest (verifiedProfile spool profile) = .ok spool.profileDigest
  effort : ¬(adapter spool = .pi ∧ spool.options.profile.effort = some .max)

def laterLaunch [DecidableEq Session] [DecidableEq Call] (spool : NativeTaskSpoolV1)
    (host : Host Call) (session : Session) (call : Call) :
    Action Session Call NativeTaskTerminalV1 := do
  createTaskAdapter spool host call
  launch spool host session call spool.contextDigest

/-- The files before a handoff. -/
structure Unhanded (world : World Session Call) : Prop where
  marker : world.files .marker = .absent
  terminal : world.files .terminal = .absent
  active : ∀ session, world.active session = none
  starts : world.starts = []

theorem sound_unhanded (sound : Sound spool world) (marker : world.files .marker = .absent) :
    Unhanded world := by
  have uncreated := (sound.made .marker).1 marker
  refine ⟨marker, (sound.made .terminal).2 ?_, fun session => ?_, ?_⟩
  · exact not_not.1 fun some_ => sound.ended some_ uncreated
  · exact not_not.1 fun some_ => sound.active session some_ uncreated
  · exact not_not.1 fun some_ => sound.started some_ uncreated

/-- A script that answers as it must and leaves the world as it is. -/
def onlyAnswers {Result : Type} (result : Result) (world : World Session Call) :
    Post (World Session Call) (Trouble (Step Call) NativeRefusal) Result :=
  ⟨fun _ => False, fun _ _ => False, fun found after => found = result ∧ after = world⟩

omit [Engine] in
theorem answers_then {Result Answer : Type} {result : Result}
    {post : Post (World Session Call) (Trouble (Step Call) NativeRefusal) Answer}
    {script : Action Session Call Result} {rest : Result → Action Session Call Answer}
    (first : Meets Faults.none (onlyAnswers result world) script world)
    (then_ : Meets Faults.none post (rest result) world) :
    Meets Faults.none post (script >>= rest) world :=
  meets_bind.2 (meets_mono first (fun _ never => never.elim) (fun _ _ never => never.elim)
    fun found after same => by
      rw [same.1, same.2]
      exact then_)

theorem absent_answers {name : FileName} (absent : world.files name = .absent) :
    Meets Faults.none (onlyAnswers .absent world) (find spool name) world := by
  refine meets_transact.2 ⟨nofun, nofun, ?_⟩
  simp only [absent]
  exact ⟨rfl, rfl⟩

theorem check_answers (before : Unhanded world) :
    Meets Faults.none (onlyAnswers false world) (check spool) world := by
  refine answers_then (absent_answers before.marker) (meets_bind.2 ?_)
  exact meets_refuse_unless.2 ⟨fun _ => ⟨by simp, rfl⟩, fun wrong => wrong (.inl rfl)⟩

theorem load_answers (before : Unhanded world) :
    Meets Faults.none (onlyAnswers none world) (load spool) world := by
  refine answers_then (check_answers before) (answers_then (absent_answers before.terminal) ?_)
  exact meets_bind.2 (meets_refuse_unless.2 ⟨fun _ => ⟨rfl, rfl⟩, fun wrong => wrong rfl⟩)

theorem verify_answers (works : Works spool host call) (refusal : NativeRefusal) :
    Meets Faults.none (onlyAnswers () world) (verifyExecutable spool host call refusal) world := by
  refine meets_bind.2 (meets_ask.2 ⟨nofun, nofun, ?_⟩)
  exact meets_refuse_unless.2 ⟨fun _ => ⟨rfl, rfl⟩, fun wrong => wrong works.executable⟩

theorem create_answers (works : Works spool host call) (before : Unhanded world) :
    Meets Faults.none (onlyAnswers () world) (createTaskAdapter spool host call) world := by
  rcases works.resolved with ⟨profile, resolved, digest⟩
  have resolving : Meets Faults.none (onlyAnswers (verifiedProfile spool profile) world)
      (resolveTaskProfile spool host call) world := by
    refine answers_then (verify_answers works _) (meets_bind.2 (meets_transact.2
      ⟨nofun, nofun, ?_⟩))
    simp only [resolved]
    exact ⟨rfl, rfl⟩
  refine meets_bind.2 (meets_refuse_unless.2 ⟨fun _ => ?_, fun wrong => wrong works.supported⟩)
  by_cases guards : guarded (adapter spool) = true
  · rw [if_pos guards]
    refine answers_then (check_answers before) ?_
    refine answers_then resolving ?_
    simp only [digest, Except.mapError]
    exact meets_refuse_unless.2 ⟨fun _ => ⟨rfl, rfl⟩, fun wrong => wrong rfl⟩
  · rw [if_neg guards]
    exact ⟨rfl, rfl⟩

theorem launch_then [DecidableEq Session] [DecidableEq Call] {session : Session}
    {post : Post (World Session Call) (Trouble (Step Call) NativeRefusal) NativeTaskTerminalV1}
    (works : Works spool host call) (before : Unhanded world)
    (goes : Meets Faults.none post
      (if guarded (adapter spool) then do
        writeGuard call
        handOff spool host session call
      else handOff spool host session call) world) :
    Meets Faults.none post (laterLaunch spool host session call) world := by
  have fresh : Meets Faults.none post (launchUnlessRetained spool host session call) world := by
    refine answers_then (load_answers before) ?_
    unfold launchFresh
    by_cases guards : guarded (adapter spool) = true
    · rw [if_pos guards] at goes ⊢
      refine answers_then (verify_answers works _) (meets_bind.2 ?_)
      exact meets_refuse_unless.2 ⟨fun _ => goes, fun wrong => (wrong works.effort).elim⟩
    · rw [if_neg guards] at goes ⊢
      exact answers_then (verify_answers works _) goes
  refine answers_then (create_answers works before) ?_
  unfold launch
  by_cases guards : guarded (adapter spool) = true
  · rw [if_pos guards]
    refine meets_bind.2 (meets_refuse_unless.2 ⟨fun _ => ?_, fun wrong => (wrong rfl).elim⟩)
    refine meets_bind.2 (meets_ask.2 ⟨nofun, nofun, ?_⟩)
    simp only [before.active session]
    exact fresh
  · rw [if_neg guards]
    exact meets_bind.2 (meets_refuse_unless.2 ⟨fun _ => fresh, fun wrong => (wrong rfl).elim⟩)

section Starting

def HasStarted (call : Call) (world : World Session Call) : Prop := call ∈ world.starts

omit [Engine] in
theorem exclusive_preserves (name : FileName) (content : name.Content) (maker : Call) :
    Preserves (HasStarted call : World Session Call → Prop) (exclusive maker name content) := by
  refine preserves_bind (preserves_bind (preserves_attempt fun found after made started => ?_)
    fun _ => preserves_step fun _ started => started)
    fun _ => preserves_step fun _ started => started
  split at made
  · cases made
    exact started
  · cases made

theorem publish_preserves (bytes mediaType : JsString) :
    Preserves (HasStarted call : World Session Call → Prop)
      (publish spool call bytes mediaType) :=
  preserves_bind (quiet_preserves check_quiet) fun _ => preserves_bind preserves_refuse_unless
    fun _ => preserves_bind preserves_refuse_unless fun _ => preserves_bind preserves_refuse_unless
      fun _ => preserves_bind (exclusive_preserves _ _ _) fun _ =>
        preserves_bind (exclusive_preserves _ _ _) fun _ => trivial

theorem save_preserves (record : NativeTaskTerminalV1) :
    Preserves (HasStarted call : World Session Call → Prop) (save spool call record) :=
  preserves_bind (quiet_preserves check_quiet) fun _ => preserves_bind preserves_refuse_unless
    fun _ => preserves_bind (quiet_preserves quiet_compute) fun _ =>
      preserves_bind (quiet_preserves (publications_quiet record)) fun _ =>
        exclusive_preserves _ _ _

theorem observe_preserves :
    Preserves (HasStarted call : World Session Call → Prop) (observe spool host call) := by
  refine preserves_bind (quiet_preserves (quiet_transact fun _ _ _ ran => ?_)) fun seen => ?_
  · rcases bind_ok_iff.1 ran with ⟨_, _, same⟩
    cases same
    rfl
  refine preserves_bind ?_ fun _ => preserves_bind (publish_preserves _ _) fun _ =>
    preserves_bind (save_preserves _) fun _ => trivial
  unfold publishOutput
  split
  · exact preserves_bind (publish_preserves _ _) fun _ => trivial
  · trivial

omit [Engine] in
theorem settle_preserves [DecidableEq Call]
    (outcome : Except (Trouble (Step Call) NativeRefusal) NativeTaskTerminalV1) :
    Preserves (HasStarted call : World Session Call → Prop) (settle call outcome) := by
  refine preserves_bind (preserves_step fun _ started => started) fun _ => ?_
  cases outcome <;> trivial

theorem hand_off_starts [DecidableEq Session] [DecidableEq Call] {session : Session}
    (marker : world.files .marker = .absent) :
    Meets Faults.none ⟨HasStarted call, fun _ => HasStarted call, fun _ => HasStarted call⟩
      (handOff spool host session call) world := by
  have after : Preserves (HasStarted call : World Session Call → Prop) (do
      let outcome ← (observe spool host call).outcome
      settle call (reported spool outcome)) :=
    preserves_bind (preserves_outcome observe_preserves) fun _ => settle_preserves _
  refine meets_bind.2 (meets_bind.2 (meets_bind.2 (meets_attempt.2 ⟨nofun, nofun, ?_⟩)))
  simp only [marker]
  refine ⟨nofun, nofun, nofun, nofun, meets_bind.2 ⟨nofun, nofun, ?_⟩⟩
  exact preserves_meets after List.mem_cons_self

omit [Engine] in
theorem write_new_ends (name : FileName) (content : name.Content) :
    Meets Faults.none ⟨fun _ => False, fun _ after => world.files name ≠ .absent ∧ after = world,
      fun _ after => world.files name = .absent ∧
        after = filled name content (created call name world)⟩
      (writeNew call name content) world := by
  refine meets_bind.2 (meets_attempt.2 ⟨nofun, nofun, ?_⟩)
  cases here : world.files name with
  | absent => exact ⟨nofun, nofun, rfl, rfl⟩
  | empty => exact ⟨nofun, rfl⟩
  | written held => exact ⟨nofun, rfl⟩

omit [Engine] in
-- The two files of the guard can be made, or the second one never is.
theorem write_guard_ends :
    Meets Faults.none ⟨fun _ => False,
      fun _ after => ¬(world.files .config = .absent ∧ world.files .guard = .absent) ∧
        after.starts = world.starts,
      fun _ after => world.files .config = .absent ∧ world.files .guard = .absent ∧
        after.files .marker = world.files .marker⟩ (writeGuard call) world := by
  refine meets_bind.2 (meets_mono (write_new_ends .config ()) (fun _ never => never)
    (fun _ after threw => ⟨fun both => threw.1 both.1, by rw [threw.2]⟩)
    fun _ after made => ?_)
  rcases made with ⟨config, rfl⟩
  refine meets_mono (write_new_ends .guard ()) (fun _ never => never)
    (fun _ last threw => ⟨fun both => threw.1 ?_, by rw [threw.2]; rfl⟩)
    fun _ last made => ⟨config, ?_, by rw [made.2]; simp [created, filled]⟩
  · simpa [created, filled] using both.2
  · simpa [created, filled] using made.1

-- Whether a later launch starts the process, when there is no marker.
theorem later_starts_iff [DecidableEq Session] [DecidableEq Call] {session : Session}
    (works : Works spool host call) (before : Unhanded world) :
    call ∈ (complete (laterLaunch spool host session call) world).2.starts ↔
      guarded (adapter spool) = false ∨
        (world.files .config = .absent ∧ world.files .guard = .absent) := by
  have starts : (guarded (adapter spool) = false ∨
      (world.files .config = .absent ∧ world.files .guard = .absent)) →
      Meets Faults.none ⟨HasStarted call, fun _ => HasStarted call, fun _ => HasStarted call⟩
        (laterLaunch spool host session call) world := by
    intro free
    refine launch_then works before ?_
    by_cases guards : guarded (adapter spool) = true
    · rw [if_pos guards]
      have both := free.resolve_left (by simp [guards])
      refine meets_bind.2 (meets_mono write_guard_ends (fun _ never => never.elim)
        (fun _ _ threw => (threw.1 both).elim) fun _ after made => ?_)
      exact hand_off_starts (made.2.2.trans before.marker)
    · rw [if_neg guards]
      exact hand_off_starts before.marker
  have stays : ¬(guarded (adapter spool) = false ∨
      (world.files .config = .absent ∧ world.files .guard = .absent)) →
      Meets Faults.none ⟨fun after => after.starts = [], fun _ after => after.starts = [],
        fun _ after => after.starts = []⟩ (laterLaunch spool host session call) world := by
    intro blocked
    refine launch_then works before ?_
    have guards : guarded (adapter spool) = true := by
      by_contra free
      exact blocked (.inl (by simpa using free))
    rw [if_pos guards]
    refine meets_bind.2 (meets_mono write_guard_ends (fun _ never => never.elim)
      (fun _ _ threw => threw.2.trans before.starts) fun _ after made => ?_)
    exact (blocked (.inr ⟨made.1, made.2.1⟩)).elim
  by_cases free : guarded (adapter spool) = false ∨
      (world.files .config = .absent ∧ world.files .guard = .absent)
  · exact iff_of_true (complete_holds (starts free)) free
  · refine iff_of_false (fun member => ?_) free
    have none_ : (complete (laterLaunch spool host session call) world).2.starts = [] :=
      complete_holds (stays free)
    rw [none_] at member
    cases member

end Starting

end Later

section Systems

variable [Engine] {Session Call : Type} [DecidableEq Session] [DecidableEq Call]
  {spool : NativeTaskSpoolV1} {host : Host Call} {calls : Call → Session × Operation}

def opened (spool : NativeTaskSpoolV1) (host : Host Call) (calls : Call → Session × Operation) :
    System (World Session Call) (Step Call) (Trouble (Step Call) NativeRefusal)
      (Option NativeTaskTerminalV1) Call :=
  ⟨World.fresh, fun call => perform spool host (calls call).1 call (calls call).2⟩

theorem opened_keeps : (opened spool host calls).Keeps conduct (pact spool)
    fun _ => answers (Told spool False) := by
  have nothing : False → (World.fresh : World Session Call).files .marker ≠ .absent := nofun
  refine ⟨sound_fresh, fun call => ?_⟩
  refine secure_mono (perform_secure (calls call).2 sound_fresh nothing)
    (fun result world told => ?_) fun _ _ _ => trivial
  cases result with
  | none => exact fun never => never
  | some record => exact told

/-- The process is started at most once. A call answers with the retained record only, and one
that begins after the marker exists does not answer with nothing. Without the marker a later
launch starts the process, unless Pi or OMP finds a file of its guard. -/
theorem native_handoff {system} (reached : Run conduct (opened spool host calls) system) :
    system.shared.starts.length ≤ 1 ∧
      (∀ call record, system.threads call = .done (some record) →
        system.shared.files .terminal = .written (retain spool record)) ∧
      (system.shared.files .marker ≠ .absent → ∀ call, Asks (calls call).2 →
        system.threads call = perform spool host (calls call).1 call (calls call).2 →
        ∀ after result, Run conduct system after → after.threads call = .done result →
          ∃ record, result = some record ∧
            after.shared.files .terminal = .written (retain spool record)) ∧
      ∀ session call, Works spool host call → system.shared.files .marker = .absent →
        (call ∈ (complete (laterLaunch spool host session call) system.shared).2.starts ↔
          guarded (adapter spool) = false ∨
            (system.shared.files .config = .absent ∧ system.shared.files .guard = .absent)) := by
  have keeps := run_keeps opened_keeps reached
  have sound : Sound spool system.shared := keeps.1
  refine ⟨sound.once, fun call record ended => ended_returned keeps ended, ?_,
    fun session call works marker => later_starts_iff works (sound_unhanded sound marker)⟩
  intro marker call asks begins after result later ended
  -- from here on the call keeps to a stronger end, as the marker stays
  have stronger : system.Keeps conduct (pact spool) fun other =>
      answers (if other = call then Told spool True else Told spool False) := by
    refine ⟨sound, fun other => ?_⟩
    by_cases same : other = call
    · subst same
      simp only [if_true]
      rw [begins]
      refine secure_mono (perform_secure (calls other).2 sound (fun _ : True => marker))
        (fun result world told => ?_) fun _ _ _ => trivial
      cases result with
      | none => exact fun _ => told ⟨trivial, asks⟩
      | some record => exact told
    · simp only [if_neg same]
      exact keeps.2 other
  have told := ended_returned (run_keeps stronger later) ended
  simp only [if_true] at told
  cases result with
  | none => exact (told trivial).elim
  | some record => exact ⟨record, rfl, told⟩

end Systems

section Interrupted

attribute [local instance] RecordedRuns.shortEngine

def samplePiOptions : NativeTaskAdapterOptionsV1 where
  binding := ⟨js "w", js "r", js "t", js "a", 1, js "f", js "m", js "b", js "k", js "c"⟩
  producerPrincipalId := js "p"
  producerGrantDigest := js "g"
  workspacePath := js "/w"
  renderedContext := js "c"
  model := some (js "p/m")
  purpose := .work
  profile :=
    { adapterId := .pi
      hostId := js "pi"
      hostVersion := js "0.73.1"
      nativeExecutablePath := js "/pi"
      nativeExecutableDigest := js "e"
      providerId := js "p"
      modelId := js "m"
      effort := none
      purpose := .work
      timeoutMs := 1000
      maxOutputBytes := 1000
      lookup := .localTerminalRecord
      idempotentLaunch := false }

def samplePiSpool : NativeTaskSpoolV1 :=
  match createNativeTaskSpoolV1 samplePiOptions with
  | .ok spool => spool
  | .error _ => ⟨samplePiOptions, [], [], []⟩

def samplePiHost : Host Nat where
  executable := fun _ => js "e"
  resolved := fun _ => .ok samplePiOptions.profile
  run := fun _ => .error (.host (js "NATIVE_TIMEOUT"))

def samplePiCalls (call : Nat) : Nat × Operation := (call, .launch samplePiSpool.contextDigest)

theorem sample_pi_works (call : Nat) : Works samplePiSpool samplePiHost call := by
  have resolved : taskExecutionProfileDigest
      (verifiedProfile samplePiSpool samplePiOptions.profile) =
        .ok samplePiSpool.profileDigest := by decide +kernel
  exact ⟨by decide +kernel, rfl, ⟨_, rfl, resolved⟩, by decide +kernel⟩

def interruptedSchedule : List (Nat × Choice) := List.replicate 5 (0, .goes)

instance interrupted_played : Fact (((opened samplePiSpool samplePiHost samplePiCalls).play conduct
    interruptedSchedule).isSome = true) := ⟨by decide +kernel⟩

def interruptedLaunch : System (World Nat Nat) (Step Nat) (Trouble (Step Nat) NativeRefusal)
    (Option NativeTaskTerminalV1) Nat :=
  ((opened samplePiSpool samplePiHost samplePiCalls).play conduct interruptedSchedule).get
    interrupted_played.out

theorem interrupted_run :
    Run conduct (opened samplePiSpool samplePiHost samplePiCalls) interruptedLaunch :=
  play_run (Option.some_get interrupted_played.out).symm

/-- The files that an earlier launch left behind keep a later one from the process. -/
theorem guard_left_behind :
    Run conduct (opened samplePiSpool samplePiHost samplePiCalls) interruptedLaunch ∧
      interruptedLaunch.shared.files .marker = .absent ∧ Works samplePiSpool samplePiHost 1 ∧
      1 ∉ (complete (laterLaunch samplePiSpool samplePiHost 1 1)
        interruptedLaunch.shared).2.starts :=
  ⟨interrupted_run, by rfl, sample_pi_works 1, by decide +kernel⟩

theorem native_handoff_interrupted : interruptedLaunch.shared.starts.length ≤ 1 ∧
    (1 ∈ (complete (laterLaunch samplePiSpool samplePiHost 1 1)
        interruptedLaunch.shared).2.starts ↔ guarded (adapter samplePiSpool) = false ∨
      (interruptedLaunch.shared.files .config = .absent ∧
        interruptedLaunch.shared.files .guard = .absent)) :=
  have handoff := native_handoff interrupted_run
  ⟨handoff.1, handoff.2.2.2 1 1 (sample_pi_works 1) (by rfl)⟩

end Interrupted

end Horseness.NativeHandoff
