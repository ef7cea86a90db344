import Horseness.CodexTaskParser

/-!
What a Codex task that succeeded has been through: the confinement gate before its turn, one end of
the turn, no failed item and no request of the server. The parser denies a request of the server
only in the last of its branches, so a request that an earlier branch takes, and one whose id is
not a number, goes unnoticed.
-/

namespace Horseness.ConfinementGate

open Records ScriptText JsonValues JsonText FallibleRuns Turns DispatchAuthority CodexTaskParser
  RecordedRuns JsonWriting

section Entries

variable {Value : Type}

theorem distinct_concat (entries : List (JsString × Value)) (entry : JsString × Value) :
    distinct (entries ++ [entry]) =
      if findEntry entry.1 entries = none then distinct entries ++ [entry] else distinct entries := by
  induction entries with
  | nil => rfl
  | cons first rest ih =>
      rw [List.cons_append, distinct, ih]
      by_cases hit : first.1 = entry.1
      · -- the first entry hides the last one in either case
        rw [findEntry, if_pos hit, if_neg (Option.some_ne_none _), distinct]
        by_cases fresh : findEntry entry.1 rest = none
        · rw [if_pos fresh, List.filter_append]
          simp [hit]
        · rw [if_neg fresh]
      · rw [findEntry, if_neg hit]
        by_cases fresh : findEntry entry.1 rest = none
        · rw [if_pos fresh, if_pos fresh, List.filter_append, distinct, List.cons_append]
          simp [Ne.symm hit]
        · rw [if_neg fresh, if_neg fresh, distinct]

-- A text that does not contradict an earlier one of its name is kept as the first of it.
theorem set_distinct {record : Record JsString Value} {entries : List (JsString × Value)}
    (same : record.entries = distinct entries) {key : JsString} {value : Value}
    (kept : (record.get key).getD value = value) :
    (record.set key value).entries = distinct (entries ++ [(key, value)]) := by
  have read : record.get key = findEntry key entries := by
    rw [Record.get, same, find_distinct]
  rw [distinct_concat, ← read]
  cases found : record.get key with
  | none => rw [if_pos rfl, record.set_fresh_entries key value found, same]
  | some old =>
      rw [found, Option.getD_some] at kept
      rw [if_neg (Option.some_ne_none old), ← same]
      exact JsonPaths.write_back _ _ _ (found.trans (congrArg some kept))

end Entries

section Gate

def jsonRpcId : Option JsValue → Bool
  | some (.str _) | some (.num _) | some .null => true
  | _ => false

def ServerRequest (message : JsValue) : Prop :=
  (textOf (property "method" message)).isSome = true ∧ jsonRpcId (property "id" message) = true

/-- A request that is not denied: its id is no number, or an earlier branch takes the message. -/
def Unnoticed (message : JsValue) : Prop :=
  ServerRequest message ∧ ((numberOf (property "id" message)).isNone = true ∨
    answers 1 message = true ∨ answers 2 message = true ∨ answers 3 message = true ∨
    answers 4 message = true ∨ hasMethod "item/completed" message = true ∨
    hasMethod "turn/completed" message = true)

def completedItem (message : JsValue) : Option JsValue :=
  if hasMethod "item/completed" message = true then
    (property "params" message).bind (property "item")
  else none

def agentEntry (message : JsValue) : Option (JsString × JsString) := do
  let item ← completedItem message
  if agentMessage item = true then do
    let id ← textOf (property "id" item)
    let text ← textOf (property "text" item)
    return (id, text)
  else none

variable [NumberFormat] (task : CodexTask)

def hears (state : ParserState) (lines : List JsString) (next : ParserState) : Prop :=
  ∃ line, lines = [line] ∧ outcome (onLine task line) state = (.ok (), next)

def Listening (lines : List JsString) (state : ParserState) : Prop :=
  Runs (hears task) .initial lines state

def messagesOf (lines : List JsString) : List JsValue := lines.filterMap parse

/-- The turn was asked for at an inventory without servers, after a thread was bound to the model. -/
structure Opened (lines : List JsString) (threadId : JsString) : Prop where
  gate : ∃ front line back message before after, lines = front ++ line :: back ∧
    parse line = some message ∧ EmptyInventory message ∧
    (∃ bound ∈ messagesOf front, BindsThread task threadId bound) ∧
    Listening task front before ∧ before.written =
      [initializedNotice, threadStart task, inventoryList threadId] ∧
    Listening task (front ++ [line]) after ∧ after.written =
      [initializedNotice, threadStart task, inventoryList threadId, turnStart task threadId]

/-- What the result of a confined task says about the lines. -/
structure Confined (exitCode : Option JsNumber) (lines : List JsString) (state : ParserState)
    (threadId turnId : JsString) (result : FinishedTask) : Prop where
  exited : ∃ code, exitCode = some code ∧ sameNumber code (.finite 0) = true
  named : result.nativeSessionId = threadId ∧
    result.providerOperationId = threadId ++ js ":" ++ turnId ∧ result.model = task.model
  written : state.written =
    [initializedNotice, threadStart task, inventoryList threadId, turnStart task threadId]
  opened : Opened task lines threadId
  started : ∃ message ∈ messagesOf lines, BindsTurn turnId message
  ended : ∃ notice turn, (messagesOf lines).filter (hasMethod "turn/completed") = [notice] ∧
    TurnNotice threadId turnId notice turn ∧
    textOf (property "status" turn) = some (js "completed")
  items : ∀ message ∈ messagesOf lines, hasMethod "item/completed" message = true →
    ∃ item, ItemNotice threadId turnId message item ∧ failedItem item = false
  unasked : ∀ message ∈ messagesOf lines, ¬ ServerRequest message
  output : result.output = join [10] ((distinct ((messagesOf lines).filterMap agentEntry)).map Prod.snd)

/-- The messages that the phase of a parser has written while nothing was denied. -/
def phaseWrites (state : ParserState) : List JsValue :=
  (if state.initialized = true then [initializedNotice, threadStart task] else []) ++
    (if state.threadId = [] then [] else [inventoryList state.threadId]) ++
    (if state.inventoryVerified = true then [turnStart task state.threadId] else [])

/-- The invariant: the phases follow each other, and the messages that opened a phase came. -/
structure Followed (messages : List JsValue) (state : ParserState) : Prop where
  written : state.written = phaseWrites task state
  initialized : state.threadId ≠ [] → state.initialized = true
  threaded : state.inventoryVerified = true → state.threadId ≠ []
  verified : state.turnId ≠ [] → state.inventoryVerified = true
  bound : state.threadId ≠ [] → state.observedModel = task.model ∧
    ∃ message ∈ messages, BindsThread task state.threadId message
  started : state.turnId ≠ [] → ∃ message ∈ messages, BindsTurn state.turnId message
  turns : messages.filter (hasMethod "turn/completed") = [] ∧ state.terminal = none ∨
    ∃ notice turn, messages.filter (hasMethod "turn/completed") = [notice] ∧
      state.terminal = some turn ∧ state.turnId ≠ [] ∧
      TurnNotice state.threadId state.turnId notice turn
  items : ∀ message ∈ messages, hasMethod "item/completed" message = true → state.turnId ≠ [] ∧
    ∃ item, ItemNotice state.threadId state.turnId message item ∧ failedItem item = false
  texts : state.texts.entries = distinct (messages.filterMap agentEntry)

end Gate

section Steps

variable {task : CodexTask} {messages : List JsValue} {message : JsValue}
  {state after : ParserState}

theorem response_unmarked {id : Nat} (answered : answers id message = true)
    (unasked : ¬ ServerRequest message) (method : String) : hasMethod method message = false := by
  have numbered : jsonRpcId (property "id" message) = true := by
    unfold answers hasId at answered
    cases given : property "id" message with
    | none => simp [given, numberOf] at answered
    | some value => cases value <;> simp_all [numberOf, jsonRpcId]
  by_contra marked
  apply unasked
  refine ⟨?_, numbered⟩
  have named : textOf (property "method" message) = some (js method) := by
    simpa [hasMethod] using marked
  rw [named]
  rfl

/-- A message that is no notice leaves what the notices said. -/
structure Silent (message : JsValue) : Prop where
  item : hasMethod "item/completed" message = false
  turn : hasMethod "turn/completed" message = false

theorem response_silent {id : Nat} (answered : answers id message = true)
    (unasked : ¬ ServerRequest message) : Silent message :=
  ⟨response_unmarked answered unasked _, response_unmarked answered unasked _⟩

theorem silent_turns (silent : Silent message) :
    (messages ++ [message]).filter (hasMethod "turn/completed") =
      messages.filter (hasMethod "turn/completed") := by
  rw [List.filter_append]
  simp [silent.turn]

theorem silent_entry (silent : Silent message) : agentEntry message = none := by
  simp [agentEntry, completedItem, silent.item]

theorem silent_texts (silent : Silent message) :
    (messages ++ [message]).filterMap agentEntry = messages.filterMap agentEntry := by
  rw [List.filterMap_append]
  simp [silent_entry silent]

theorem silent_items {holds : JsValue → Prop} (silent : Silent message)
    (each : ∀ message ∈ messages, hasMethod "item/completed" message = true → holds message) :
    ∀ other ∈ messages ++ [message], hasMethod "item/completed" other = true → holds other := by
  intro other member marked
  rcases List.mem_append.mp member with old | new
  · exact each other old marked
  · rw [List.mem_singleton.mp new, silent.item] at marked
    cases marked

theorem earlier {holds : JsValue → Prop} (known : ∃ message ∈ messages, holds message) :
    ∃ other ∈ messages ++ [message], holds other := by
  rcases known with ⟨other, member, meets⟩
  exact ⟨other, List.mem_append_left _ member, meets⟩

theorem latest {holds : JsValue → Prop} (meets : holds message) :
    ∃ other ∈ messages ++ [message], holds other :=
  ⟨message, List.mem_append_right _ List.mem_cons_self, meets⟩

theorem greeting_followed (kept : Followed task messages state) (silent : Silent message)
    (fresh : state.initialized = false) :
    Followed task (messages ++ [message]) { state with
      initialized := true, written := state.written ++ [initializedNotice, threadStart task] } := by
  have unthreaded : state.threadId = [] := by
    by_contra filled
    rw [kept.initialized filled] at fresh
    cases fresh
  have unverified : state.inventoryVerified = false := by
    by_contra verified
    exact kept.threaded (Bool.eq_true_of_not_eq_false verified) unthreaded
  constructor
  case written => simp [kept.written, phaseWrites, fresh, unthreaded, unverified]
  case initialized => exact fun _ => rfl
  case threaded => exact kept.threaded
  case verified => exact kept.verified
  case bound => exact fun filled => absurd unthreaded filled
  case started => exact fun filled => earlier (kept.started filled)
  case turns => exact (silent_turns silent).symm ▸ kept.turns
  case items => exact silent_items silent kept.items
  case texts => exact (silent_texts silent).symm ▸ kept.texts

theorem unthreaded_quiet (kept : Followed task messages state) (fresh : state.threadId = []) :
    state.inventoryVerified = false ∧ state.turnId = [] := by
  have unverified : state.inventoryVerified = false := by
    by_contra verified
    exact kept.threaded (Bool.eq_true_of_not_eq_false verified) fresh
  refine ⟨unverified, ?_⟩
  by_contra filled
  rw [kept.verified filled] at unverified
  cases unverified

theorem thread_followed {threadId : JsString} (kept : Followed task messages state)
    (silent : Silent message) (binds : BindsThread task threadId message)
    (ready : state.initialized = true) (fresh : state.threadId = []) (filled : threadId ≠ []) :
    Followed task (messages ++ [message]) { state with
      threadId, observedModel := task.model, inventoryRequested := true
      written := state.written ++ [inventoryList threadId] } := by
  have quiet := unthreaded_quiet kept fresh
  constructor
  case written => simp [kept.written, phaseWrites, ready, fresh, filled, quiet.1]
  case initialized => exact fun _ => ready
  case threaded => exact fun _ => filled
  case verified => exact fun started => absurd quiet.2 started
  case bound => exact fun _ => ⟨rfl, latest binds⟩
  case started => exact fun started => absurd quiet.2 started
  case turns =>
    rw [silent_turns silent]
    rcases kept.turns with none | ⟨_, _, _, _, started, _⟩
    · exact .inl none
    · exact absurd quiet.2 started
  case items =>
    exact silent_items silent fun other member marked =>
      absurd quiet.2 (kept.items other member marked).1
  case texts => exact (silent_texts silent).symm ▸ kept.texts

theorem inventory_followed (kept : Followed task messages state) (silent : Silent message)
    (fresh : state.inventoryVerified = false) (filled : state.threadId ≠ []) :
    Followed task (messages ++ [message]) { state with
      inventoryVerified := true, confinementFailed := false
      written := state.written ++ [turnStart task state.threadId] } := by
  constructor
  case written => simp [kept.written, phaseWrites, fresh]
  case initialized => exact kept.initialized
  case threaded => exact fun _ => filled
  case verified => exact fun _ => rfl
  case bound => exact fun bound => ⟨(kept.bound bound).1, earlier (kept.bound bound).2⟩
  case started => exact fun started => earlier (kept.started started)
  case turns => exact (silent_turns silent).symm ▸ kept.turns
  case items => exact silent_items silent kept.items
  case texts => exact (silent_texts silent).symm ▸ kept.texts

theorem turn_followed {turnId : JsString} (kept : Followed task messages state)
    (silent : Silent message) (binds : BindsTurn turnId message)
    (verified : state.inventoryVerified = true) (fresh : state.turnId = []) :
    Followed task (messages ++ [message]) { state with turnId } := by
  constructor
  case written => exact kept.written
  case initialized => exact kept.initialized
  case threaded => exact kept.threaded
  case verified => exact fun _ => verified
  case bound => exact fun bound => ⟨(kept.bound bound).1, earlier (kept.bound bound).2⟩
  case started => exact fun _ => latest binds
  case turns =>
    rw [silent_turns silent]
    rcases kept.turns with none | ⟨_, _, _, _, started, _⟩
    · exact .inl none
    · exact absurd fresh started
  case items =>
    exact silent_items silent fun other member marked =>
      absurd fresh (kept.items other member marked).1
  case texts => exact (silent_texts silent).symm ▸ kept.texts

-- An item that a notice names is the completed item of its message.
theorem notice_item {threadId turnId : JsString} {item : JsValue}
    (notice : ItemNotice threadId turnId message item) : completedItem message = some item := by
  rcases notice with ⟨marked, params, given, -, -, made⟩
  have whole : property "params" message = some params := by
    cases found : property "params" message with
    | none => rw [found] at given; cases given
    | some value => rw [found] at given; cases value <;> cases given; rfl
  have part : property "item" params = some item := by
    cases found : property "item" params with
    | none => rw [found] at made; cases made
    | some value => rw [found] at made; cases value <;> cases made; rfl
  rw [completedItem, if_pos marked, whole]
  exact part

theorem marked_once {one other : String} (apart : js one ≠ js other)
    (marked : hasMethod one message = true) : hasMethod other message = false := by
  have named : textOf (property "method" message) = some (js one) := by
    simpa [hasMethod] using marked
  simp [hasMethod, named, apart]

theorem item_followed {item : JsValue} {texts : Record JsString JsString}
    (kept : Followed task messages state)
    (notice : ItemNotice state.threadId state.turnId message item)
    (started : state.turnId ≠ []) (passed : failedItem item = false)
    (silent : agentMessage item = false → texts = state.texts)
    (said : agentMessage item = true → ∃ id text, textOf (property "id" item) = some id ∧
      textOf (property "text" item) = some text ∧ (state.texts.get id).getD text = text ∧
      texts = state.texts.set id text) :
    Followed task (messages ++ [message])
      { state with denied := state.denied || failedItem item, texts } := by
  constructor
  case written => exact kept.written
  case initialized => exact kept.initialized
  case threaded => exact kept.threaded
  case verified => exact kept.verified
  case bound => exact fun bound => ⟨(kept.bound bound).1, earlier (kept.bound bound).2⟩
  case started => exact fun filled => earlier (kept.started filled)
  case turns =>
    have unmarked : hasMethod "turn/completed" message = false :=
      marked_once (by decide) notice.1
    rw [List.filter_append, List.filter_cons_of_neg (by simp [unmarked]), List.filter_nil,
      List.append_nil]
    exact kept.turns
  case items =>
    intro other member marked
    rcases List.mem_append.mp member with old | new
    · exact kept.items other old marked
    · rw [List.mem_singleton.mp new]
      exact ⟨started, item, notice, passed⟩
  case texts =>
    rw [List.filterMap_append]
    by_cases agent : agentMessage item = true
    · rcases said agent with ⟨id, text, named, spoken, same, rfl⟩
      have entry : agentEntry message = some (id, text) := by
        simp [agentEntry, notice_item notice, agent, named, spoken]
      simpa [entry] using set_distinct kept.texts same
    · have entry : agentEntry message = none := by
        simp [agentEntry, notice_item notice, agent]
      simpa [entry, silent (Bool.eq_false_of_not_eq_true agent)] using kept.texts

theorem finished_followed {turn : JsValue} (kept : Followed task messages state)
    (notice : TurnNotice state.threadId state.turnId message turn) (started : state.turnId ≠ [])
    (running : state.terminal = none) :
    Followed task (messages ++ [message]) { state with terminal := some turn, ended := true } := by
  have unmarked : hasMethod "item/completed" message = false := marked_once (by decide) notice.1
  constructor
  case written => exact kept.written
  case initialized => exact kept.initialized
  case threaded => exact kept.threaded
  case verified => exact kept.verified
  case bound => exact fun bound => ⟨(kept.bound bound).1, earlier (kept.bound bound).2⟩
  case started => exact fun filled => earlier (kept.started filled)
  case turns =>
    rcases kept.turns with ⟨none, -⟩ | ⟨_, _, _, ended, _⟩
    · right
      refine ⟨message, turn, ?_, rfl, started, notice⟩
      rw [List.filter_append, none, List.nil_append, List.filter_cons_of_pos notice.1,
        List.filter_nil]
    · rw [running] at ended
      cases ended
  case items =>
    intro other member marked
    rcases List.mem_append.mp member with old | new
    · exact kept.items other old marked
    · rw [List.mem_singleton.mp new, unmarked] at marked
      cases marked
  case texts =>
    have entry : agentEntry message = none := by simp [agentEntry, completedItem, unmarked]
    rw [List.filterMap_append]
    simpa [entry] using kept.texts

theorem ignored_followed (kept : Followed task messages state) (silent : Silent message) :
    Followed task (messages ++ [message]) state := by
  constructor
  case written => exact kept.written
  case initialized => exact kept.initialized
  case threaded => exact kept.threaded
  case verified => exact kept.verified
  case bound => exact fun bound => ⟨(kept.bound bound).1, earlier (kept.bound bound).2⟩
  case started => exact fun filled => earlier (kept.started filled)
  case turns => exact (silent_turns silent).symm ▸ kept.turns
  case items => exact silent_items silent kept.items
  case texts => exact (silent_texts silent).symm ▸ kept.texts

theorem denied_before (heard : Heard task message state after) (granted : after.denied = false) :
    state.denied = false := by
  cases heard with
  | item => exact (Bool.or_eq_false_iff.mp granted).1
  | refused => cases granted
  | _ => exact granted

theorem heard_followed (kept : Followed task messages state) (heard : Heard task message state after)
    (unasked : ¬ ServerRequest message) (granted : after.denied = false) :
    Followed task (messages ++ [message]) after := by
  cases heard with
  | greeting answered fresh => exact greeting_followed kept (response_silent answered unasked) fresh
  | thread binds ready fresh filled =>
      exact thread_followed kept (response_silent binds.1 unasked) binds ready fresh filled
  | inventory empty fresh filled =>
      exact inventory_followed kept (response_silent empty.1 unasked) fresh filled
  | turn binds verified fresh =>
      exact turn_followed kept (response_silent binds.1 unasked) binds verified fresh
  | item notice started _ silent said =>
      exact item_followed kept notice started (Bool.or_eq_false_iff.mp granted).2 silent said
  | finished notice started running => exact finished_followed kept notice started running
  | refused => cases granted
  | ignored _ unsaid => exact ignored_followed kept ⟨unsaid.1, unsaid.2⟩

-- A request is denied, or an earlier branch took it, or its id is no number.
theorem request_unnoticed (heard : Heard task message state after)
    (granted : after.denied = false) (asked : ServerRequest message) : Unnoticed message := by
  refine ⟨asked, ?_⟩
  cases heard with
  | greeting answered => exact .inr (.inl answered)
  | thread binds => exact .inr (.inr (.inl binds.1))
  | turn binds => exact .inr (.inr (.inr (.inl binds.1)))
  | inventory empty => exact .inr (.inr (.inr (.inr (.inl empty.1))))
  | item notice => exact .inr (.inr (.inr (.inr (.inr (.inl notice.1)))))
  | finished notice => exact .inr (.inr (.inr (.inr (.inr (.inr notice.1)))))
  | refused => cases granted
  | ignored unasked =>
      rcases unasked with unnumbered | unnamed
      · exact .inl (by simpa using unnumbered)
      · rw [asked.1] at unnamed
        cases unnamed

theorem initial_followed : Followed task [] .initial := by
  constructor
  case turns => exact .inl ⟨rfl, rfl⟩
  case items => exact nofun
  case threaded | verified => exact nofun
  case written | texts => rfl
  all_goals exact fun filled => absurd rfl filled

-- A verified inventory stays with its thread, and only the response that verifies it adds it.
theorem verified_step (kept : Followed task messages state) (heard : Heard task message state after)
    (verified : after.inventoryVerified = true) :
    after.threadId = state.threadId ∧ (state.inventoryVerified = true ∨
      EmptyInventory message ∧ state.inventoryVerified = false ∧ state.threadId ≠ [] ∧
        after.written = state.written ++ [turnStart task state.threadId]) := by
  cases heard with
  | thread _ _ fresh => exact absurd fresh (kept.threaded verified)
  | inventory empty fresh filled => exact ⟨rfl, .inr ⟨empty, fresh, filled, rfl⟩⟩
  | _ => exact ⟨rfl, .inl verified⟩

end Steps

section Runs

variable [NumberFormat] {task : CodexTask} {lines : List JsString} {state next : ParserState}

theorem messages_concat {line : JsString} {message : JsValue} (read : parse line = some message) :
    messagesOf (lines ++ [line]) = messagesOf lines ++ [message] := by
  rw [messagesOf, List.filterMap_append]
  simp [messagesOf, read]

-- What each heard message keeps holds of the messages of all lines.
theorem listening_invariant (holds : List JsString → ParserState → Prop) (base : holds [] .initial)
    (kept : ∀ lines line message state next, Listening task lines state → holds lines state →
      parse line = some message → Listening task (lines ++ [line]) next →
      Heard task message state next → holds (lines ++ [line]) next)
    (listened : Listening task lines state) : holds lines state := by
  refine runs_invariant holds base ?_ listened
  rintro lines _ state next run held ⟨line, rfl, done⟩
  rcases line_answers done with ⟨message, read, -, heard⟩
  exact kept lines line message state next run held read (run.step ⟨line, rfl, done⟩) heard

theorem unasked_run (listened : Listening task lines state) : state.denied = false →
    (∀ message ∈ messagesOf lines, ¬ Unnoticed message) →
    ∀ message ∈ messagesOf lines, ¬ ServerRequest message := by
  refine listening_invariant (fun lines state => state.denied = false →
    (∀ message ∈ messagesOf lines, ¬ Unnoticed message) →
    ∀ message ∈ messagesOf lines, ¬ ServerRequest message) (fun _ _ => nofun) ?_ listened
  intro lines line message state next _ held read _ heard granted noticed
  rw [messages_concat read] at noticed ⊢
  intro other member asked
  rcases List.mem_append.mp member with old | new
  · exact held (denied_before heard granted)
      (fun other member => noticed other (List.mem_append_left _ member)) other old asked
  · rw [List.mem_singleton.mp new] at asked
    exact noticed message (List.mem_append_right _ List.mem_cons_self)
      (request_unnoticed heard granted asked)

theorem followed_run (listened : Listening task lines state) : state.denied = false →
    (∀ message ∈ messagesOf lines, ¬ ServerRequest message) →
    Followed task (messagesOf lines) state := by
  refine listening_invariant (fun lines state => state.denied = false →
    (∀ message ∈ messagesOf lines, ¬ ServerRequest message) →
    Followed task (messagesOf lines) state) (fun _ _ => initial_followed) ?_ listened
  intro lines line message state next _ held read _ heard granted unasked
  rw [messages_concat read] at unasked ⊢
  exact heard_followed (held (denied_before heard granted) fun other member =>
    unasked other (List.mem_append_left _ member)) heard
    (unasked message (List.mem_append_right _ List.mem_cons_self)) granted

theorem opened_run (listened : Listening task lines state) : state.denied = false →
    (∀ message ∈ messagesOf lines, ¬ ServerRequest message) →
    state.inventoryVerified = true → Opened task lines state.threadId := by
  refine listening_invariant (fun lines state => state.denied = false →
    (∀ message ∈ messagesOf lines, ¬ ServerRequest message) →
    state.inventoryVerified = true → Opened task lines state.threadId) (fun _ _ => nofun) ?_ listened
  intro lines line message state next run held read ran heard granted unasked verified
  rw [messages_concat read] at unasked
  have before := denied_before heard granted
  have earlier := fun other member => unasked other (List.mem_append_left _ member)
  have kept := followed_run run before earlier
  rcases verified_step kept heard verified with ⟨same, old | ⟨empty, fresh, filled, added⟩⟩
  · rcases held before earlier old with ⟨front, gate, back, rest⟩
    rcases rest with ⟨opening, first, second, split, more⟩
    rw [same]
    exact ⟨front, gate, back ++ [line], opening, first, second, by rw [split]; simp, more⟩
  · have writes : state.written = [initializedNotice, threadStart task, inventoryList state.threadId] := by
      simp [kept.written, phaseWrites, kept.initialized filled, filled, fresh]
    rw [same]
    exact ⟨lines, line, [], message, state, next, rfl, read, empty, (kept.bound filled).2, run, writes,
      ran, by rw [added, writes]; rfl⟩

/-- A succeeded result is that of a turn that is completed, with exit code zero and nothing denied. -/
theorem succeeded_finish {exitCode : Option JsNumber} {result : FinishedTask}
    (done : finish exitCode state = .ok result) (succeeded : result.outcome = .succeeded) :
    ∃ turn, state.terminal = some turn ∧ state.threadId ≠ [] ∧ state.turnId ≠ [] ∧
      textOf (property "status" turn) = some (js "completed") ∧
      exitCode.any (sameNumber · (.finite 0)) = true ∧ state.denied = false ∧
      result.nativeSessionId = state.threadId ∧
      result.providerOperationId = state.threadId ++ js ":" ++ state.turnId ∧
      result.model = state.observedModel ∧ result.output = join [10] state.texts.values := by
  simp only [finish, bind_ok_iff, required_ok_iff, ensure_ok_iff, pure_ok_iff] at done
  rcases done with ⟨turn, ended, -, ⟨threaded, turned, -⟩, text, -, -, -, rfl⟩
  simp only [finishedOutcome] at succeeded
  split_ifs at succeeded with interrupted completed
  exact ⟨turn, ended, threaded, turned, completed.1, completed.2.1, completed.2.2, rfl, rfl, rfl, rfl⟩

/-- A succeeded task was confined exactly where no request went unnoticed. -/
theorem confinement_gate {exitCode : Option JsNumber} {result : FinishedTask}
    (listened : Listening task lines state) (done : finish exitCode state = .ok result)
    (succeeded : result.outcome = .succeeded) :
    (∃ threadId turnId, Confined task exitCode lines state threadId turnId result) ↔
      ∀ message ∈ messagesOf lines, ¬ Unnoticed message := by
  constructor
  · rintro ⟨threadId, turnId, confined⟩ message member unnoticed
    exact confined.unasked message member unnoticed.1
  · intro noticed
    rcases succeeded_finish done succeeded with
      ⟨turn, ended, threaded, turned, completed, exited, granted, session, operation, model, output⟩
    have unasked := unasked_run listened granted noticed
    have kept := followed_run listened granted unasked
    have verified := kept.verified turned
    refine ⟨state.threadId, state.turnId, ?_⟩
    constructor
    case exited => exact (Option.any_eq_true _ _).mp exited
    case named => exact ⟨session, operation, model.trans (kept.bound threaded).1⟩
    case written => simp [kept.written, phaseWrites, kept.initialized threaded, threaded, verified]
    case opened => exact opened_run listened granted unasked verified
    case started => exact kept.started turned
    case ended =>
      rcases kept.turns with ⟨-, none⟩ | ⟨notice, last, once, held, -, said⟩
      · rw [none] at ended
        cases ended
      · rw [ended] at held
        cases held
        exact ⟨notice, turn, once, said, completed⟩
    case items => exact fun message member marked => (kept.items message member marked).2
    case unasked => exact unasked
    case output => rw [output, Record.values, kept.texts]

end Runs

section Samples

attribute [local instance] recordedEngine

def quietTask : CodexTask := ⟨js "m", js "c", js "w", .work, none⟩

def text (value : String) : JsValue := .str (js value)

def notice (method : String) (params : JsValue) : JsValue :=
  object [("method", text method), ("params", params)]

def greeted : JsValue := object [("id", natural 1), ("result", object [])]

def threadBound : JsValue :=
  object [("id", natural 2), ("result", object [("thread", object [("id", text "t")]),
    ("model", text "m"), ("modelProvider", text "openai")])]

def emptied : JsValue :=
  object [("id", natural 4), ("result", object [("data", .arr []), ("nextCursor", .null)])]

def turnBound : JsValue :=
  object [("id", natural 3), ("result", object [("turn", object [("id", text "u")])])]

def said : JsValue :=
  notice "item/completed" (object [("threadId", text "t"), ("turnId", text "u"),
    ("item", object [("type", text "agentMessage"), ("id", text "i"), ("text", text "o")])])

def turnOver : JsValue :=
  notice "turn/completed" (object [("threadId", text "t"),
    ("turn", object [("id", text "u"), ("status", text "completed")])])

def approval : JsValue := object [("id", text "a"), ("method", text "item/fileChange/requestApproval")]

def hearAll (task : CodexTask) : List JsValue → Hearing Unit
  | [] => pure ()
  | message :: rest => do
      messageHeard task message
      hearAll task rest

-- Objects that are each written as one line are heard as themselves.
theorem hear_messages {task : CodexTask} {messages : List JsValue} :
    ∀ {lines state next}, Listening task lines state →
    (∀ message ∈ messages, reread message = message ∧ objectOf (some message) = .ok message) →
    outcome (hearAll task messages) state = (.ok (), next) →
    Listening task (lines ++ messages.map stringify) next := by
  induction messages with
  | nil =>
      intro lines state next listened _ done
      rw [hearAll, pure_answers_iff] at done
      rw [List.map_nil, List.append_nil]
      exact done.2 ▸ listened
  | cons message rest ih =>
      intro lines state next listened plain done
      rw [hearAll, bind_answers_iff] at done
      rcases done with ⟨_, middle, first, others⟩
      have same := plain message List.mem_cons_self
      have read : parse (stringify message) = some message := by rw [parse_stringify, same.1]
      have heard : outcome (onLine task (stringify message)) state = (.ok (), middle) := by
        simp only [onLine, bind_answers_iff, check_answers_iff, required_ok_iff]
        exact ⟨_, _, ⟨read, rfl⟩, _, _, ⟨same.2, rfl⟩, first⟩
      have more := ih (listened.step ⟨_, rfl, heard⟩)
        (fun other member => plain other (List.mem_cons_of_mem _ member)) others
      rwa [List.map_cons, List.append_cons]

def heardBy (messages : List JsValue) : ParserState := (outcome (hearAll quietTask messages) .initial).2

theorem messages_written {messages : List JsValue} (same : ∀ message ∈ messages, reread message = message) :
    messagesOf (messages.map stringify) = messages := by
  induction messages with
  | nil => rfl
  | cons message rest ih =>
      rw [List.map_cons, messagesOf, List.filterMap_cons, parse_stringify,
        same message List.mem_cons_self]
      exact congrArg (message :: ·) (ih fun other member => same other (List.mem_cons_of_mem _ member))

def quietMessages : List JsValue := [greeted, threadBound, emptied, turnBound, said, turnOver]

def askedMessages : List JsValue := [greeted, threadBound, emptied, turnBound, approval, turnOver]

theorem samples_plain : ∀ message ∈ approval :: quietMessages,
    reread message = message ∧ objectOf (some message) = .ok message := by
  simp only [quietMessages, List.forall_mem_cons]
  exact ⟨⟨rfl, rfl⟩, ⟨rfl, rfl⟩, ⟨rfl, rfl⟩, ⟨rfl, rfl⟩, ⟨rfl, rfl⟩, ⟨rfl, rfl⟩, ⟨rfl, rfl⟩, nofun⟩

theorem quiet_run : Listening quietTask (quietMessages.map stringify) (heardBy quietMessages) :=
  hear_messages .start (fun message member => samples_plain message (List.mem_cons_of_mem _ member))
    (Prod.ext rfl rfl)

theorem asked_plain : ∀ message ∈ askedMessages,
    reread message = message ∧ objectOf (some message) = .ok message := by
  intro message member
  refine samples_plain message ?_
  simp only [askedMessages, quietMessages, List.mem_cons] at member ⊢
  grind

theorem asked_run : Listening quietTask (askedMessages.map stringify) (heardBy askedMessages) :=
  hear_messages .start asked_plain (Prod.ext rfl rfl)

theorem quiet_confinement : ∃ result, finish (some (.finite 0)) (heardBy quietMessages) = .ok result ∧
    result.outcome = .succeeded ∧
    ((∃ threadId turnId, Confined quietTask (some (.finite 0)) (quietMessages.map stringify)
      (heardBy quietMessages) threadId turnId result) ↔
      ∀ message ∈ messagesOf (quietMessages.map stringify), ¬ Unnoticed message) :=
  ⟨_, rfl, rfl, confinement_gate quiet_run rfl rfl⟩

/-- A request with a string as its id is ignored, and the task succeeds. -/
theorem asked_succeeds : ∃ result, Listening quietTask (askedMessages.map stringify) (heardBy askedMessages) ∧
    finish (some (.finite 0)) (heardBy askedMessages) = .ok result ∧ result.outcome = .succeeded ∧
    (∃ message ∈ messagesOf (askedMessages.map stringify), ServerRequest message) ∧
    ¬ ∃ threadId turnId, Confined quietTask (some (.finite 0)) (askedMessages.map stringify)
      (heardBy askedMessages) threadId turnId result := by
  have asked : approval ∈ messagesOf (askedMessages.map stringify) := by
    rw [messages_written fun message member => (asked_plain message member).1]
    simp [askedMessages]
  have request : ServerRequest approval := ⟨rfl, rfl⟩
  refine ⟨_, asked_run, rfl, rfl, ⟨approval, asked, request⟩, ?_⟩
  rintro ⟨threadId, turnId, confined⟩
  exact confined.unasked approval asked request

end Samples

end Horseness.ConfinementGate
