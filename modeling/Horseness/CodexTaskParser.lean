import Horseness.DispatchAuthority
import Horseness.JsonWriting

/-!
The parser of a Codex task: a state machine over the lines of the native process, which picks by
the order of its branches what a message with several of their marks is taken for. A line that is
refused leaves what was written before.
-/

namespace Horseness.CodexTaskParser

open FallibleRuns Records ScriptText JsonValues JsonText Tasks TaskPlans Turns DispatchAuthority

/-- A thrown error; the first is that of `JSON.parse`, the second that of `String`. -/
inductive ParserError where
  | unreadable
  | primitive
  | protocolInvalid
  | toolConfinementFailed
  | nativeRpcError
  | initializeAmbiguous
  | threadModelBindingMismatch
  | turnBindingMismatch
  | threadBindingMismatch
  | outputInvalid
  | itemConflict
  | terminalAmbiguous
  | nativeModelMismatch
  | terminalMissing
  | terminalInvalid
  deriving DecidableEq

/-- What the parser is created with. An effort of the type passes `parseTaskEffortV1`. -/
structure CodexTask where
  model : JsString
  context : JsString
  cwd : JsString
  purpose : TaskKind
  effort : Option TaskEffortV1

structure ParserState where
  threadId : JsString
  turnId : JsString
  observedModel : JsString
  terminal : Option JsValue
  denied : Bool
  initialized : Bool
  inventoryRequested : Bool
  inventoryVerified : Bool
  confinementFailed : Bool
  texts : Record JsString JsString
  /-- The messages that were written, each as one line of JSON. -/
  written : List JsValue
  ended : Bool

def ParserState.initial : ParserState :=
  ⟨[], [], [], none, false, false, false, false, false, .empty, [], false⟩

abbrev Hearing := Turn ParserError ParserState

section Messages

def request (id : Nat) (method : String) (params : JsValue) : JsValue :=
  object [("jsonrpc", .str (js "2.0")), ("id", natural id), ("method", .str (js method)),
    ("params", params)]

def CodexTask.permissions (task : CodexTask) : JsString :=
  match task.purpose with
  | .work => js ":workspace-write"
  | .planner => js ":read-only"

def initializedNotice : JsValue :=
  object [("jsonrpc", .str (js "2.0")), ("method", .str (js "initialized")), ("params", object [])]

def threadConfig (purpose : TaskKind) : JsValue :=
  let off := JsValue.bool false
  let shell := JsValue.bool (purpose = .work)
  object [("web_search", .str (js "disabled")), ("features.apps", off),
    ("features.enable_mcp_apps", off), ("features.plugins", off), ("features.shell_tool", shell),
    ("features.unified_exec", shell), ("features.code_mode", off),
    ("features.code_mode_host", off), ("features.code_mode_only", off),
    ("features.standalone_web_search", off), ("features.web_search_request", off),
    ("features.web_search_cached", off), ("features.tool_suggest", off),
    ("features.multi_agent", off), ("features.multi_agent_v2", off),
    ("features.enable_fanout", off), ("include_environment_context", off),
    ("include_collaboration_mode_instructions", off), ("skills.include_instructions", off)]

def threadStart (task : CodexTask) : JsValue :=
  request 2 "thread/start" (object [("model", .str task.model), ("modelProvider", .str (js "openai")),
    ("cwd", .str task.cwd), ("ephemeral", .bool true), ("approvalPolicy", .str (js "never")),
    ("permissions", .str task.permissions), ("environments", .arr []), ("dynamicTools", .arr []),
    ("config", threadConfig task.purpose), ("developerInstructions", .str task.context)])

def inventoryList (threadId : JsString) : JsValue :=
  request 4 "mcpServerStatus/list" (object [("threadId", .str threadId), ("detail", .str (js "full"))])

def nativeEffort : TaskEffortV1 → JsString
  | .off => js "none"
  | effort => effort.text

def turnInput : JsValue :=
  .arr [object [("type", .str (js "text")),
    ("text", .str (js "Execute the bound task in the supplied developer context" ++
      js " and return its final output.")), ("text_elements", .arr [])]]

def turnStart (task : CodexTask) (threadId : JsString) : JsValue :=
  request 3 "turn/start" (object ([("threadId", .str threadId), ("model", .str task.model)] ++
    (match task.effort with
      | none => []
      | some effort => [("effort", .str (nativeEffort effort))]) ++
    [("approvalPolicy", .str (js "never")), ("permissions", .str task.permissions),
      ("environments", .arr []), ("input", turnInput)]))

def refusal (id : JsNumber) : JsValue :=
  object [("jsonrpc", .str (js "2.0")), ("id", .num id),
    ("error", object [("code", .num (.finite (-32601))),
      ("message", .str (js "Interactive approval is not authorized"))])]

def objectOf : Option JsValue → Except ParserError JsValue
  | some (.obj proto fields) => .ok (.obj proto fields)
  | _ => .error .protocolInvalid

def hasId (id : Nat) (message : JsValue) : Bool :=
  match numberOf (property "id" message) with
  | some number => sameNumber number (.finite id)
  | none => false

def answers (id : Nat) (message : JsValue) : Bool :=
  hasId id message && (property "result" message).isSome

def hasMethod (method : String) (message : JsValue) : Bool :=
  textOf (property "method" message) = some (js method)

def emptyList : Option JsValue → Bool
  | some (.arr []) => true
  | _ => false

def isNullValue : Option JsValue → Bool
  | some .null => true
  | _ => false

def nonZero : Option JsNumber → Bool
  | some number => !sameNumber number (.finite 0)
  | none => false

/-- An item that failed, was declined, or has an error or an exit code other than zero. -/
def failedItem (item : JsValue) : Bool :=
  textOf (property "status" item) = some (js "failed") ||
    textOf (property "status" item) = some (js "declined") ||
    ((property "error" item).isSome && !isNullValue (property "error" item)) ||
    nonZero (numberOf (property "exitCode" item))

def agentMessage (item : JsValue) : Bool := textOf (property "type" item) = some (js "agentMessage")

end Messages

section Branches

variable (task : CodexTask) (message : JsValue)

def write (lines : List JsValue) : Hearing Unit :=
  modify fun state => { state with written := state.written ++ lines }

def initializeAnswered : Hearing Unit := do
  let state ← get
  check (ensure (state.initialized = false) .initializeAmbiguous)
  modify fun state => { state with initialized := true }
  write [initializedNotice, threadStart task]

def threadAnswered : Hearing Unit := do
  let result ← check (objectOf (property "result" message))
  let thread ← check (objectOf (property "thread" result))
  let state ← get
  let threadId ← check (required (textOf (property "id" thread)) .threadModelBindingMismatch)
  check (ensure (state.initialized = true ∧ state.threadId = [] ∧ threadId ≠ [] ∧
    textOf (property "model" result) = some task.model ∧
    textOf (property "modelProvider" result) = some (js "openai")) .threadModelBindingMismatch)
  modify fun state =>
    { state with threadId, observedModel := task.model, inventoryRequested := true }
  write [inventoryList threadId]

/-- No ambient server is approved, and until that is known the confinement has failed. -/
def inventoryAnswered : Hearing Unit := do
  modify fun state => { state with confinementFailed := true }
  let inventory ← check (objectOf (property "result" message))
  let state ← get
  check (ensure (state.inventoryRequested = true ∧ state.inventoryVerified = false ∧
    state.threadId ≠ [] ∧ emptyList (property "data" inventory) = true ∧
    isNullValue (property "nextCursor" inventory) = true) .toolConfinementFailed)
  modify fun state => { state with inventoryVerified := true, confinementFailed := false }
  write [turnStart task state.threadId]

def turnAnswered : Hearing Unit := do
  let state ← get
  if state.inventoryVerified = false then do
    modify fun state => { state with confinementFailed := true }
    throw .toolConfinementFailed
  else do
    let result ← check (objectOf (property "result" message))
    let turn ← check (objectOf (property "turn" result))
    let turnId ← check (required (textOf (property "id" turn)) .turnBindingMismatch)
    check (ensure (state.turnId = [] ∧ turnId ≠ []) .turnBindingMismatch)
    modify fun state => { state with turnId }

def agentText (item : JsValue) : Hearing Unit := do
  let id ← check (required (textOf (property "id" item)) .outputInvalid)
  let text ← check (required (textOf (property "text" item)) .outputInvalid)
  let state ← get
  check (ensure ((state.texts.get id).getD text = text) .itemConflict)
  modify fun state => { state with texts := state.texts.set id text }

def itemCompleted (params : JsValue) : Hearing Unit := do
  let state ← get
  check (ensure (state.turnId ≠ [] ∧ textOf (property "turnId" params) = some state.turnId ∧
    state.terminal.isNone) .turnBindingMismatch)
  let item ← check (objectOf (property "item" params))
  modify fun state => { state with denied := state.denied || failedItem item }
  if agentMessage item = true then agentText item else pure ()

def turnCompleted (params : JsValue) : Hearing Unit := do
  let turn ← check (objectOf (property "turn" params))
  let state ← get
  check (ensure (state.terminal.isNone ∧ state.turnId ≠ [] ∧
    textOf (property "id" turn) = some state.turnId) .terminalAmbiguous)
  check (ensure ((property "model" turn).isNone ∨
    textOf (property "model" turn) = some state.observedModel) .nativeModelMismatch)
  modify fun state => { state with terminal := some turn, ended := true }

def completed : Hearing Unit := do
  let params ← check (objectOf (property "params" message))
  let state ← get
  check (ensure (state.threadId ≠ [] ∧ textOf (property "threadId" params) = some state.threadId)
    .threadBindingMismatch)
  if hasMethod "item/completed" message = true then itemCompleted params else turnCompleted params

/-- A request of the server is denied where its id is a number; all else is ignored. -/
def othersHeard : Hearing Unit :=
  match numberOf (property "id" message), textOf (property "method" message) with
  | some id, some _ => do
      modify fun state => { state with denied := true }
      write [refusal id]
  | _, _ => pure ()

def rpcFailed : Hearing Unit := do
  modify fun state => { state with confinementFailed := state.confinementFailed || !state.inventoryVerified }
  throw .nativeRpcError

def messageHeard : Hearing Unit := do
  let state ← get
  check (ensure (state.confinementFailed = false) .toolConfinementFailed)
  if (property "error" message).isSome = true then rpcFailed
  else if answers 1 message = true then initializeAnswered task
  else if answers 2 message = true then threadAnswered task message
  else if answers 4 message = true then inventoryAnswered task message
  else if answers 3 message = true then turnAnswered message
  else if (hasMethod "item/completed" message || hasMethod "turn/completed" message) = true then
    completed message
  else othersHeard message

end Branches

section Parser

variable [NumberFormat]

def onLine (task : CodexTask) (line : JsString) : Hearing Unit := do
  let value ← check (required (parse line) .unreadable)
  let message ← check (objectOf (some value))
  messageHeard task message

mutual

/-- `String`, where it does not throw: an object with a `toString` of its own has none to call. -/
def scriptText : JsValue → Option JsString
  | .null => some (js "null")
  | .bool value => some (if value then js "true" else js "false")
  | .num .nan => some (js "NaN")
  | .num (.infinite false) => some (js "Infinity")
  | .num (.infinite true) => some (js "-Infinity")
  | .num number => some (JsonText.JsNumber.serialize number)
  | .str text => some text
  | .arr items => (itemTexts items).map (join [comma])
  | .obj _ fields =>
      if (findEntry (js "toString") fields).isSome then none else some (js "[object Object]")
termination_by structural value => value

def itemTexts : List JsValue → Option (List JsString)
  | [] => some []
  | .null :: rest => (itemTexts rest).map ([] :: ·)
  | item :: rest => (scriptText item).bind fun text => (itemTexts rest).map (text :: ·)
termination_by structural items => items

end

structure FinishedTask where
  nativeSessionId : JsString
  providerOperationId : JsString
  model : JsString
  outcome : AttemptTerminalState
  output : JsString
  terminal : JsString

def finishedOutcome (status : Option JsValue) (exitCode : Option JsNumber) (denied : Bool) :
    AttemptTerminalState :=
  if textOf status = some (js "interrupted") then .cancelled
  else if textOf status = some (js "completed") ∧
      exitCode.any (sameNumber · (.finite 0)) = true ∧ denied = false then .succeeded
  else .failed

def finish (exitCode : Option JsNumber) (state : ParserState) : Except ParserError FinishedTask := do
  let terminal ← required state.terminal .terminalMissing
  ensure (state.threadId ≠ [] ∧ state.turnId ≠ [] ∧ state.observedModel ≠ []) .terminalMissing
  let status := property "status" terminal
  let text ← required (match status with
    | none => some (js "undefined")
    | some value => scriptText value) .primitive
  ensure (text ∈ [js "completed", js "failed", js "interrupted"]) .terminalInvalid
  return {
    nativeSessionId := state.threadId
    providerOperationId := state.threadId ++ js ":" ++ state.turnId
    model := state.observedModel
    outcome := finishedOutcome status exitCode state.denied
    output := join [10] state.texts.values
    terminal := if state.denied then js "native_tool_denied_or_failed" else text }

end Parser

section Effects

def BindsThread (task : CodexTask) (threadId : JsString) (message : JsValue) : Prop :=
  answers 2 message = true ∧ ∃ result thread, objectOf (property "result" message) = .ok result ∧
    objectOf (property "thread" result) = .ok thread ∧ textOf (property "id" thread) = some threadId ∧
    textOf (property "model" result) = some task.model ∧
    textOf (property "modelProvider" result) = some (js "openai")

def EmptyInventory (message : JsValue) : Prop :=
  answers 4 message = true ∧ ∃ inventory, objectOf (property "result" message) = .ok inventory ∧
    emptyList (property "data" inventory) = true ∧ isNullValue (property "nextCursor" inventory) = true

def BindsTurn (turnId : JsString) (message : JsValue) : Prop :=
  answers 3 message = true ∧ ∃ result turn, objectOf (property "result" message) = .ok result ∧
    objectOf (property "turn" result) = .ok turn ∧ textOf (property "id" turn) = some turnId

def ItemNotice (threadId turnId : JsString) (message item : JsValue) : Prop :=
  hasMethod "item/completed" message = true ∧ ∃ params,
    objectOf (property "params" message) = .ok params ∧
    textOf (property "threadId" params) = some threadId ∧
    textOf (property "turnId" params) = some turnId ∧ objectOf (property "item" params) = .ok item

def TurnNotice (threadId turnId : JsString) (message turn : JsValue) : Prop :=
  hasMethod "turn/completed" message = true ∧ ∃ params,
    objectOf (property "params" message) = .ok params ∧
    textOf (property "threadId" params) = some threadId ∧
    objectOf (property "turn" params) = .ok turn ∧ textOf (property "id" turn) = some turnId

/-- What a message that is not refused does, by the branch that takes it. -/
inductive Heard (task : CodexTask) (message : JsValue) (state : ParserState) : ParserState → Prop
  | greeting (answered : answers 1 message = true) (fresh : state.initialized = false) :
      Heard task message state { state with
        initialized := true, written := state.written ++ [initializedNotice, threadStart task] }
  | thread {threadId} (binds : BindsThread task threadId message) (ready : state.initialized = true)
      (fresh : state.threadId = []) (filled : threadId ≠ []) :
      Heard task message state { state with
        threadId, observedModel := task.model, inventoryRequested := true
        written := state.written ++ [inventoryList threadId] }
  | inventory (empty : EmptyInventory message) (fresh : state.inventoryVerified = false)
      (filled : state.threadId ≠ []) :
      Heard task message state { state with
        inventoryVerified := true, confinementFailed := false
        written := state.written ++ [turnStart task state.threadId] }
  | turn {turnId} (binds : BindsTurn turnId message) (verified : state.inventoryVerified = true)
      (fresh : state.turnId = []) (filled : turnId ≠ []) :
      Heard task message state { state with turnId }
  | item {item texts} (notice : ItemNotice state.threadId state.turnId message item)
      (started : state.turnId ≠ []) (running : state.terminal = none)
      (kept : agentMessage item = false → texts = state.texts)
      (said : agentMessage item = true → ∃ id text, textOf (property "id" item) = some id ∧
        textOf (property "text" item) = some text ∧ (state.texts.get id).getD text = text ∧
        texts = state.texts.set id text) :
      Heard task message state { state with denied := state.denied || failedItem item, texts }
  | finished {turn} (notice : TurnNotice state.threadId state.turnId message turn)
      (started : state.turnId ≠ []) (running : state.terminal = none) :
      Heard task message state { state with terminal := some turn, ended := true }
  | refused {id} (numbered : numberOf (property "id" message) = some id)
      (named : (textOf (property "method" message)).isSome = true) :
      Heard task message state { state with denied := true, written := state.written ++ [refusal id] }
  | ignored (unasked : (numberOf (property "id" message)).isSome = false ∨
        (textOf (property "method" message)).isSome = false)
      (unsaid : hasMethod "item/completed" message = false ∧ hasMethod "turn/completed" message = false) :
      Heard task message state state

variable {task : CodexTask} {message : JsValue} {state after : ParserState}

theorem greeting_answers (answered : answers 1 message = true)
    (done : outcome (initializeAnswered task) state = (.ok (), after)) :
    Heard task message state after := by
  simp only [initializeAnswered, write, bind_answers_iff, outcome_get, outcome_modify,
    check_answers_iff, ensure_ok_iff, Prod.mk.injEq, Except.ok.injEq] at done
  rcases done with ⟨_, _, ⟨rfl, rfl⟩, _, _, ⟨fresh, rfl⟩, _, _, ⟨-, rfl⟩, -, rfl⟩
  exact .greeting answered fresh

theorem thread_answers (answered : answers 2 message = true)
    (done : outcome (threadAnswered task message) state = (.ok (), after)) :
    Heard task message state after := by
  simp only [threadAnswered, write, bind_answers_iff, outcome_get, outcome_modify,
    check_answers_iff, ensure_ok_iff, required_ok_iff, Prod.mk.injEq, Except.ok.injEq] at done
  rcases done with ⟨result, _, ⟨given, rfl⟩, thread, _, ⟨made, rfl⟩, _, _, ⟨rfl, rfl⟩, threadId, _,
    ⟨named, rfl⟩, _, _, ⟨⟨ready, fresh, filled, model, provider⟩, rfl⟩, _, _, ⟨-, rfl⟩, -, rfl⟩
  exact .thread ⟨answered, result, thread, given, made, named, model, provider⟩ ready fresh filled

theorem inventory_answers (answered : answers 4 message = true)
    (done : outcome (inventoryAnswered task message) state = (.ok (), after)) :
    Heard task message state after := by
  simp only [inventoryAnswered, write, bind_answers_iff, outcome_get, outcome_modify,
    check_answers_iff, ensure_ok_iff, Prod.mk.injEq, Except.ok.injEq] at done
  rcases done with ⟨_, _, ⟨-, rfl⟩, inventory, _, ⟨given, rfl⟩, _, _, ⟨rfl, rfl⟩, _, _,
    ⟨⟨-, fresh, filled, empty, last⟩, rfl⟩, _, _, ⟨-, rfl⟩, -, rfl⟩
  exact .inventory ⟨answered, inventory, given, empty, last⟩ fresh filled

theorem turn_answers (answered : answers 3 message = true)
    (done : outcome (turnAnswered message) state = (.ok (), after)) :
    Heard task message state after := by
  simp only [turnAnswered, bind_answers_iff, outcome_get, Prod.mk.injEq, Except.ok.injEq] at done
  rcases done with ⟨_, _, ⟨rfl, rfl⟩, done⟩
  by_cases verified : state.inventoryVerified = false
  · rw [if_pos verified] at done
    simp [bind_answers_iff] at done
  · simp only [if_neg verified, bind_answers_iff, outcome_modify, check_answers_iff, ensure_ok_iff,
      required_ok_iff, Prod.mk.injEq] at done
    rcases done with ⟨result, _, ⟨given, rfl⟩, turn, _, ⟨made, rfl⟩, turnId, _, ⟨named, rfl⟩, _, _,
      ⟨⟨fresh, filled⟩, rfl⟩, -, rfl⟩
    exact .turn ⟨answered, result, turn, given, made, named⟩ (Bool.eq_true_of_not_eq_false verified)
      fresh filled

theorem agent_text_answers {item : JsValue}
    (done : outcome (agentText item) state = (.ok (), after)) : ∃ id text,
      textOf (property "id" item) = some id ∧ textOf (property "text" item) = some text ∧
      (state.texts.get id).getD text = text ∧ after = { state with texts := state.texts.set id text } := by
  simp only [agentText, bind_answers_iff, outcome_get, outcome_modify, check_answers_iff,
    ensure_ok_iff, required_ok_iff, Prod.mk.injEq, Except.ok.injEq] at done
  rcases done with ⟨id, _, ⟨named, rfl⟩, text, _, ⟨said, rfl⟩, _, _, ⟨rfl, rfl⟩, _, _, ⟨same, rfl⟩,
    -, rfl⟩
  exact ⟨id, text, named, said, same, rfl⟩

theorem item_answers {params : JsValue} (marked : hasMethod "item/completed" message = true)
    (given : objectOf (property "params" message) = .ok params)
    (threaded : textOf (property "threadId" params) = some state.threadId)
    (done : outcome (itemCompleted params) state = (.ok (), after)) :
    Heard task message state after := by
  simp only [itemCompleted, bind_answers_iff, outcome_get, outcome_modify, check_answers_iff,
    ensure_ok_iff, Prod.mk.injEq, Except.ok.injEq] at done
  rcases done with ⟨_, _, ⟨rfl, rfl⟩, _, _, ⟨⟨started, turned, running⟩, rfl⟩, item, _, ⟨made, rfl⟩,
    _, _, ⟨-, rfl⟩, done⟩
  have notice : ItemNotice state.threadId state.turnId message item :=
    ⟨marked, params, given, threaded, turned, made⟩
  have none := Option.isNone_iff_eq_none.mp running
  by_cases agent : agentMessage item = true
  · rw [if_pos agent] at done
    rcases agent_text_answers done with ⟨id, text, named, said, same, rfl⟩
    exact .item notice started none (fun silent => by simp [agent] at silent)
      (fun _ => ⟨id, text, named, said, same, rfl⟩)
  · rw [if_neg agent, pure_answers_iff] at done
    rcases done with ⟨-, rfl⟩
    exact .item notice started none (fun _ => rfl) (fun spoken => absurd spoken agent)

theorem turn_completed_answers {params : JsValue} (marked : hasMethod "turn/completed" message = true)
    (given : objectOf (property "params" message) = .ok params)
    (threaded : textOf (property "threadId" params) = some state.threadId)
    (done : outcome (turnCompleted params) state = (.ok (), after)) :
    Heard task message state after := by
  simp only [turnCompleted, bind_answers_iff, outcome_get, outcome_modify, check_answers_iff,
    ensure_ok_iff, Prod.mk.injEq, Except.ok.injEq] at done
  rcases done with ⟨turn, _, ⟨made, rfl⟩, _, _, ⟨rfl, rfl⟩, _, _, ⟨⟨running, started, named⟩, rfl⟩, _,
    _, ⟨-, rfl⟩, -, rfl⟩
  exact .finished ⟨marked, params, given, threaded, made, named⟩ started
    (Option.isNone_iff_eq_none.mp running)

theorem completed_answers
    (marked : (hasMethod "item/completed" message || hasMethod "turn/completed" message) = true)
    (done : outcome (completed message) state = (.ok (), after)) : Heard task message state after := by
  simp only [completed, bind_answers_iff, outcome_get, check_answers_iff, ensure_ok_iff,
    Prod.mk.injEq, Except.ok.injEq] at done
  rcases done with ⟨params, _, ⟨given, rfl⟩, _, _, ⟨rfl, rfl⟩, _, _, ⟨⟨-, threaded⟩, rfl⟩, done⟩
  by_cases item : hasMethod "item/completed" message = true
  · rw [if_pos item] at done
    exact item_answers item given threaded done
  · rw [if_neg item] at done
    have turn : hasMethod "turn/completed" message = true := by simpa [item] using marked
    exact turn_completed_answers turn given threaded done

theorem others_answers
    (unmarked : ¬ (hasMethod "item/completed" message || hasMethod "turn/completed" message) = true)
    (done : outcome (othersHeard message) state = (.ok (), after)) : Heard task message state after := by
  have unsaid := Bool.or_eq_false_iff.mp (Bool.eq_false_of_not_eq_true unmarked)
  unfold othersHeard at done
  cases numbered : numberOf (property "id" message) with
  | none =>
      simp only [numbered, pure_answers_iff] at done
      exact done.2 ▸ .ignored (.inl (by rw [numbered]; rfl)) unsaid
  | some id =>
      cases named : textOf (property "method" message) with
      | none =>
          simp only [numbered, named, pure_answers_iff] at done
          exact done.2 ▸ .ignored (.inr (by rw [named]; rfl)) unsaid
      | some method =>
          simp only [numbered, named, write, bind_answers_iff, outcome_modify, Prod.mk.injEq] at done
          rcases done with ⟨_, _, ⟨-, rfl⟩, -, rfl⟩
          exact .refused numbered (by rw [named]; rfl)

-- A message that is not refused is taken by the first branch whose marks it has.
theorem message_answers (done : outcome (messageHeard task message) state = (.ok (), after)) :
    state.confinementFailed = false ∧ property "error" message = none ∧
      Heard task message state after := by
  simp only [messageHeard, bind_answers_iff, outcome_get, check_answers_iff, ensure_ok_iff,
    Prod.mk.injEq, Except.ok.injEq] at done
  rcases done with ⟨_, _, ⟨rfl, rfl⟩, _, _, ⟨confined, rfl⟩, done⟩
  by_cases failed : (property "error" message).isSome = true
  · rw [if_pos failed, rpcFailed] at done
    simp [bind_answers_iff] at done
  · rw [if_neg failed] at done
    refine ⟨confined, by simpa using failed, ?_⟩
    by_cases first : answers 1 message = true
    · exact greeting_answers first (by rwa [if_pos first] at done)
    rw [if_neg first] at done
    by_cases second : answers 2 message = true
    · exact thread_answers second (by rwa [if_pos second] at done)
    rw [if_neg second] at done
    by_cases fourth : answers 4 message = true
    · exact inventory_answers fourth (by rwa [if_pos fourth] at done)
    rw [if_neg fourth] at done
    by_cases third : answers 3 message = true
    · exact turn_answers third (by rwa [if_pos third] at done)
    rw [if_neg third] at done
    by_cases marked : (hasMethod "item/completed" message || hasMethod "turn/completed" message) = true
    · exact completed_answers marked (by rwa [if_pos marked] at done)
    · exact others_answers marked (by rwa [if_neg marked] at done)

variable [NumberFormat]

theorem line_answers {line : JsString} (done : outcome (onLine task line) state = (.ok (), after)) :
    ∃ message, parse line = some message ∧ property "error" message = none ∧
      Heard task message state after := by
  simp only [onLine, bind_answers_iff, check_answers_iff, required_ok_iff] at done
  rcases done with ⟨value, _, ⟨read, rfl⟩, message, _, ⟨made, rfl⟩, done⟩
  have same : message = value := by
    cases value with
    | obj proto fields => exact (Except.ok.inj made).symm
    | _ => cases made
  exact ⟨message, same ▸ read, (message_answers done).2⟩

end Effects

end Horseness.CodexTaskParser
