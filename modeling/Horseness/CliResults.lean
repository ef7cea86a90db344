import Mathlib.Algebra.Group.Nat.Defs
import Horseness.JsonPaths
import Horseness.JsonWriting

/-!
The results of the command line: what is redacted before a result is shown, and the two ways to show
one. A redacted object whose prototype was set has it under `__proto__`, a name that no redacted
object has as a member of its own.
-/

namespace Horseness.CliResults

open Records ScriptText JsonText JsonValues

section Patterns

/-- Regular expressions, as far as the patterns for secrets need them. -/
inductive Pattern where
  | done
  | one (accepts : UInt16 → Bool)
  | many (accepts : UInt16 → Bool)
  | boundary
  | seq (first second : Pattern)
  | either (first second : Pattern)

abbrev Place := Option UInt16 × JsString

/-- The simple case folding, as far as it ends at an ASCII letter: U+017F and U+212A do. -/
def folded (unit : UInt16) : UInt16 :=
  if 65 ≤ unit ∧ unit ≤ 90 then unit + 32
  else if unit = 0x17F then 115
  else if unit = 0x212A then 107
  else unit

def letterUnit (unit : UInt16) : Bool := 97 ≤ folded unit && folded unit ≤ 122

/-- What `\w` matches without regard to case. -/
def wordUnit (unit : UInt16) : Bool := letterUnit unit || digitUnit unit || unit == 95

def repeated (accepts : UInt16 → Bool) : Option UInt16 → JsString → List Place
  | before, [] => [(before, [])]
  | before, unit :: rest =>
      (before, unit :: rest) :: if accepts unit then repeated accepts (some unit) rest else []

def Pattern.ends : Pattern → Place → List Place
  | .done, place => [place]
  | .one accepts, place =>
      match place.2 with
      | [] => []
      | unit :: rest => if accepts unit then [(some unit, rest)] else []
  | .many accepts, place => repeated accepts place.1 place.2
  | .boundary, place => if place.1.any wordUnit = place.2.head?.any wordUnit then [] else [place]
  | .seq first second, place => (first.ends place).flatMap second.ends
  | .either first second, place => first.ends place ++ second.ends place

def places : Option UInt16 → JsString → List Place
  | before, [] => [(before, [])]
  | before, unit :: rest => (before, unit :: rest) :: places (some unit) rest

/-- `pattern.test(text)`. -/
def Pattern.test (pattern : Pattern) (text : JsString) : Bool :=
  (places none text).any fun place => !(pattern.ends place).isEmpty

def spelled (letters : String) : Pattern :=
  (js letters).foldr (fun letter rest => .seq (.one fun unit => folded unit == letter) rest) .done

def among (letters : String) : Pattern := .one fun unit => (js letters).contains (folded unit)

def optional (pattern : Pattern) : Pattern := .either pattern .done

def oneOf : List Pattern → Pattern
  | [] => .one fun _ => false
  | [pattern] => pattern
  | pattern :: rest => .either pattern (oneOf rest)

def several (accepts : UInt16 → Bool) : Pattern := .seq (.one accepts) (.many accepts)

def secretWord : Pattern :=
  oneOf [spelled "authorization", spelled "bootstrap", spelled "credential", spelled "password",
    spelled "passwd", .seq (spelled "private") (.seq (optional (among "-_")) (spelled "key")),
    spelled "recovery", spelled "secret", spelled "token"]

def SECRET_KEY : Pattern := secretWord

def SECRET_VALUE : Pattern :=
  oneOf [.seq (spelled "bearer") (several trimmed),
    .seq (spelled "-----begin ") (.seq (.many fun unit => letterUnit unit || unit == 32)
      (spelled "private key-----")),
    .seq .boundary (.seq secretWord .boundary),
    .seq .boundary (.seq
      (oneOf [.seq (spelled "gh") (.seq (among "pousr") (spelled "_")), .seq (spelled "sk") (among "_-"),
        .seq (spelled "xox") (.seq (among "baprs") (spelled "-"))])
      (several fun unit => wordUnit unit || unit == 45))]

end Patterns

section Redaction

def REDACTED : JsString := js "[REDACTED]"

/-- `explicit.has(key.toLowerCase()) || SECRET_KEY.test(key)`, for any lower casing. -/
def hiddenKey (toLowerCase : JsString → JsString) (secretKeys : List JsString) (key : JsString) : Bool :=
  (secretKeys.map toLowerCase).contains (toLowerCase key) || SECRET_KEY.test key

/-- Whether an assignment leaves a trace: setting `__proto__` to a primitive does nothing. -/
def assigned (entry : JsString × JsValue) : Bool :=
  entry.1 != js "__proto__" || match entry.2 with
    | .obj _ _ | .arr _ | .null => true
    | _ => false

variable (hidden : JsString → Bool)

mutual

def visit : JsValue → Option JsString → JsValue
  | .str text, key =>
      if key.any hidden then .str REDACTED
      else if key ≠ some (js "command") then .str (if SECRET_VALUE.test text then REDACTED else text)
      else .str text
  | .arr items, key => if key.any hidden then .str REDACTED else .arr (visitItems items)
  | .obj _ fields, key =>
      if key.any hidden then .str REDACTED
      else .obj .object ((sortFields (visitFields fields)).filter assigned)
  | current, key => if key.any hidden then .str REDACTED else current
termination_by structural current => current

def visitItems : List JsValue → List JsValue
  | [] => []
  | item :: rest => visit item none :: visitItems rest
termination_by structural items => items

def visitFields : List (JsString × JsValue) → List (JsString × JsValue)
  | [] => []
  | (key, value) :: rest => (key, visit value (some key)) :: visitFields rest
termination_by structural fields => fields

end

end Redaction

def redactCliValueV1 (toLowerCase : JsString → JsString) (value : JsValue)
    (secretKeys : List JsString) : JsValue :=
  visit (hiddenKey toLowerCase secretKeys) value none

inductive CliResultV1 where
  | success (command : JsString) (data : JsValue) (exitCode : Option Nat)
  | failure (command code message : JsString) (details : JsValue) (exitCode : Option Nat)

def exitMember : Option Nat → List (String × JsValue)
  | none => []
  | some code => [("exitCode", natural code)]

def CliResultV1.toValue : CliResultV1 → JsValue
  | .success command data exitCode => object
      ([("schemaVersion", .str (js "1")), ("ok", .bool true), ("command", .str command), ("data", data)]
        ++ exitMember exitCode)
  | .failure command code message details exitCode => object
      ([("schemaVersion", .str (js "1")), ("ok", .bool false), ("command", .str command),
        ("error", object [("code", .str code), ("message", .str message), ("details", details)])]
        ++ exitMember exitCode)

def CliResultV1.command : CliResultV1 → JsString
  | .success command _ _ => command
  | .failure command _ _ _ _ => command

section Rendering

variable [NumberFormat]

/-- The index that a name spells, which orders it before the names that spell none. -/
def indexName (name : JsString) : Option Nat := (arrayIndex name).filter (· < 2 ^ 32 - 1)

/-- An object lists its indices first, in the order of their numbers. -/
def ownOrder {Value : Type} (sorted : List (JsString × Value)) : List (JsString × Value) :=
  (sorted.filter fun entry => (indexName entry.1).isSome).insertionSort
      (fun left right => (indexName left.1).getD 0 ≤ (indexName right.1).getD 0)
    ++ sorted.filter fun entry => (indexName entry.1).isNone

mutual

def canonicalize : JsValue → JsValue
  | .arr items => .arr (canonicalizeItems items)
  | .obj _ fields => .obj .object (ownOrder (sortFields (canonicalizeFields fields)))
  | value => value
termination_by structural value => value

def canonicalizeItems : List JsValue → List JsValue
  | [] => []
  | item :: rest => canonicalize item :: canonicalizeItems rest
termination_by structural items => items

def canonicalizeFields : List (JsString × JsValue) → List (JsString × JsValue)
  | [] => []
  | (key, value) :: rest =>
      if key = js "__proto__" then canonicalizeFields rest
      else (key, canonicalize value) :: canonicalizeFields rest
termination_by structural fields => fields

end

def newline : JsString := [10]

def renderCliJsonV1 (toLowerCase : JsString → JsString) (result : CliResultV1)
    (secretKeys : List JsString) : JsString :=
  JsonWriting.stringify (canonicalize (redactCliValueV1 toLowerCase result.toValue secretKeys)) ++ newline

/-- What a script throws at a property of `undefined` and at a method that is missing. -/
inductive Fault where
  | typeError

/-- What a property holds; `none` is `undefined`. -/
abbrev Read := Option JsValue

mutual

def member (key : JsString) : JsValue → Read
  | .obj _ fields => (findEntry key fields).or (inherited key fields)
  | .arr items => if key = js "length" then natural items.length else none
  | .str text => if key = js "length" then natural text.length else none
  | _ => none
termination_by structural value => value

def inherited (key : JsString) : List (JsString × JsValue) → Read
  | [] => none
  | (name, proto) :: rest => if name = js "__proto__" then member key proto else inherited key rest
termination_by structural fields => fields

end

mutual

def convertible : JsValue → Bool
  | .obj _ fields => (findEntry (js "toString") fields).isNone && convertibleProto fields
  | .null => false
  | _ => true
termination_by structural value => value

def convertibleProto : List (JsString × JsValue) → Bool
  | [] => true
  | (name, proto) :: rest => if name = js "__proto__" then convertible proto else convertibleProto rest
termination_by structural fields => fields

end

mutual

def inheritsArray : JsValue → Bool
  | .arr items => itemsInherit items
  | .obj _ fields => fieldsInherit fields
  | _ => false
termination_by structural value => value

def itemsInherit : List JsValue → Bool
  | [] => false
  | item :: rest => inheritsArray item || itemsInherit rest
termination_by structural items => items

def fieldsInherit : List (JsString × JsValue) → Bool
  | [] => false
  | (name, value) :: rest =>
      (match value with
        | .arr _ => name == js "__proto__"
        | _ => false) || inheritsArray value || fieldsInherit rest
termination_by structural fields => fields

end

def read (value : Read) (key : String) : Except Fault Read :=
  match value with
  | none | some .null => throw .typeError
  | some value => return member (js key) value

def numberText : JsNumber → JsString
  | .nan => js "NaN"
  | .infinite negative => if negative then js "-Infinity" else js "Infinity"
  | value => JsonText.JsNumber.serialize value

def truthy : Read → Bool
  | none | some .null => false
  | some (.bool value) => value
  | some (.num value) => value != .nan && numberText value != js "0"
  | some (.str text) => !text.isEmpty
  | some _ => true

/-- `===`. No two properties of a result hold one object. -/
def identical : Read → Read → Bool
  | none, none | some .null, some .null => true
  | some (.bool left), some (.bool right) => left == right
  | some (.num left), some (.num right) => left != .nan && numberText left == numberText right
  | some (.str left), some (.str right) => left == right
  | _, _ => false

mutual

def displayed : JsValue → JsString
  | .null => js "null"
  | .bool value => if value then js "true" else js "false"
  | .num value => numberText value
  | .str text => text
  | .arr items => join [comma] (displayedItems items)
  | .obj _ _ => js "[object Object]"
termination_by structural value => value

def displayedItems : List JsValue → List JsString
  | [] => []
  | .null :: rest => [] :: displayedItems rest
  | item :: rest => displayed item :: displayedItems rest
termination_by structural items => items

end

def display : Read → JsString
  | none => js "undefined"
  | some value => displayed value

mutual

def converted : JsValue → Except Fault JsString
  | .arr items => do return join [comma] (← convertedItems items)
  | .obj proto fields =>
      if convertible (.obj proto fields) then return js "[object Object]" else throw .typeError
  | value => return displayed value
termination_by structural value => value

def convertedItems : List JsValue → Except Fault (List JsString)
  | [] => return []
  | .null :: rest => return [] :: (← convertedItems rest)
  | item :: rest => return (← converted item) :: (← convertedItems rest)
termination_by structural items => items

end

def joined : Read → Except Fault JsString
  | some (.arr items) => do return join (js ", ") (← convertedItems items)
  | _ => throw .typeError

def mapped (change : Read → Except Fault JsString) : Read → Except Fault (List JsString)
  | some (.arr items) => items.mapM fun item => change (some item)
  | _ => throw .typeError

def characters : JsString → List JsValue
  | high :: low :: rest =>
      if highSurrogate high ∧ lowSurrogate low then .str [high, low] :: characters rest
      else .str [high] :: characters (low :: rest)
  | [unit] => [.str [unit]]
  | [] => []

def elements : Read → Except Fault (List JsValue)
  | some (.arr items) => return items
  | some (.str text) => return characters text
  | _ => throw .typeError

def jsonText : Read → JsString
  | none => js "undefined"
  | some value => JsonWriting.stringify (canonicalize value)

def quoted : Read → JsString
  | none | some .null => jsonText (some (.str []))
  | value => jsonText value

def spread (margin : Nat) (opening closing : UInt16) (parts : List JsString) : JsString :=
  if parts.isEmpty then [opening, closing]
  else opening :: (join [comma] (parts.map (newline ++ List.replicate (margin + 2) 32 ++ ·))
    ++ newline ++ List.replicate margin 32 ++ [closing])

mutual

def pretty : JsValue → Nat → JsString
  | .arr items, margin => spread margin openBracket closeBracket (prettyItems items (margin + 2))
  | .obj _ fields, margin => spread margin openBrace closeBrace (prettyFields fields (margin + 2))
  | value, _ => JsonWriting.stringify value
termination_by structural value => value

def prettyItems : List JsValue → Nat → List JsString
  | [], _ => []
  | item :: rest, margin => pretty item margin :: prettyItems rest margin
termination_by structural items => items

def prettyFields : List (JsString × JsValue) → Nat → List JsString
  | [], _ => []
  | (name, value) :: rest, margin =>
      (JsonWriting.quoteText name ++ [colon, 32] ++ pretty value margin) :: prettyFields rest margin
termination_by structural fields => fields

end

def prettyText : Read → JsString
  | none => js "undefined"
  | some value => pretty (canonicalize value) 0

def dash : JsString := [32, 0x2014, 32]

def unlines (lines : List JsString) : JsString := join newline lines ++ newline

def showAttempt (attempt : Read) : Except Fault (List JsString) := do
  let text key := display <$> read attempt key
  let head := js "Attempt " ++ (← text "attemptId") ++ js " generation " ++ (← text "generation")
    ++ js ": " ++ (← text "adapterId") ++ js " / " ++ (← text "model") ++ js " [" ++ (← text "state")
    ++ js "]"
  let notes ← ["providerOperationId", "receiptDigest", "outputDigest", "failureCode"].mapM fun key => do
    match ← read attempt key with
    | none | some .null => return []
    | value => return [js "  " ++ js key ++ js ": " ++ display value]
  return head :: notes.flatten

def showWorkflow (workflow : Read) : Except Fault JsString := do
  let reason ← match ← read workflow "reasonCode" with
    | some .null => pure []
    | reason => pure (js " (" ++ display reason ++ js ")")
  return js "Workflow " ++ display (← read workflow "workflowId") ++ js ": "
    ++ display (← read workflow "state") ++ reason

def showChild (child : Read) : Except Fault (List JsString) := do
  let dependencies ← joined (← read child "dependsOn")
  return [js "  " ++ display (← read child "key") ++ js ": " ++ quoted (← read child "title"),
    js "    Instructions: " ++ quoted (← read child "instructions"),
    js "    Acceptance criteria: " ++ jsonText (← read child "acceptanceCriteria"),
    js "    Depends on: " ++ if dependencies.isEmpty then js "none" else dependencies]

def showPlan (data task plan : Read) : Except Fault (List JsString) := do
  let adopted ← read plan "adoptedTaskIds"
  let empty := identical (← read adopted "length") (natural 0)
  let digest := display (← read plan "planDigest")
  let revised ← match ← read task "planRevision" with
    | none | some .null => pure []
    | revision => pure [js "Revised from: " ++ display (← read revision "basePlanDigest")]
  let children ← (← elements (← read plan "tasks")).mapM fun child => showChild (some child)
  let next ←
    if empty then do
      let taskId := display (← read task "taskId")
      let run := js " --run " ++ display (← read data "runId")
      pure [js "Edit a copy: horseness task export-plan --task " ++ taskId ++ js " --out plan.json" ++ run,
        js "Adopt explicitly: horseness task adopt --task " ++ taskId ++ js " --plan " ++ digest ++ run]
    else pure [js "Adopted tasks: " ++ (← joined adopted)]
  return [js "Plan: " ++ digest ++ js " [" ++
      (if empty then js "preview" ++ dash ++ js "not adopted" else js "adopted") ++ js "]"]
    ++ revised ++ children.flatten ++ next

def showTask (data : Read) : Except Fault (List JsString) := do
  let task ← read data "task"
  let schedulability ← match ← read task "schedulability" with
    | some (.str text) => pure text
    | value => pure (jsonText value)
  let dependencies ← joined (← read task "dependencies")
  let head := [js "Task: " ++ display (← read task "taskId") ++ dash ++ quoted (← read task "title"),
    js "Lifecycle: " ++ display (← read task "lifecycle"), js "Schedulability: " ++ schedulability,
    js "Dependencies: " ++ if dependencies.isEmpty then js "none" else dependencies]
  let attempts ← (← elements (← read task "attempts")).mapM fun attempt => showAttempt (some attempt)
  let workflow ← match ← read task "workflow" with
    | some .null => pure []
    | workflow => pure [← showWorkflow workflow]
  let plan ← match ← read task "plan" with
    | some .null => pure []
    | plan => showPlan data task plan
  let output ← match ← read task "output" with
    | some .null =>
        pure (js "No published output yet; an acknowledgement or worker prose is not completion.")
    | output => pure (js "Published output:\n" ++ display output)
  return head ++ attempts.flatten ++ workflow ++ plan ++ [output]

def showStart (command : JsString) (data : Read) : Except Fault (List JsString) := do
  let text key := display <$> read data key
  let noted key label := do
    match ← read data key with
    | none => return []
    | value => return [js label ++ display value]
  let adopted ← match ← read data "taskIds" with
    | none => pure []
    | taskIds => pure [js "Adopted tasks: " ++ (← joined taskIds)]
  let hint :=
    if command = js "task breakdown" then
      [js "Planning started; this acknowledgement is not a completed preview. "
        ++ js "Inspect task show, then explicitly adopt its plan digest."]
    else if command = js "task dispatch" ∨ command = js "task execute" then
      [js "Durable start acknowledgement, not task completion. "
        ++ js "Observe progress and authenticated results with task show."]
    else []
  return [command ++ js ": " ++ (← text "status") ++ dash ++ js "task " ++ (← text "taskId"),
      js "Operation: " ++ (← text "outcomeId")]
    ++ (← noted "workflowId" "Workflow: ") ++ (← noted "plannerTaskId" "Planner task: ") ++ adopted ++ hint
    ++ [js "Next: horseness task show --task " ++ (← text "taskId") ++ js " --run " ++ (← text "runId")]

def showRevision (data : Read) : Except Fault (List JsString) := do
  let text key := display <$> read data key
  let same := identical (← read data "planDigest") (← read data "basePlanDigest")
  let task := js " --task " ++ (← text "taskId")
  let run := js " --run " ++ (← text "runId")
  return [(if same then js "Unchanged" else js "Revised") ++ js " preview: " ++ (← text "planDigest"),
    js "Base: " ++ (← text "basePlanDigest"), js "No plan was adopted and no work was launched.",
    js "Review: horseness task show" ++ task ++ run,
    js "Adopt explicitly: horseness task adopt" ++ task ++ js " --plan " ++ (← text "planDigest") ++ run]

def showRuns (data : Read) : Except Fault (List JsString) := do
  let runs ← read data "runs"
  if identical (← read runs "length") (natural 0) then
    return [js "No runs yet. Create one with horseness run create --title TEXT."]
  mapped (fun run => do
    return (if truthy (← read run "current") then js "*" else js " ") ++ js " "
      ++ display (← read run "runId") ++ js "  " ++ quoted (← read run "title")) runs

def listedTask (task : Read) : Except Fault JsString := do
  let noted key label := do
    match ← read task key with
    | none | some .null => return []
    | value => return js label ++ jsonText value
  let schedulability ← match ← read task "schedulability" with
    | none => pure []
    | value => pure (dash ++ jsonText value)
  let dependencies ← match ← read task "dependencies" with
    | none => pure []
    | value => pure (js " dependencies=" ++ jsonText value)
  return js "  " ++ display (← read task "taskId") ++ js "  [" ++ display (← read task "lifecycle")
    ++ js "] " ++ quoted (← read task "title") ++ schedulability ++ (← noted "workflow" " workflow=")
    ++ (← noted "result" " result=") ++ dependencies

def showStatus (data : Read) : Except Fault (List JsString) := do
  let pending ← match ← read data "pendingOperation" with
    | some .null => pure []
    | pending => pure [js "Unconfirmed operation: " ++ display pending
        ++ js ". Repeat that exact command to recover its result."]
  let run ← match ← read data "run" with
    | some .null => pure [js "No current run. Create one with horseness run create --title TEXT."]
    | run => pure [js "Run: " ++ display (← read run "runId") ++ dash ++ quoted (← read run "title"),
        js "Canonical revision: " ++ display (← read run "revision")]
  return [js "Workspace: " ++ quoted (← read data "workspacePath"),
    js "Runs: " ++ display (← read data "runCount")] ++ pending ++ run

def showTasks (status : Bool) (data : Read) : Except Fault (List JsString) := do
  let tasks ← read data "tasks"
  let head ← if status then showStatus data
    else pure [js "Run: " ++ display (← read data "runId")]
  let count ← read tasks "length"
  let lines ← mapped listedTask tasks
  let hint := match ← read data "run" with
    | some .null => !status
    | _ => true
  return head ++ [js "Tasks: " ++ display count] ++ lines
    ++ if lines.isEmpty && hint then [js "Add a task with horseness task add --title TEXT."] else []

/-- The text of a result whose data is not a bare text, by its command. -/
def showData (command : JsString) (data : Read) : Except Fault JsString := do
  let text key := display <$> read data key
  let title key := quoted <$> read data key
  if command = js "init" then
    let done := if truthy (← read data "created") then js "Initialized" else js "Connected to"
    return unlines [done ++ js " workspace " ++ (← title "workspacePath") ++ js ".",
      js "Next: horseness run create --title TEXT"]
  if command = js "run create" then
    return unlines [js "Created run " ++ (← text "runId") ++ js ": " ++ (← title "title")
      ++ js " (current)", js "Next: horseness task add --title TEXT"]
  if command = js "run use" then
    return unlines [js "Current run: " ++ (← text "runId") ++ dash ++ (← title "title")]
  if command = js "task add" then
    return unlines [js "Added task " ++ (← text "taskId") ++ js ": " ++ (← title "title")
      ++ js " [draft]", js "Run: " ++ (← text "runId")]
  if command = js "workspace enable-execution" then
    return unlines [js "Execution authority enabled for workspace " ++ (← text "workspaceId")
      ++ js ". No task was launched."]
  if command = js "task export-plan" then
    return unlines [js "Exported plan " ++ (← text "planDigest") ++ js " to " ++ (← title "path")
      ++ js ".", js "Edit the tasks JSON, then run: horseness task revise --task " ++ (← text "taskId")
      ++ js " --plan " ++ (← text "planDigest") ++ js " --file " ++ (← title "path") ++ js " --run "
      ++ (← text "runId")]
  if command = js "task revise" then return unlines (← showRevision data)
  if ["task dispatch", "task breakdown", "task execute", "task adopt", "task cancel"].any
      (js · = command) then
    return unlines (← showStart command data)
  if command = js "task show" then return unlines (← showTask data)
  if command = js "run list" then return unlines (← showRuns data)
  if command = js "task list" ∨ command = js "status" then
    return unlines (← showTasks (command = js "status") data)
  return prettyText data ++ newline

def showResult (safe : JsValue) : Except Fault JsString := do
  let command := display (member (js "command") safe)
  if !truthy (member (js "ok") safe) then
    let error := member (js "error") safe
    let details ← match ← read error "details" with
      | some .null => pure []
      | details => pure (newline ++ prettyText details)
    return command ++ js ": " ++ display (← read error "code") ++ js ": "
      ++ display (← read error "message") ++ details ++ newline
  match member (js "data") safe with
  | some .null => return command ++ js ": ok" ++ newline
  | some (.str text) => return text ++ newline
  | data => showData command data

/-- The human text. `unmodelled` stands for what a result gives in which an object has an array as its
prototype. -/
def renderCliHumanV1 (unmodelled : JsValue → Except Fault JsString) (toLowerCase : JsString → JsString)
    (result : CliResultV1) (secretKeys : List JsString) : Except Fault JsString :=
  let safe := redactCliValueV1 toLowerCase result.toValue secretKeys
  if inheritsArray safe then unmodelled safe else showResult safe

end Rendering

end Horseness.CliResults
