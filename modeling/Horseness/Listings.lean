import Horseness.ObservedRuns
import Horseness.PagedLists
import Horseness.ReleaseTrust

/-!
The listings of runs and tasks, read page by page. A token is a position in a list that each request
sorts and filters anew, so what others change between two requests may move a run or a task across
it: it is returned twice then, or never.
-/

namespace Horseness.Listings

open FallibleRuns Records ScriptText JsonValues ScriptEngine Cursors Tasks ExecutionEvents
  EventChains ExecutionStore ServiceViews DispatchAuthority ReleaseTrust RunResponses RecordedRuns
  SearchOrders PagedLists

section Requests

def positionDigits : JsString → Bool
  | [] => false
  | first :: rest => 49 ≤ first && first ≤ 57 && rest.all digitUnit

def position (token : JsString) : Nat := if token = [] then 0 else numeral token

def page (value : JsValue) : Except Failure (Nat × Nat) := do
  let limit ← required ((numberOf (property "limit" value)).bind safeNatural) (.protocol .invalidParams)
  ensure (1 ≤ limit ∧ limit ≤ 100) (.protocol .invalidParams)
  let token ← required (textOf (property "continuationToken" value)) (.protocol .invalidParams)
  ensure (token = [] ∨ positionDigits token = true) (.protocol .invalidParams)
  ensure (position token ≤ maxSafeInteger) (.protocol .invalidParams)
  return (position token, limit)

structure Page (Item : Type) where
  items : List Item
  nextContinuationToken : JsString

def pageOf {Item : Type} (items : List Item) (offset limit : Nat) : Page Item where
  items := (items.drop offset).take limit
  nextContinuationToken := if offset + limit < items.length then decimal (offset + limit) else []

def lifecycleTexts : List JsString :=
  [js "draft", js "active", js "succeeded", js "failed", js "cancelled"]

def requestedStates (value : JsValue) : Except Failure (List JsString) :=
  match property "states" value with
  | some (.arr items) => do
      let states ← items.mapM fun item => required (textOf (some item)) (.protocol .invalidParams)
      ensure (∀ state ∈ states, state ∈ lifecycleTexts) (.protocol .invalidParams)
      ensure states.Nodup (.protocol .invalidParams)
      return states
  | _ => .error (.protocol .invalidParams)

end Requests

section Handlers

variable [Engine]

structure RunSummary where
  runId : JsString
  title : JsString
  observationCursor : CompositeCursorV1

def composite (store : Store) (runId : JsString) (head : RunHead) : CompositeCursorV1 where
  workspaceId := store.workspaceId
  workspaceSequence := store.workspace.sequence
  workspaceEnvelopeHash := store.workspace.envelopeHash
  workspaceContextEpoch := store.workspace.sequence - 1
  runId := runId
  runSequence := head.sequence
  runEnvelopeHash := head.envelopeHash
  runContextEpoch := head.sequence - 1

def initialDocument (item : HashedEventEnvelopeV1) : Option JsValue :=
  match item.envelope.payload with
  | .run (.runCreatedV1 _ _ document) => some document
  | _ => none

def runSummary (store : Store) (runId : JsString) : Except Failure RunSummary := do
  let stream ← required (store.runs.get runId) (.protocol .invalidParams)
  let last ← required stream.head (.protocol .invalidParams)
  let first ← required stream.events.head? (.protocol .invalidParams)
  let title := (initialDocument first).bind fun document => textOf (property "title" document)
  return ⟨runId, title.getD runId, composite store runId last⟩

def runList (store : Store) (value : JsValue) : Except Failure (Page RunSummary) := do
  let (offset, limit) ← page value
  let ids := store.listRunIds
  ensure (offset ≤ ids.length) (.protocol .invalidParams)
  let runs ← (pageOf ids offset limit).items.mapM (runSummary store)
  return ⟨runs, (pageOf ids offset limit).nextContinuationToken⟩

def listTasks (w : Surroundings) (store : Store) (view : ExecutionView) (actor : ExecutionActorV1) :
    Except Failure (List TaskDescription) :=
  (view.state.contracts.keys.insertionSort (· ≤ ·)).mapM fun taskId =>
    taskDescription w store view taskId actor false

def taskList (w : Surroundings) (store : Store) (actor : ExecutionActorV1) (runId : JsString)
    (value : JsValue) : Except Failure (Page TaskDescription) := do
  ensure (runId ≠ []) (.protocol .invalidParams)
  let states ← requestedStates value
  let (offset, limit) ← page value
  let stream ← required (store.runs.get runId) (.protocol .invalidParams)
  let _ ← required stream.head (.protocol .invalidParams)
  let view ← (viewOf store runId).mapError .domain
  let listed ← listTasks w store view actor
  let tasks := listed.filter fun task => states = [] ∨ TaskLifecycle.text task.lifecycle ∈ states
  ensure (offset ≤ tasks.length) (.protocol .invalidParams)
  return pageOf tasks offset limit

end Handlers

section Clients

def continued (token : JsString) : Option JsString := if token = [] then none else some token

/-- What one request of a client says besides the token. -/
structure PageAsk where
  operationId : JsString
  limit : Nat

def runListRequest (ask : PageAsk) (token : JsString) : JsValue :=
  object [("operationId", .str ask.operationId), ("limit", natural ask.limit),
    ("continuationToken", .str token)]

def taskListRequest (states : List JsString) (ask : PageAsk) (token : JsString) : JsValue :=
  object [("operationId", .str ask.operationId), ("states", texts states),
    ("limit", natural ask.limit), ("continuationToken", .str token)]

variable [Engine]

def askRuns (store : Store) (ask : PageAsk) (token : JsString) :
    Except Failure (List RunSummary × Option JsString) := do
  let found ← runList store (runListRequest ask token)
  return (found.items, continued found.nextContinuationToken)

def askTasks (actor : ExecutionActorV1) (runId : JsString) (states : List JsString) (store : Store)
    (ask : Surroundings × PageAsk) (token : JsString) :
    Except Failure (List TaskDescription × Option JsString) := do
  let found ← taskList ask.1 store actor runId (taskListRequest states ask.2 token)
  return (found.items, continued found.nextContinuationToken)

end Clients

section Answers

theorem position_decimal (value : Nat) : position (decimal value) = value := by
  rw [position, if_neg (decimal_ne_nil value), numeral_decimal]

theorem continued_decimal (value : Nat) : continued (decimal value) = some (decimal value) :=
  if_neg (decimal_ne_nil value)

theorem page_ok {value : JsValue} {offset limit : Nat} (parsed : page value = .ok (offset, limit)) :
    ∃ token, textOf (property "continuationToken" value) = some token ∧ offset = position token := by
  simp only [page, bind_ok_iff, required_ok_iff, pure_ok_iff, Prod.mk.injEq] at parsed
  obtain ⟨_, _, _, _, token, named, _, _, _, _, rfl, _⟩ := parsed
  exact ⟨token, named, rfl⟩

/-- The token of a page: there is none after the last, and else the position where the page ends. -/
theorem page_token {Item : Type} (items : List Item) (offset limit : Nat) :
    (continued (pageOf items offset limit).nextContinuationToken = none →
      items.length ≤ offset + limit) ∧
    ∀ later, continued (pageOf items offset limit).nextContinuationToken = some later →
      position later = offset + limit := by
  rw [pageOf]
  by_cases more : offset + limit < items.length
  · rw [if_pos more, continued_decimal]
    refine ⟨nofun, ?_⟩
    rintro later ⟨⟩
    exact position_decimal _
  · rw [if_neg more]
    exact ⟨fun _ => Nat.not_lt.mp more, nofun⟩

variable [Engine] {store : Store} {states : List JsString} {runId taskId : JsString}

/-- The tasks of a run whose lifecycle is asked for, in the order of their ids. -/
def listedTasks (runId : JsString) (states : List JsString) (store : Store) : List JsString :=
  match viewOf store runId with
  | .error _ => []
  | .ok view => (view.state.contracts.keys.insertionSort (· ≤ ·)).filter fun taskId =>
      states = [] ∨ ∃ lifecycle ∈ view.state.lifecycles.get taskId, TaskLifecycle.text lifecycle ∈ states

theorem run_ids_once (store : Store) : store.listRunIds.Nodup :=
  (List.perm_insertionSort _ _).nodup_iff.mpr (Record.keys_nodup _)

theorem listed_once (runId : JsString) (states : List JsString) (store : Store) :
    (listedTasks runId states store).Nodup := by
  rw [listedTasks]
  split
  · exact List.nodup_nil
  · exact ((List.perm_insertionSort _ _).nodup_iff.mpr (Record.keys_nodup _)).filter _

theorem run_summary_id {summary : RunSummary} (told : runSummary store runId = .ok summary) :
    summary.runId = runId := by
  simp only [runSummary, bind_ok_iff, pure_ok_iff] at told
  obtain ⟨_, _, _, _, _, _, rfl⟩ := told
  rfl

omit [Engine] in
theorem mapped_names {Failure Item Key : Type} {step : Key → Except Failure Item} {name : Item → Key}
    (named : ∀ key item, step key = .ok item → name item = key) {keys : List Key} {items : List Item}
    (mapped : keys.mapM step = .ok items) : items.map name = keys := by
  have pairs := (mapM_ok_iff _ _ _).mp mapped
  clear mapped
  induction pairs with
  | nil => rfl
  | cons told _ ih => rw [List.map_cons, named _ _ told, ih]

theorem run_pages : Pages askRuns Store.listRunIds RunSummary.runId position where
  once := run_ids_once
  page := by
    intro store ask token items next answered
    simp only [askRuns, runList, bind_ok_iff, pure_ok_iff, Prod.mk.injEq] at answered
    obtain ⟨_, ⟨⟨offset, limit⟩, parsed, _, _, runs, mapped, rfl⟩, rfl, rfl⟩ := answered
    obtain ⟨read, named, rfl⟩ := page_ok parsed
    obtain rfl : token = read := Option.some.inj named
    exact ⟨limit, mapped_names (fun _ _ => run_summary_id) mapped, page_token _ _ _⟩

theorem described {w : Surroundings} {view : ExecutionView} {actor : ExecutionActorV1} {details : Bool}
    {task : TaskDescription} (told : taskDescription w store view taskId actor details = .ok task) :
    task.taskId = taskId ∧ view.state.lifecycles.get taskId = some task.lifecycle := by
  simp only [taskDescription, bind_ok_iff, required_ok_iff] at told
  obtain ⟨_, _, lifecycle, here, _, _, _, _, told⟩ := told
  cases details with
  | true =>
      obtain ⟨_, _, told⟩ := bind_ok_iff.mp told
      obtain rfl := Except.ok.inj told
      exact ⟨rfl, here⟩
  | false =>
      obtain rfl := Except.ok.inj told
      exact ⟨rfl, here⟩

omit [Engine] in
theorem filtered_names {Failure Item Key : Type} {step : Key → Except Failure Item} {name : Item → Key}
    {shown : Item → Bool} {asked : Key → Bool}
    (told : ∀ key item, step key = .ok item → name item = key ∧ shown item = asked key)
    {keys : List Key} {items : List Item} (mapped : keys.mapM step = .ok items) :
    (items.filter shown).map name = keys.filter asked := by
  have pairs := (mapM_ok_iff _ _ _).mp mapped
  clear mapped
  induction pairs with
  | nil => rfl
  | cons first _ ih =>
      obtain ⟨named, same⟩ := told _ _ first
      rw [List.filter_cons, List.filter_cons, same]
      split
      · rw [List.map_cons, named, ih]
      · exact ih

theorem listed_names {w : Surroundings} {view : ExecutionView} {actor : ExecutionActorV1}
    {tasks : List TaskDescription} (seen : viewOf store runId = .ok view)
    (told : listTasks w store view actor = .ok tasks) :
    (tasks.filter fun task => states = [] ∨ TaskLifecycle.text task.lifecycle ∈ states).map
      TaskDescription.taskId = listedTasks runId states store := by
  rw [listedTasks, seen]
  apply filtered_names _ told
  intro taskId task one
  obtain ⟨named, here⟩ := described one
  refine ⟨named, ?_⟩
  simp only [here, Option.mem_def, Option.some.injEq, exists_eq_left']

omit [Engine] in
theorem states_asked {ask : PageAsk} {token : JsString} {filter : List JsString}
    (asked : requestedStates (taskListRequest states ask token) = .ok filter) : filter = states := by
  have given : property "states" (taskListRequest states ask token) = some (texts states) := rfl
  simp only [requestedStates, given, texts, bind_ok_iff, pure_ok_iff] at asked
  obtain ⟨texts, mapped, _, _, _, _, rfl⟩ := asked
  have read := (mapM_ok_iff _ _ _).mp mapped
  rw [List.forall₂_map_left_iff] at read
  have same : List.Forall₂ (· = ·) states texts := read.imp fun _ _ found =>
    Option.some.inj ((required_ok_iff _ _ _).mp found)
  exact (List.forall₂_eq_eq_eq ▸ same).symm

-- The answers to a client are the pages of the tasks that it asks for.
theorem task_pages (actor : ExecutionActorV1) (runId : JsString) (states : List JsString) :
    Pages (askTasks actor runId states) (listedTasks runId states) TaskDescription.taskId position where
  once := listed_once runId states
  page := by
    intro store ask token items next answered
    simp only [askTasks, taskList, bind_ok_iff, required_ok_iff, map_error_ok_iff, pure_ok_iff,
      Prod.mk.injEq] at answered
    obtain ⟨_, ⟨_, _, filter, asked, ⟨offset, limit⟩, parsed, _, _, _, _, view, seen, tasks, told, _, _,
      rfl⟩, rfl, rfl⟩ := answered
    obtain ⟨read, named, rfl⟩ := page_ok parsed
    obtain rfl : token = read := Option.some.inj named
    obtain rfl := states_asked asked
    have names := @listed_names _ _ filter _ _ _ _ _ seen told
    have shown := page_token (tasks.filter fun task =>
      filter = [] ∨ TaskLifecycle.text task.lifecycle ∈ filter) (position token) limit
    refine ⟨limit, ?_, fun ended => ?_, shown.2⟩
    · rw [pageOf, List.map_take, List.map_drop, names]
    · rw [← names, List.length_map]
      exact shown.1 ended

/-- A run or a task that stays listed and that no change moves across the position of the next page
is returned once. -/
theorem listings_read_once :
    (∀ (runId : JsString) (start state : Traversal Store RunSummary JsString),
      start.next = some [] → start.items = [] →
      Reaches (traverse askRuns (.protocol .invalidParams))
        (Undisturbed Store.listRunIds position runId) start state →
      (state.items.map RunSummary.runId).count runId ≤ 1 ∧
        (state.next = none → (state.items.map RunSummary.runId).count runId = 1)) ∧
    ∀ (actor : ExecutionActorV1) (runId : JsString) (states : List JsString) (taskId : JsString)
      (start state : Traversal Store TaskDescription JsString),
      start.next = some [] → start.items = [] →
      Reaches (traverse (askTasks actor runId states) (.protocol .invalidParams))
        (Undisturbed (listedTasks runId states) position taskId) start state →
      (state.items.map TaskDescription.taskId).count taskId ≤ 1 ∧
        (state.next = none → (state.items.map TaskDescription.taskId).count taskId = 1) := by
  constructor
  · intro runId start state first blank reached
    have read := traversal_reads run_pages first rfl blank reached
    exact ⟨read_at_most run_pages read, read.read⟩
  · intro actor runId states taskId start state first blank reached
    have pages := task_pages actor runId states
    have read := traversal_reads pages first rfl blank reached
    exact ⟨read_at_most pages read, read.read⟩

end Answers

section Moved

variable [Engine] {store : Store}

theorem runs_answered {ask : PageAsk} {token : JsString} {offset limit : Nat}
    (parsed : page (runListRequest ask token) = .ok (offset, limit))
    (inside : offset ≤ store.listRunIds.length)
    (readable : ∀ runId ∈ store.listRunIds, ∃ summary, runSummary store runId = .ok summary) :
    ∃ items, askRuns store ask token =
        .ok (items, continued (pageOf store.listRunIds offset limit).nextContinuationToken) ∧
      items.map RunSummary.runId = (pageOf store.listRunIds offset limit).items := by
  have shown : ∀ runId ∈ (pageOf store.listRunIds offset limit).items,
      ∃ summary, runSummary store runId = .ok summary :=
    fun runId member => readable runId (List.mem_of_mem_drop (List.mem_of_mem_take member))
  obtain ⟨items, mapped⟩ := map_completes shown
  refine ⟨items, ?_, mapped_names (fun _ _ => run_summary_id) mapped⟩
  simp only [askRuns, runList, bind_ok_iff, ensure_ok_iff, pure_ok_iff]
  exact ⟨_, ⟨_, parsed, (), inside, items, mapped, rfl⟩, rfl⟩

theorem summary_told {runId : JsString} {stream : RunStream} (stored : store.runs.get runId = some stream)
    (begun : stream.events ≠ []) : ∃ summary, runSummary store runId = .ok summary := by
  obtain ⟨first, rest, shape⟩ := List.exists_cons_of_ne_nil begun
  have last : ∃ head, stream.head = some head := by
    rw [RunStream.head, shape, List.getLast?_cons, Option.map_some]
    exact ⟨_, rfl⟩
  obtain ⟨head, headed⟩ := last
  simp only [runSummary, bind_ok_iff, required_ok_iff, pure_ok_iff]
  exact ⟨_, stream, stored, head, headed, first, by rw [shape]; rfl, rfl⟩

end Moved

section Twice

open ObservedRuns

attribute [local instance] paddedEngine

theorem run_begins (runId : JsString) (spelled : runId ≠ [] ∧ validUnicode runId = true) :
    ∃ stream : RunStream, stream.events ≠ [] := by
  have texts : Spelled ⟨js "w", 1, js "h", 0, runId⟩ (js "p") (js "c") := by
    simp only [Spelled, List.forall_mem_cons]
    exact ⟨by decide, spelled, by decide, by decide, by simp⟩
  obtain ⟨event, stateHash, -, -, -, replayed⟩ :=
    creation_replayed padded_hexadecimal texts (show Canonical.assertJson (object []) = _ from rfl)
  exact ⟨⟨[event], _, replayed⟩, List.cons_ne_nil _ _⟩

def holding (head : WorkspaceHead) (runs : Record JsString RunStream) : Store :=
  { founded head with runs := runs }

theorem page_parsed (token : JsString) (known : token = [] ∨ token = js "1" ∨ token = js "2") :
    page (runListRequest ⟨js "o", 1⟩ token) = .ok (position token, 1) := by
  rcases known with rfl | rfl | rfl <;> rfl

theorem holding_listed {head : WorkspaceHead} {runs : Record JsString RunStream} (ids : List JsString)
    (keys : runs.keys = ids) : (holding head runs).listRunIds =
      ids.insertionSort fun left right => ¬ utf8 right < utf8 left := by
  rw [← keys]
  rfl

theorem page_taken (state : Traversal Store RunSummary JsString) {token : JsString}
    (next : state.next = some token) (known : token = [] ∨ token = js "1" ∨ token = js "2")
    (inside : position token ≤ state.server.listRunIds.length)
    (readable : ∀ runId ∈ state.server.listRunIds, ∃ summary, runSummary state.server runId = .ok summary) :
    ∃ items, traverse askRuns (.protocol .invalidParams) state (.page (⟨js "o", 1⟩ : PageAsk)) =
        .ok ⟨state.server, state.items ++ items,
          continued (pageOf state.server.listRunIds (position token) 1).nextContinuationToken⟩ ∧
      items.map RunSummary.runId = (state.server.listRunIds.drop (position token)).take 1 := by
  obtain ⟨items, answered, names⟩ := runs_answered (page_parsed token known) inside readable
  refine ⟨items, ?_, names⟩
  simp only [PagedLists.traverse, bind_ok_iff, required_ok_iff, pure_ok_iff]
  exact ⟨token, next, _, answered, rfl⟩

/-- A run that begins before the position moves the run that was returned last behind it. -/
theorem inserted_run_returned_twice :
    ∃ start state : Traversal Store RunSummary JsString, start.next = some [] ∧ start.items = [] ∧
      Reaches (traverse askRuns (.protocol .invalidParams)) (fun state input =>
        js "b" ∈ state.server.listRunIds ∧ ∀ server, input = .changed server →
          ∃ stream, server = { state.server with runs := state.server.runs.set (js "a") stream })
        start state ∧
      js "b" ∈ state.server.listRunIds ∧ state.next = none ∧
      (state.items.map RunSummary.runId).count (js "b") = 2 := by
  obtain ⟨head, -, -⟩ := ends_in_exists founded_measured.out
  obtain ⟨first, begun⟩ := run_begins (js "a") ⟨by decide, by decide⟩
  obtain ⟨second, follows⟩ := run_begins (js "b") ⟨by decide, by decide⟩
  obtain ⟨third, ends⟩ := run_begins (js "c") ⟨by decide, by decide⟩
  let before := holding head ((Record.empty.set (js "c") third).set (js "b") second)
  let after := holding head (((Record.empty.set (js "c") third).set (js "b") second).set (js "a") first)
  have few : before.listRunIds = [js "b", js "c"] := by
    refine (holding_listed [js "c", js "b"] rfl).trans ?_
    decide
  have more : after.listRunIds = [js "a", js "b", js "c"] := by
    refine (holding_listed [js "c", js "b", js "a"] rfl).trans ?_
    decide
  have readable : ∀ runId ∈ before.listRunIds, ∃ summary, runSummary before runId = .ok summary := by
    rw [few]
    simp only [List.forall_mem_cons]
    exact ⟨summary_told rfl follows, summary_told rfl ends, nofun⟩
  have legible : ∀ runId ∈ after.listRunIds, ∃ summary, runSummary after runId = .ok summary := by
    rw [more]
    simp only [List.forall_mem_cons]
    exact ⟨summary_told rfl begun, summary_told rfl follows, summary_told rfl ends, nofun⟩
  have opens : continued (pageOf before.listRunIds (position []) 1).nextContinuationToken =
      some (js "1") := by rw [few]; rfl
  have goes : continued (pageOf after.listRunIds (position (js "1")) 1).nextContinuationToken =
      some (js "2") := by rw [more]; rfl
  have closes : continued (pageOf after.listRunIds (position (js "2")) 1).nextContinuationToken =
      none := by rw [more]; rfl
  obtain ⟨one, opened, shown⟩ := page_taken ⟨before, [], some []⟩ rfl (.inl rfl)
    (Nat.zero_le _) readable
  obtain ⟨two, continues, again⟩ := page_taken ⟨after, [] ++ one, some (js "1")⟩ rfl
    (.inr (.inl rfl)) (by rw [more]; decide) legible
  obtain ⟨three, closed, last⟩ := page_taken ⟨after, [] ++ one ++ two, some (js "2")⟩ rfl
    (.inr (.inr rfl)) (by rw [more]; decide) legible
  rw [opens] at opened
  rw [goes] at continues
  rw [closes] at closed
  have here : js "b" ∈ before.listRunIds := few ▸ List.mem_cons_self
  have there : js "b" ∈ after.listRunIds := more ▸ List.mem_cons_of_mem _ List.mem_cons_self
  refine ⟨_, _, rfl, rfl, .next (.page ⟨js "o", 1⟩) (.next (.page ⟨js "o", 1⟩) (.next (.changed after)
    (.next (.page ⟨js "o", 1⟩) .start ⟨here, nofun⟩ opened) ⟨here, ?_⟩ rfl) ⟨there, nofun⟩ continues)
    ⟨there, nofun⟩ closed, there, rfl, ?_⟩
  · rintro server ⟨⟩
    exact ⟨first, rfl⟩
  · simp only [few] at shown
    simp only [more] at again last
    rw [List.map_append, List.map_append, List.map_append, shown, again, last]
    decide

end Twice

end Horseness.Listings
