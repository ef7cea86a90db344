import Horseness.CliResults
import Horseness.RecordedRuns

/-!
What redaction promises of a result, and when it keeps it. A string under the name `command` passes as
it is at any depth: what the tree keeps from its readers is complete unless such a string is a secret.
-/

namespace Horseness.CliRedaction

open Records ScriptText JsonValues JsonPaths CliResults

section Trees

variable (hidden : JsString → Bool)

def Clean : JsValue → Prop
  | .str text => text = REDACTED ∨ SECRET_VALUE.test text = false
  | .obj _ fields => ∀ entry ∈ fields, hidden entry.1 = true → entry.2 = .str REDACTED
  | _ => True

def CleanResult (tree : JsValue) : Prop :=
  ∃ fields, tree = .obj .object fields ∧ Clean hidden tree ∧
    ∀ entry ∈ fields, entry.1 ≠ js "command" → Throughout (Clean hidden) entry.2

/-- A string under `command` that is a secret, where redaction comes by. -/
inductive Exposed : JsValue → Prop where
  | command {proto : JsProto} {fields : List (JsString × JsValue)} {text : JsString} :
      hidden (js "command") = false → findEntry (js "command") fields = some (.str text) →
      SECRET_VALUE.test text = true → Exposed (.obj proto fields)
  | item {items : List JsValue} {item : JsValue} : item ∈ items → Exposed item → Exposed (.arr items)
  | member {proto : JsProto} {fields : List (JsString × JsValue)} {name : JsString} {value : JsValue} :
      hidden name = false → findEntry name fields = some value → Exposed value →
      Exposed (.obj proto fields)

/-- One is exposed in a member of the result: the result's own command does not count. -/
def ExposedBelow (result : JsValue) : Prop :=
  ∃ proto fields name value, result = .obj proto fields ∧ hidden name = false ∧
    findEntry name fields = some value ∧ Exposed hidden value

/-- Two values that differ in secrets only. -/
inductive Alike : JsValue → JsValue → Prop where
  | same (value : JsValue) : Alike value value
  | secret {left right : JsString} : SECRET_VALUE.test left = true → SECRET_VALUE.test right = true →
      Alike (.str left) (.str right)
  | items {left right : List JsValue} : left.length = right.length →
      (∀ (index : Nat) (one other : JsValue), left[index]? = some one → right[index]? = some other → Alike one other) →
      Alike (.arr left) (.arr right)
  | members {proto kind : JsProto} {left right : List (JsString × JsValue)} :
      (∀ name, (findEntry name left).isSome = (findEntry name right).isSome) →
      (∀ name one other, hidden name = false → findEntry name left = some one →
        findEntry name right = some other → Alike one other) →
      Alike (.obj proto left) (.obj kind right)

variable {hidden}

theorem visit_hidden {key : Option JsString} (named : key.any hidden = true) (value : JsValue) :
    visit hidden value key = .str REDACTED := by
  cases value <;> simp [visit, named]

theorem visit_items (items : List JsValue) :
    visitItems hidden items = items.map fun item => visit hidden item none := by
  induction items with
  | nil => rfl
  | cons item rest ih => rw [visitItems, ih, List.map_cons]

theorem find_visited (name : JsString) (fields : List (JsString × JsValue)) :
    findEntry name (visitFields hidden fields) =
      (findEntry name fields).map fun value => visit hidden value (some name) := by
  induction fields with
  | nil => rfl
  | cons entry rest ih =>
      rw [visitFields]
      by_cases hit : entry.1 = name
      · simp [findEntry, hit]
      · simpa [findEntry, hit] using ih

-- The members of a redacted object are the visible members, redacted.
theorem visited_iff (fields : List (JsString × JsValue)) (entry : JsString × JsValue) :
    entry ∈ (sortFields (visitFields hidden fields)).filter assigned ↔ assigned entry = true ∧
      ∃ value, findEntry entry.1 fields = some value ∧ entry.2 = visit hidden value (some entry.1) := by
  have found : entry ∈ sortFields (visitFields hidden fields) ↔
      findEntry entry.1 (visitFields hidden fields) = some entry.2 := by
    rw [← find_sort]
    exact ⟨member_find _ _ _ (sort_unique _), find_member _ _ _⟩
  rw [List.mem_filter, found, find_visited, Option.map_eq_some_iff, and_comm]
  simp only [eq_comm]

theorem redacted_clean : Throughout (Clean hidden) (.str REDACTED) := .str _ (.inl rfl)

theorem visited_clean (fields : List (JsString × JsValue)) :
    Clean hidden (.obj .object ((sortFields (visitFields hidden fields)).filter assigned)) := by
  intro entry member named
  rcases ((visited_iff fields entry).mp member).2 with ⟨value, _, made⟩
  rw [made, visit_hidden (by simpa using named)]

theorem clean_unless_hidden {key : Option JsString} {value : JsValue}
    (shown : key.any hidden = false → Throughout (Clean hidden) (visit hidden value key)) :
    Throughout (Clean hidden) (visit hidden value key) := by
  cases named : key.any hidden with
  | true =>
      rw [visit_hidden named]
      exact redacted_clean
  | false => exact shown named

-- What redaction makes of a value is clean, unless it comes by an exposed command.
theorem visit_clean (value : JsValue) : ∀ key : Option JsString, ¬ Exposed hidden value →
    (key = some (js "command") → ∀ text, value = .str text → SECRET_VALUE.test text = false) →
    Throughout (Clean hidden) (visit hidden value key) := by
  induction value using value_induction with
  | null =>
      intro key _ _
      refine clean_unless_hidden fun named => ?_
      simpa [visit, named] using Throughout.null trivial
  | bool value =>
      intro key _ _
      refine clean_unless_hidden fun named => ?_
      simpa [visit, named] using Throughout.bool value trivial
  | num value =>
      intro key _ _
      refine clean_unless_hidden fun named => ?_
      simpa [visit, named] using Throughout.num value trivial
  | str text =>
      intro key _ plain
      refine clean_unless_hidden fun named => ?_
      rw [visit, if_neg (by simp [named])]
      by_cases own : key = some (js "command")
      · rw [if_neg (not_not.mpr own)]
        exact .str _ (.inr (plain own text rfl))
      rw [if_pos own]
      by_cases secret : SECRET_VALUE.test text = true
      · rw [if_pos secret]
        exact redacted_clean
      · rw [if_neg secret]
        exact .str _ (.inr (by simpa using secret))
  | arr items ih =>
      intro key covered _
      refine clean_unless_hidden fun named => ?_
      rw [visit, if_neg (by simp [named]), visit_items]
      refine .arr _ trivial fun item member => ?_
      rcases List.mem_map.mp member with ⟨old, inside, rfl⟩
      exact ih old inside none (fun exposed => covered (.item inside exposed)) nofun
  | obj proto fields ih =>
      intro key covered _
      refine clean_unless_hidden fun named => ?_
      rw [visit, if_neg (by simp [named])]
      refine .obj _ _ (visited_clean fields) fun entry member => ?_
      rcases ((visited_iff fields entry).mp member).2 with ⟨value, found, made⟩
      rw [made]
      refine clean_unless_hidden fun below => ?_
      have shown : hidden entry.1 = false := by simpa using below
      apply ih _ (find_member _ _ _ found) (some entry.1) fun exposed => covered (.member shown found exposed)
      intro own text same
      have name : entry.1 = js "command" := Option.some.inj own
      by_contra secret
      rw [name] at shown found
      exact covered (.command shown (found.trans (congrArg some same)) (by simpa using secret))

-- A primitive under `__proto__` would be dropped, but it exposes nothing.
theorem exposed_assigned {name : JsString} {value : JsValue} (exposed : Exposed hidden value)
    (shown : (some name).any hidden = false) :
    assigned (name, visit hidden value (some name)) = true := by
  cases exposed <;> simp_all [assigned, visit]

theorem exposed_unclean {value : JsValue} (exposed : Exposed hidden value) :
    ∀ key : Option JsString, key.any hidden = false →
      ¬ Throughout (Clean hidden) (visit hidden value key) := by
  have redactable : SECRET_VALUE.test REDACTED = false := by decide +kernel
  induction exposed with
  | @command proto fields text shown found secret =>
      intro key named all
      rw [visit, if_neg (by simp [named])] at all
      have kept := (@visited_iff hidden fields (js "command", .str text)).mpr
        ⟨rfl, _, found, by simp [visit, shown]⟩
      rcases throughout_here (throughout_fields all _ kept) with rfl | plain
      · rw [redactable] at secret
        cases secret
      · rw [secret] at plain
        cases plain
  | item member _ ih =>
      intro key named all
      rw [visit, if_neg (by simp [named]), visit_items] at all
      exact ih none rfl (throughout_items all _ (List.mem_map_of_mem member))
  | @member proto fields name value shown found inside ih =>
      intro key named all
      rw [visit, if_neg (by simp [named])] at all
      have below : (some name).any hidden = false := by simpa using shown
      have kept := (visited_iff fields (name, visit hidden value (some name))).mpr
        ⟨exposed_assigned inside below, value, found, rfl⟩
      exact ih (some name) below (throughout_fields all _ kept)

-- Objects of the same names are redacted alike where their shown members are.
theorem sort_visited {left right : List (JsString × JsValue)}
    (present : ∀ name, (findEntry name left).isSome = (findEntry name right).isSome)
    (same : ∀ name one other, hidden name = false → findEntry name left = some one →
      findEntry name right = some other → visit hidden one (some name) = visit hidden other (some name)) :
    sortFields (visitFields hidden left) = sortFields (visitFields hidden right) := by
  apply ordered_ext (sort_unique _) (sort_unique _) (sort_ordered _) (sort_ordered _)
  intro name
  rw [find_sort, find_sort, find_visited, find_visited]
  have both := present name
  cases one : findEntry name left with
  | none =>
      rw [one, Option.isSome_none, eq_comm, Option.isSome_eq_false_iff, Option.isNone_iff_eq_none] at both
      rw [both]
  | some value =>
      rw [one, Option.isSome_some] at both
      rcases Option.isSome_iff_exists.mp both.symm with ⟨twin, found⟩
      rw [found, Option.map_some, Option.map_some]
      cases named : hidden name with
      | true => rw [visit_hidden (by simpa using named), visit_hidden (by simpa using named)]
      | false => rw [same name value twin named one found]

theorem visit_alike {one other : JsValue} (alike : Alike hidden one other) :
    ∀ key : Option JsString, ¬ Exposed hidden one →
      (key = some (js "command") → ∀ text, one = .str text → SECRET_VALUE.test text = false) →
      visit hidden one key = visit hidden other key := by
  induction alike with
  | same value =>
      intro key _ _
      rfl
  | secret left right =>
      intro key _ plain
      have named : key ≠ some (js "command") := by
        intro own
        rw [plain own _ rfl] at left
        cases left
      simp [visit, named, left, right]
  | @items left right length _ ih =>
      intro key covered _
      have alike : visitItems hidden left = visitItems hidden right := by
        rw [visit_items, visit_items]
        refine List.ext_getElem (by simpa using length) fun index below above => ?_
        rw [List.length_map] at below above
        rw [List.getElem_map, List.getElem_map]
        exact ih index _ _ (List.getElem?_eq_getElem below) (List.getElem?_eq_getElem above) none
          (fun exposed => covered (.item (List.getElem_mem below) exposed)) nofun
      rw [visit, visit, alike]
  | members present _ ih =>
      intro key covered _
      have alike := sort_visited present fun name value twin named found found' =>
        ih name value twin named found found' (some name)
          (fun exposed => covered (.member named found exposed)) fun own text same => by
            obtain rfl : name = js "command" := Option.some.inj own
            by_contra secret
            exact covered (.command named (found.trans (congrArg some same)) (by simpa using secret))
      rw [visit, visit, alike]

end Trees

section Results

variable {toLowerCase : JsString → JsString} {secretKeys : List JsString} {result other : CliResultV1}

theorem value_object (result : CliResultV1) : ∃ fields, result.toValue = .obj .object fields ∧
    findEntry (js "command") fields = some (.str result.command) := by
  cases result <;> exact ⟨_, rfl, rfl⟩

theorem redact_object {fields : List (JsString × JsValue)} (shape : result.toValue = .obj .object fields) :
    redactCliValueV1 toLowerCase result.toValue secretKeys = .obj .object
      ((sortFields (visitFields (hiddenKey toLowerCase secretKeys) fields)).filter assigned) := by
  rw [shape]
  rfl

-- The redacted result is clean exactly where no command is exposed below it.
theorem redact_clean_iff :
    CleanResult (hiddenKey toLowerCase secretKeys)
        (redactCliValueV1 toLowerCase result.toValue secretKeys) ↔
      ¬ ExposedBelow (hiddenKey toLowerCase secretKeys) result.toValue := by
  rcases value_object result with ⟨fields, shape, command⟩
  rw [redact_object shape]
  constructor
  · rintro ⟨_, same, -, clean⟩ ⟨proto, others, name, value, shape', shown, found, exposed⟩
    obtain rfl : fields = others := (JsValue.obj.inj (shape.symm.trans shape')).2
    obtain rfl := (JsValue.obj.inj same).2
    have below : (some name).any (hiddenKey toLowerCase secretKeys) = false := by simpa using shown
    apply exposed_unclean exposed (some name) below
    refine clean (name, _) ((visited_iff fields _).mpr ⟨exposed_assigned exposed below, value, found, rfl⟩) ?_
    rintro rfl
    obtain rfl := Option.some.inj (found.symm.trans command)
    cases exposed
  · intro covered
    refine ⟨_, rfl, visited_clean fields, fun entry member own => ?_⟩
    rcases ((visited_iff fields entry).mp member).2 with ⟨value, found, made⟩
    rw [made]
    refine clean_unless_hidden fun below => visit_clean value _ (fun exposed =>
      covered ⟨_, _, _, _, shape, by simpa using below, found, exposed⟩) fun named => ?_
    exact absurd (Option.some.inj named) own

/-- Results that differ in secrets only, and not in their command, are redacted to the same tree. -/
theorem redact_alike (covered : ¬ ExposedBelow (hiddenKey toLowerCase secretKeys) result.toValue)
    (commands : other.command = result.command)
    (alike : Alike (hiddenKey toLowerCase secretKeys) result.toValue other.toValue) :
    redactCliValueV1 toLowerCase other.toValue secretKeys =
      redactCliValueV1 toLowerCase result.toValue secretKeys := by
  rcases value_object result with ⟨fields, shape, command⟩
  rcases value_object other with ⟨others, shape', command'⟩
  rw [redact_object shape, redact_object shape']
  rw [shape, shape'] at alike
  cases alike with
  | same => rfl
  | members present parts =>
      refine congrArg (fun entries : List (JsString × JsValue) =>
        JsValue.obj .object (entries.filter assigned)) ?_
      refine (sort_visited present fun name one twin below found found' => ?_).symm
      by_cases own : name = js "command"
      · subst own
        obtain rfl := Option.some.inj (found.symm.trans command)
        obtain rfl := Option.some.inj (found'.symm.trans command')
        rw [commands]
      · exact visit_alike (parts name one twin below found found') (some name)
          (fun exposed => covered ⟨_, _, _, _, shape, below, found, exposed⟩)
          fun named => absurd (Option.some.inj named) own

variable [JsonText.NumberFormat]

/-- What redaction promises: the tree is clean, and neither text depends on what is secret. -/
def Redacts (unmodelled : JsValue → Except Fault JsString) (toLowerCase : JsString → JsString)
    (result : CliResultV1) (secretKeys : List JsString) : Prop :=
  CleanResult (hiddenKey toLowerCase secretKeys)
      (redactCliValueV1 toLowerCase result.toValue secretKeys) ∧
    ∀ other : CliResultV1, other.command = result.command →
      Alike (hiddenKey toLowerCase secretKeys) result.toValue other.toValue →
      renderCliJsonV1 toLowerCase other secretKeys = renderCliJsonV1 toLowerCase result secretKeys ∧
      renderCliHumanV1 unmodelled toLowerCase other secretKeys =
        renderCliHumanV1 unmodelled toLowerCase result secretKeys

/-- Redaction keeps its promise exactly where no string under a `command` of the data is a secret. -/
theorem redaction_complete_iff (unmodelled : JsValue → Except Fault JsString)
    (toLowerCase : JsString → JsString) (result : CliResultV1) (secretKeys : List JsString) :
    Redacts unmodelled toLowerCase result secretKeys ↔
      ¬ ExposedBelow (hiddenKey toLowerCase secretKeys) result.toValue := by
  rw [Redacts, redact_clean_iff]
  refine ⟨And.left, fun covered => ⟨covered, fun other commands alike => ?_⟩⟩
  have same := redact_alike covered commands alike
  rw [renderCliJsonV1, renderCliJsonV1, renderCliHumanV1, renderCliHumanV1, same]
  exact ⟨rfl, rfl⟩

end Results

section Logged

def loggedResult : CliResultV1 :=
  .success (js "task show") (object [("command", .str (js "bearer x"))]) none

theorem logged_exposed : ExposedBelow (hiddenKey id []) loggedResult.toValue := by
  refine ⟨_, _, js "data", _, rfl, by decide +kernel, rfl, ?_⟩
  exact .command (by decide +kernel) rfl (by decide)

attribute [local instance] RecordedRuns.recordedEngine

theorem nested_command_unredacted :
    ¬ Redacts (fun _ => .error .typeError) id loggedResult [] := by
  intro redacts
  exact redact_clean_iff.mp redacts.1 logged_exposed

end Logged

end Horseness.CliRedaction
