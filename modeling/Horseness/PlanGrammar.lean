import Horseness.TaskGraphs

/-!
The output of a planner as it comes: any JSON value. What is accepted is a plan of the grammar
whose dependencies have different names when a source and a dependent are joined by a colon.
-/

namespace Horseness.PlanGrammar

open FallibleRuns Records ScriptText JsonValues Canonical Tasks TaskPlans AttemptReceipts
  SearchOrders TaskGraphs

section Reading

def planText : Option JsValue → Except DomainError JsString
  | some (.str value) => do
      ensure (blank value = false) .planInvalid
      return value
  | _ => .error .planInvalid

def planTexts (nonempty : Bool) : Option JsValue → Except DomainError (List JsString)
  | some (.arr items) => do
      ensure (nonempty = true → items ≠ []) .planInvalid
      items.mapM fun item => planText (some item)
  | _ => .error .planInvalid

def planItemKeys : List JsString :=
  [js "key", js "title", js "instructions", js "acceptanceCriteria", js "dependsOn"]

/-- One item of the first pass; `tasks` are those before it. -/
def parsePlanItem (tasks : List TaskPlanItemV1) (value : JsValue) :
    Except DomainError TaskPlanItemV1 := do
  let field ← closed value planItemKeys .planInvalid
  let key ← planText (field (js "key"))
  let title ← planText (field (js "title"))
  let instructions ← planText (field (js "instructions"))
  let acceptanceCriteria ← planTexts true (field (js "acceptanceCriteria"))
  let dependsOn ← planTexts false (field (js "dependsOn"))
  ensure (key ∉ tasks.map TaskPlanItemV1.key ∧ dependsOn.Nodup) .planInvalid
  return ⟨key, title, instructions, acceptanceCriteria, dependsOn⟩

def parsePlanItems (tasks : List TaskPlanItemV1) (value : JsValue) :
    Except DomainError (List TaskPlanItemV1) := do
  let item ← parsePlanItem tasks value
  return tasks ++ [item]

def dependencyEdges (tasks : List TaskPlanItemV1) : List DependencyEdgeV1 :=
  tasks.flatMap fun item => item.dependsOn.map (planItemEdge · item.key)

/-- `parseTaskPlanOutputV1` of a value that is not yet known to hold plan items. -/
def parseTaskPlanOutput (value : JsValue) : Except DomainError (List TaskPlanItemV1) := do
  let field ← closed value [js "tasks"] .planInvalid
  match field (js "tasks") with
  | some (.arr items) => do
      ensure (1 ≤ items.length ∧ items.length ≤ 32) .planInvalid
      let tasks ← items.foldlM parsePlanItems []
      let keys := tasks.map TaskPlanItemV1.key
      ensure (∀ item ∈ tasks, ∀ source ∈ item.dependsOn, source ∈ keys ∧ source ≠ item.key)
        .planInvalid
      (assertAcyclic keys (dependencyEdges tasks)).mapError fun _ => .planInvalid
      return tasks
  | _ => .error .planInvalid

end Reading

section Grammar

def HasKeys (value : JsValue) (keys : List JsString) (fields : List (JsString × JsValue)) : Prop :=
  value = .obj .object fields ∧ ∀ name, (findEntry name fields).isSome = true ↔ name ∈ keys

structure ReadsItem (value : JsValue) (item : TaskPlanItemV1) : Prop where
  shape : ∃ fields, HasKeys value planItemKeys fields ∧
    findEntry (js "key") fields = some (.str item.key) ∧
    findEntry (js "title") fields = some (.str item.title) ∧
    findEntry (js "instructions") fields = some (.str item.instructions) ∧
    findEntry (js "acceptanceCriteria") fields = some (texts item.acceptanceCriteria) ∧
    findEntry (js "dependsOn") fields = some (texts item.dependsOn)

structure ItemGrammar (item : TaskPlanItemV1) : Prop where
  key : blank item.key = false
  title : blank item.title = false
  instructions : blank item.instructions = false
  criteria : item.acceptanceCriteria ≠ [] ∧
    ∀ criterion ∈ item.acceptanceCriteria, blank criterion = false
  dependsOn : item.dependsOn.Nodup ∧ ∀ source ∈ item.dependsOn, blank source = false

def DependsOn (tasks : List TaskPlanItemV1) (dependent source : JsString) : Prop :=
  ∃ item ∈ tasks, item.key = dependent ∧ source ∈ item.dependsOn

/-- A value that holds these plan items. -/
structure PlanOutput (value : JsValue) (tasks : List TaskPlanItemV1) : Prop where
  reads : ∃ fields items, HasKeys value [js "tasks"] fields ∧
    findEntry (js "tasks") fields = some (.arr items) ∧ List.Forall₂ ReadsItem items tasks
  size : 1 ≤ tasks.length ∧ tasks.length ≤ 32
  items : ∀ item ∈ tasks, ItemGrammar item
  keys : (tasks.map TaskPlanItemV1.key).Nodup
  sources : ∀ item ∈ tasks, ∀ source ∈ item.dependsOn,
    source ∈ tasks.map TaskPlanItemV1.key ∧ source ≠ item.key
  acyclic : ∀ key, ¬Relation.TransGen (DependsOn tasks) key key

def NamesApart (tasks : List TaskPlanItemV1) : Prop :=
  ∀ dependent source dependent' source', DependsOn tasks dependent source →
    DependsOn tasks dependent' source' →
    source ++ js ":" ++ dependent = source' ++ js ":" ++ dependent' →
    source = source' ∧ dependent = dependent'

end Grammar

section Shapes

-- An object has as many names as keys, all of them there, when its names are the keys.
theorem closed_ok_iff {value : JsValue} {keys : List JsString} {code : DomainError}
    (unique : keys.Nodup) {field : JsString → Option JsValue} :
    closed value keys code = .ok field ↔
      ∃ fields, HasKeys value keys fields ∧ field = fun name => findEntry name fields := by
  cases value with
  | obj proto fields =>
      cases proto with
      | object =>
          have listed (name : JsString) : name ∈ (distinct fields).map Prod.fst ↔
              (findEntry name fields).isSome = true := by
            rw [← find_distinct, ← not_iff_not, ← find_none_iff, Option.not_isSome_iff_eq_none]
          have counts : ((distinct fields).length = keys.length ∧
              ∀ key ∈ keys, (findEntry key fields).isSome = true) ↔
                ∀ name, (findEntry name fields).isSome = true ↔ name ∈ keys := by
            constructor
            · rintro ⟨length, all⟩ name
              have included : keys ⊆ (distinct fields).map Prod.fst :=
                fun key member => (listed key).2 (all key member)
              have same := (unique.subperm included).perm_of_length_le (by simp [length])
              rw [← listed, same.mem_iff]
            · intro exactly
              have same : ((distinct fields).map Prod.fst).Perm keys :=
                (List.perm_ext_iff_of_nodup (distinct_unique fields) unique).2
                  fun name => (listed name).trans (exactly name)
              exact ⟨by simpa using same.length_eq, fun key member => (exactly key).2 member⟩
          simp only [closed, bind_ok_iff, ensure_ok_iff, pure_ok_iff, counts]
          constructor
          · rintro ⟨_, exactly, rfl⟩
            exact ⟨fields, ⟨rfl, exactly⟩, rfl⟩
          · rintro ⟨_, ⟨same, exactly⟩, rfl⟩
            cases same
            exact ⟨(), exactly, rfl⟩
      | null => simp [closed, HasKeys]
      | foreign => simp [closed, HasKeys]
  | _ => simp [closed, HasKeys]

theorem plan_text_ok_iff {value : Option JsValue} {text : JsString} :
    planText value = .ok text ↔ value = some (.str text) ∧ blank text = false := by
  unfold planText
  split
  · rename_i found
    simp only [bind_ok_iff, ensure_ok_iff, pure_ok_iff]
    constructor
    · rintro ⟨_, filled, rfl⟩
      exact ⟨rfl, filled⟩
    · rintro ⟨same, filled⟩
      cases same
      exact ⟨(), filled, rfl⟩
  · rename_i other
    simp only [reduceCtorEq, false_iff, not_and]
    rintro rfl
    exact (other text rfl).elim

theorem read_texts_iff {items : List JsValue} {found : List JsString} :
    List.Forall₂ (fun item text => planText (some item) = .ok text) items found ↔
      items = found.map .str ∧ ∀ text ∈ found, blank text = false := by
  induction items generalizing found with
  | nil => cases found <;> simp
  | cons item rest ih =>
      cases found with
      | nil => simp
      | cons text later =>
          rw [List.forall₂_cons, ih, plan_text_ok_iff]
          simp only [Option.some.injEq, List.map_cons, List.cons.injEq, List.forall_mem_cons]
          constructor
          · rintro ⟨⟨same, filled⟩, others, each⟩
            exact ⟨⟨same, others⟩, filled, each⟩
          · rintro ⟨⟨same, others⟩, filled, each⟩
            exact ⟨⟨same, filled⟩, others, each⟩

theorem plan_texts_ok_iff {nonempty : Bool} {value : Option JsValue} {found : List JsString} :
    planTexts nonempty value = .ok found ↔ value = some (texts found) ∧
      (nonempty = true → found ≠ []) ∧ ∀ text ∈ found, blank text = false := by
  unfold planTexts
  split
  · rename_i items
    simp only [bind_ok_iff, ensure_ok_iff, mapM_ok_iff, read_texts_iff, texts, Option.some.injEq,
      JsValue.arr.injEq]
    constructor
    · rintro ⟨_, filled, rfl, each⟩
      exact ⟨rfl, fun asked nothing => filled asked (by simp [nothing]), each⟩
    · rintro ⟨rfl, filled, each⟩
      exact ⟨(), fun asked nothing => filled asked (by simpa using nothing), rfl, each⟩
  · rename_i other
    simp only [reduceCtorEq, false_iff, not_and]
    rintro rfl
    exact (other _ rfl).elim

end Shapes

section Items

theorem parse_item_ok_iff {tasks : List TaskPlanItemV1} {value : JsValue} {item : TaskPlanItemV1} :
    parsePlanItem tasks value = .ok item ↔ ReadsItem value item ∧ ItemGrammar item ∧
      item.key ∉ tasks.map TaskPlanItemV1.key := by
  have unique : planItemKeys.Nodup := by decide
  simp only [parsePlanItem, bind_ok_iff, closed_ok_iff unique, plan_text_ok_iff,
    plan_texts_ok_iff, ensure_ok_iff, pure_ok_iff]
  constructor
  · rintro ⟨_, ⟨fields, keys, rfl⟩, key, ⟨readKey, keyFilled⟩, title, ⟨readTitle, titleFilled⟩,
      instructions, ⟨readInstructions, instructionsFilled⟩, criteria, ⟨readCriteria, some_, each⟩,
      dependsOn, ⟨readDepends, -, sources⟩, _, ⟨fresh, distinct⟩, rfl⟩
    exact ⟨⟨fields, keys, readKey, readTitle, readInstructions, readCriteria, readDepends⟩,
      ⟨keyFilled, titleFilled, instructionsFilled, ⟨some_ trivial, each⟩, distinct, sources⟩, fresh⟩
  · rintro ⟨⟨fields, keys, readKey, readTitle, readInstructions, readCriteria, readDepends⟩,
      grammar, fresh⟩
    exact ⟨_, ⟨fields, keys, rfl⟩, _, ⟨readKey, grammar.key⟩, _, ⟨readTitle, grammar.title⟩, _,
      ⟨readInstructions, grammar.instructions⟩, _,
      ⟨readCriteria, fun _ => grammar.criteria.1, grammar.criteria.2⟩, _,
      ⟨readDepends, nofun, grammar.dependsOn.2⟩, (), ⟨fresh, grammar.dependsOn.1⟩, rfl⟩

-- The first pass: every item is read and checked, and its key is new.
theorem parse_items_ok_iff {items : List JsValue} {before after : List TaskPlanItemV1}
    (unique : (before.map TaskPlanItemV1.key).Nodup) :
    items.foldlM parsePlanItems before = .ok after ↔ ∃ tasks, after = before ++ tasks ∧
      List.Forall₂ ReadsItem items tasks ∧ (∀ item ∈ tasks, ItemGrammar item) ∧
      (after.map TaskPlanItemV1.key).Nodup := by
  induction items generalizing before with
  | nil =>
      simp only [List.foldlM_nil, pure_ok_iff, List.forall₂_nil_left_iff]
      constructor
      · rintro rfl
        exact ⟨[], by simp, rfl, by simp, unique⟩
      · rintro ⟨_, same, rfl, -, -⟩
        simpa using same.symm
  | cons value rest ih =>
      simp only [foldlM_cons_ok_iff, parsePlanItems, bind_ok_iff, pure_ok_iff, parse_item_ok_iff]
      constructor
      · rintro ⟨_, ⟨item, ⟨reads, grammar, fresh⟩, rfl⟩, folded⟩
        have grown : ((before ++ [item]).map TaskPlanItemV1.key).Nodup := by
          simpa using unique.concat fresh
        rcases (ih grown).1 folded with ⟨tasks, rfl, read, each, distinct⟩
        exact ⟨item :: tasks, by simp, .cons reads read, List.forall_mem_cons.2 ⟨grammar, each⟩,
          distinct⟩
      · rintro ⟨_, rfl, read, each, distinct⟩
        cases read with
        | @cons _ item _ tasks reads read =>
            have parts := List.forall_mem_cons.1 each
            have shift : before ++ item :: tasks = (before ++ [item]) ++ tasks := by simp
            have grown : ((before ++ [item]).map TaskPlanItemV1.key).Nodup := by
              rw [shift, List.map_append] at distinct
              exact distinct.sublist (List.sublist_append_left _ _)
            refine ⟨_, ⟨item, ⟨reads, parts.1, ?_⟩, rfl⟩, (ih grown).2
              ⟨tasks, shift, read, parts.2, distinct⟩⟩
            rw [List.map_append] at grown
            exact fun listed => List.disjoint_of_nodup_append grown listed (by simp)

end Items

section Graph

variable {tasks : List TaskPlanItemV1}

theorem edge_listed_iff {edge : DependencyEdgeV1} : edge ∈ dependencyEdges tasks ↔
    ∃ dependent source, DependsOn tasks dependent source ∧ edge = planItemEdge source dependent := by
  simp only [dependencyEdges, List.mem_flatMap, List.mem_map]
  constructor
  · rintro ⟨item, member, source, listed, rfl⟩
    exact ⟨item.key, source, ⟨item, member, rfl, listed⟩, rfl⟩
  · rintro ⟨_, source, ⟨item, member, rfl, listed⟩, rfl⟩
    exact ⟨item, member, source, listed, rfl⟩

theorem leads_iff {first second : JsString} :
    Leads (outgoing (dependencyEdges tasks)) first second ↔ DependsOn tasks second first := by
  simp only [Leads, outgoing_iff, edge_listed_iff]
  constructor
  · rintro ⟨_, ⟨dependent, source, depends, rfl⟩, rfl, rfl⟩
    exact depends
  · exact fun depends => ⟨_, ⟨second, first, depends, rfl⟩, rfl, rfl⟩

theorem acyclic_edges_iff : Acyclic (outgoing (dependencyEdges tasks)) ↔
    ∀ key, ¬Relation.TransGen (DependsOn tasks) key key := by
  have same : Leads (outgoing (dependencyEdges tasks)) = Function.swap (DependsOn tasks) := by
    funext first second
    exact propext leads_iff
  simp only [Acyclic, same, Relation.transGen_swap]

def dependencies (tasks : List TaskPlanItemV1) : List (JsString × JsString) :=
  tasks.flatMap fun item => item.dependsOn.map fun source => (source, item.key)

theorem dependency_listed_iff {source dependent : JsString} :
    (source, dependent) ∈ dependencies tasks ↔ DependsOn tasks dependent source := by
  simp only [dependencies, List.mem_flatMap, List.mem_map, Prod.mk.injEq, DependsOn]
  constructor
  · rintro ⟨item, member, _, listed, rfl, rfl⟩
    exact ⟨item, member, rfl, listed⟩
  · rintro ⟨item, member, rfl, listed⟩
    exact ⟨item, member, source, listed, rfl, rfl⟩

theorem dependencies_distinct (keys : (tasks.map TaskPlanItemV1.key).Nodup)
    (distinct : ∀ item ∈ tasks, item.dependsOn.Nodup) : (dependencies tasks).Nodup := by
  refine List.nodup_flatMap.2 ⟨fun item member => ?_, ?_⟩
  · exact (distinct item member).map fun first second same => (Prod.mk.inj same).1
  · refine (List.pairwise_map.1 keys).imp fun {first second} differs => ?_
    intro pair listed listed'
    rcases List.mem_map.1 listed with ⟨_, _, rfl⟩
    rcases List.mem_map.1 listed' with ⟨_, _, same⟩
    exact differs (Prod.mk.inj same).2.symm

-- The names of the edges differ when no two dependencies are joined to one.
theorem edge_names_iff (keys : (tasks.map TaskPlanItemV1.key).Nodup)
    (distinct : ∀ item ∈ tasks, item.dependsOn.Nodup) :
    ((dependencyEdges tasks).map DependencyEdgeV1.edgeId).Nodup ↔ NamesApart tasks := by
  have names : (dependencyEdges tasks).map DependencyEdgeV1.edgeId =
      (dependencies tasks).map fun pair => pair.1 ++ js ":" ++ pair.2 := by
    simp [dependencyEdges, dependencies, List.map_flatMap, planItemEdge, Function.comp_def]
  rw [names, List.nodup_map_iff_inj_on (dependencies_distinct keys distinct)]
  constructor
  · intro apart dependent source dependent' source' depends depends' joined
    have same := apart (source, dependent) (dependency_listed_iff.2 depends)
      (source', dependent') (dependency_listed_iff.2 depends') joined
    exact Prod.mk.inj same
  · intro apart first listed second listed' joined
    have same := apart _ _ _ _ (dependency_listed_iff.1 listed) (dependency_listed_iff.1 listed')
      joined
    exact Prod.ext same.1 same.2

theorem filled_text {text : JsString} (filled : blank text = false) : text ≠ [] := by
  rintro rfl
  cases filled

theorem plan_edges_join (items : ∀ item ∈ tasks, ItemGrammar item)
    (sources : ∀ item ∈ tasks, ∀ source ∈ item.dependsOn,
      source ∈ tasks.map TaskPlanItemV1.key ∧ source ≠ item.key) :
    ∀ edge ∈ dependencyEdges tasks, Joins (tasks.map TaskPlanItemV1.key) edge := by
  intro edge listed
  rcases edge_listed_iff.1 listed with ⟨_, source, ⟨item, member, rfl, depends⟩, rfl⟩
  have known := sources item member source depends
  refine ⟨?_, known.1, List.mem_map_of_mem member⟩
  have filled : source ≠ [] := filled_text ((items item member).dependsOn.2 source depends)
  have named : item.key ≠ [] := filled_text (items item member).key
  simp [validateDependencyEdge, planItemEdge, ensure, filled, named, known.2, bind, Except.bind]

end Graph

section Acceptance

variable {value : JsValue} {tasks : List TaskPlanItemV1}

-- What is accepted is a plan, and the names of its dependencies differ.
theorem parse_output_ok_iff : parseTaskPlanOutput value = .ok tasks ↔
    PlanOutput value tasks ∧ NamesApart tasks := by
  have unique : [js "tasks"].Nodup := by decide
  have fresh : (([] : List TaskPlanItemV1).map TaskPlanItemV1.key).Nodup := List.nodup_nil
  simp only [parseTaskPlanOutput, bind_ok_iff, closed_ok_iff unique]
  constructor
  · rintro ⟨_, ⟨fields, keys, rfl⟩, parsed⟩
    split at parsed
    · rename_i items found
      simp only [bind_ok_iff, ensure_ok_iff, map_error_ok_iff, pure_ok_iff,
        parse_items_ok_iff fresh] at parsed
      rcases parsed with ⟨_, size, _, ⟨new, whole, read, each, distinct⟩, _, sources, _, accepted,
        same⟩
      rw [same] at whole distinct sources accepted
      rw [List.nil_append] at whole
      subst whole
      rcases acyclic_iff.1 accepted with ⟨-, -, names, acyclic⟩
      have length := read.length_eq
      exact ⟨⟨⟨fields, items, keys, found, read⟩, length ▸ size, each, distinct, sources,
        acyclic_edges_iff.1 acyclic⟩,
        (edge_names_iff distinct fun item member => (each item member).dependsOn.1).1 names⟩
    · cases parsed
  · rintro ⟨⟨⟨fields, items, keys, found, read⟩, size, each, distinct, sources, acyclic⟩, apart⟩
    refine ⟨_, ⟨fields, keys, rfl⟩, ?_⟩
    simp only [found, bind_ok_iff, ensure_ok_iff, map_error_ok_iff, pure_ok_iff,
      parse_items_ok_iff fresh]
    have length := read.length_eq
    have accepted := acyclic_iff.2 ⟨distinct, plan_edges_join each sources,
      (edge_names_iff distinct fun item member => (each item member).dependsOn.1).2 apart,
      acyclic_edges_iff.2 acyclic⟩
    exact ⟨(), length ▸ size, tasks, ⟨tasks, rfl, read, each, distinct⟩, (), sources, (),
      accepted, rfl⟩

theorem reads_item_unique {first second : TaskPlanItemV1} (reads : ReadsItem value first)
    (reads' : ReadsItem value second) : first = second := by
  rcases reads.shape with ⟨fields, ⟨rfl, -⟩, key, title, instructions, criteria, depends⟩
  rcases reads'.shape with ⟨_, ⟨same, -⟩, key', title', instructions', criteria', depends'⟩
  cases same
  rw [key] at key'
  rw [title] at title'
  rw [instructions] at instructions'
  rw [criteria] at criteria'
  rw [depends] at depends'
  have texts_injective {left right : List JsString} (equal : some (texts left) = some (texts right)) :
      left = right := by
    simp only [texts, Option.some.injEq, JsValue.arr.injEq] at equal
    exact List.map_injective_iff.2 (fun _ _ same => JsValue.str.inj same) equal
  cases first
  cases second
  simp only [Option.some.injEq, JsValue.str.injEq] at key' title' instructions'
  simp only [TaskPlanItemV1.mk.injEq]
  exact ⟨key', title', instructions', texts_injective criteria', texts_injective depends'⟩

theorem plan_unique {other : List TaskPlanItemV1} (output : PlanOutput value tasks)
    (output' : PlanOutput value other) : tasks = other := by
  rcases output.reads with ⟨fields, items, ⟨rfl, -⟩, found, read⟩
  rcases output'.reads with ⟨_, _, ⟨same, -⟩, found', read'⟩
  cases same
  rw [found] at found'
  cases found'
  have single : Relator.RightUnique ReadsItem := fun _ _ _ => reads_item_unique
  exact single.forall₂ read read'

/-- The values of the grammar are the accepted ones exactly where no two dependencies of a plan
are joined to one name. -/
theorem plan_output_grammar (value : JsValue) :
    ((∃ tasks, parseTaskPlanOutput value = .ok tasks) ↔ ∃ tasks, PlanOutput value tasks) ↔
      ∀ tasks, PlanOutput value tasks → NamesApart tasks := by
  constructor
  · intro agrees tasks output
    rcases agrees.2 ⟨tasks, output⟩ with ⟨other, parsed⟩
    have accepted := parse_output_ok_iff.1 parsed
    exact plan_unique accepted.1 output ▸ accepted.2
  · intro apart
    constructor
    · rintro ⟨tasks, parsed⟩
      exact ⟨tasks, (parse_output_ok_iff.1 parsed).1⟩
    · rintro ⟨tasks, output⟩
      exact ⟨tasks, parse_output_ok_iff.2 ⟨output, apart tasks output⟩⟩

end Acceptance

section Colons

def colonItem (key : String) (dependsOn : List JsString) : TaskPlanItemV1 :=
  ⟨js key, js "t", js "i", [js "c"], dependsOn⟩

def colonPlan : List TaskPlanItemV1 :=
  [colonItem "a" [], colonItem "a:b" [], colonItem "c" [js "a:b"], colonItem "b:c" [js "a"]]

def colonOutput : JsValue := object [("tasks", .arr (colonPlan.map TaskPlanItemV1.toJson))]

theorem object_has_keys (entries : List (String × JsValue)) :
    HasKeys (object entries) (entries.map fun entry => js entry.1)
      (entries.map fun entry => (js entry.1, entry.2)) := by
  refine ⟨rfl, fun name => ?_⟩
  have names : (entries.map fun entry => (js entry.1, entry.2)).map Prod.fst =
      entries.map fun entry => js entry.1 := by simp
  rw [← names, ← not_iff_not, ← find_none_iff, Option.not_isSome_iff_eq_none]

theorem item_json_reads (item : TaskPlanItemV1) : ReadsItem item.toJson item :=
  ⟨_, object_has_keys _, rfl, rfl, rfl, rfl, rfl⟩

theorem colons_refused : (∃ tasks, PlanOutput colonOutput tasks) ∧
    parseTaskPlanOutput colonOutput = .error .planInvalid := by
  have checked : ∀ item ∈ colonPlan, blank item.key = false ∧ blank item.title = false ∧
      blank item.instructions = false ∧ item.acceptanceCriteria ≠ [] ∧
      (∀ criterion ∈ item.acceptanceCriteria, blank criterion = false) ∧
      item.dependsOn.Nodup ∧ ∀ source ∈ item.dependsOn, blank source = false := by decide
  have sources : ∀ item ∈ colonPlan, ∀ source ∈ item.dependsOn,
      source ∈ [js "a", js "a:b"] ∧ item.key ∉ [js "a", js "a:b"] := by decide
  have acyclic (key : JsString) : ¬Relation.TransGen (DependsOn colonPlan) key key := by
    intro cycle
    rcases Relation.TransGen.head'_iff.1 cycle with ⟨_, ⟨item, member, rfl, depends⟩, _⟩
    rcases Relation.TransGen.tail'_iff.1 cycle with ⟨_, _, ⟨other, member', _, depends'⟩⟩
    exact (sources item member _ depends).2 (sources other member' _ depends').1
  refine ⟨⟨colonPlan, ⟨_, _, object_has_keys _, rfl, ?_⟩, by decide, fun item member => ?_,
    by decide, by decide, acyclic⟩, by decide +kernel⟩
  · exact List.forall₂_map_left_iff.2 (List.forall₂_same.2 fun item _ => item_json_reads item)
  · rcases checked item member with ⟨key, title, instructions, some_, criteria, distinct, each⟩
    exact ⟨key, title, instructions, ⟨some_, criteria⟩, distinct, each⟩

end Colons

end Horseness.PlanGrammar
