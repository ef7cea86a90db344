import Horseness.Canonical
import Horseness.TreePaths

/-!
Script values and JSON trees as nodes with named children: an object by its member
names, an array by the texts of its indices. What a value denotes respects children
and their replacement, and so does being acceptable JSON.
-/

namespace Horseness.JsonPaths

open Records ScriptText JsonValues TreePaths Canonical

def childOf (token : JsString) : JsValue → Option JsValue
  | .arr items => (arrayIndex token).bind (fun index => items[index]?)
  | .obj _ fields => findEntry token fields
  | _ => none

def putChild (token : JsString) (inner : JsValue) : JsValue → JsValue
  | .arr items =>
      match arrayIndex token with
      | some index => .arr (items.set index inner)
      | none => .arr items
  | .obj proto fields => .obj proto (writeEntry token inner fields)
  | other => other

def childTree (token : JsString) : JsonTree → Option JsonTree
  | .arr items => (arrayIndex token).bind (fun index => items[index]?)
  | .obj fields => fields token
  | _ => none

def putTree (token : JsString) (inner : JsonTree) : JsonTree → JsonTree
  | .arr items =>
      match arrayIndex token with
      | some index => .arr (items.set index inner)
      | none => .arr items
  | .obj fields => .obj (Function.update fields token (some inner))
  | other => other

theorem write_write {Value : Type} (key : JsString) (first second : Value)
    (entries : List (JsString × Value)) :
    writeEntry key second (writeEntry key first entries) = writeEntry key second entries := by
  induction entries with
  | nil => simp [writeEntry]
  | cons entry rest ih => by_cases hit : entry.1 = key <;> simp [writeEntry, hit, ih]

theorem write_back {Value : Type} (key : JsString) (value : Value)
    (entries : List (JsString × Value)) (found : findEntry key entries = some value) :
    writeEntry key value entries = entries := by
  induction entries with
  | nil => cases found
  | cons entry rest ih =>
      by_cases hit : entry.1 = key
      · have same : entry.2 = value := by simpa [findEntry, hit] using found
        rw [writeEntry, if_pos hit, ← same, ← hit]
      · simp [writeEntry, hit, ih (by simpa [findEntry, hit] using found)]

theorem index_apart {token other : JsString} {index : Nat} (different : token ≠ other)
    (spelled : arrayIndex token = some index) : arrayIndex other ≠ some index :=
  fun same => different ((index_decimal spelled).trans (index_decimal same).symm)

theorem item_put {Item : Type} {token : JsString} {items : List Item} {old : Item} (new : Item)
    (found : (arrayIndex token).bind (fun index => items[index]?) = some old) :
    ∃ index, arrayIndex token = some index ∧ items[index]? = some old ∧
      (items.set index new)[index]? = some new := by
  obtain ⟨index, spelled, inside⟩ := Option.bind_eq_some_iff.mp found
  have bound := (List.getElem?_eq_some_iff.mp inside).1
  exact ⟨index, spelled, inside, List.getElem?_set_self bound⟩

theorem set_same {Item : Type} {items : List Item} {index : Nat} {old : Item}
    (inside : items[index]? = some old) : items.set index old = items := by
  obtain ⟨bound, rfl⟩ := List.getElem?_eq_some_iff.mp inside
  exact List.set_getElem_self bound

def values : Branching JsString JsValue where
  child := childOf
  put := putChild
  child_put := by
    intro token node old new found
    cases node with
    | arr items =>
        obtain ⟨index, spelled, _, written⟩ := item_put new found
        simp [putChild, childOf, spelled, written]
    | obj proto fields => simp [putChild, childOf, find_write]
    | _ => cases found
  child_put_other := by
    intro token other new node different
    cases node with
    | arr items =>
        cases spelled : arrayIndex token with
        | none => simp [putChild, childOf, spelled]
        | some index =>
            simp only [putChild, childOf, spelled]
            refine Option.bind_congr fun place same => List.getElem?_set_ne ?_
            rintro rfl
            exact index_apart different spelled same
    | obj proto fields => simp [putChild, childOf, find_write, different]
    | _ => rfl
  put_put := by
    intro token first second node
    cases node with
    | arr items => cases spelled : arrayIndex token <;> simp [putChild, spelled]
    | obj proto fields => simp [putChild, write_write]
    | _ => rfl
  put_child := by
    intro token node old found
    cases node with
    | arr items =>
        obtain ⟨index, spelled, inside, _⟩ := item_put old found
        simp [putChild, spelled, set_same inside]
    | obj proto fields => simp only [putChild, write_back token old fields found]
    | _ => rfl

def trees : Branching JsString JsonTree where
  child := childTree
  put := putTree
  child_put := by
    intro token node old new found
    cases node with
    | arr items =>
        obtain ⟨index, spelled, _, written⟩ := item_put new found
        simp [putTree, childTree, spelled, written]
    | obj fields => simp [putTree, childTree]
    | _ => cases found
  child_put_other := by
    intro token other new node different
    cases node with
    | arr items =>
        cases spelled : arrayIndex token with
        | none => simp [putTree, childTree, spelled]
        | some index =>
            simp only [putTree, childTree, spelled]
            refine Option.bind_congr fun place same => List.getElem?_set_ne ?_
            rintro rfl
            exact index_apart different spelled same
    | obj fields => simp [putTree, childTree, Function.update_of_ne (Ne.symm different)]
    | _ => rfl
  put_put := by
    intro token first second node
    cases node with
    | arr items => cases spelled : arrayIndex token <;> simp [putTree, spelled]
    | obj fields => simp [putTree]
    | _ => rfl
  put_child := by
    intro token node old found
    cases node with
    | arr items =>
        obtain ⟨index, spelled, inside, _⟩ := item_put old found
        simp [putTree, spelled, set_same inside]
    | obj fields =>
        have present : fields token = some old := found
        simp only [putTree, ← present, Function.update_eq_self]
    | _ => rfl

@[simp] theorem values_child : values.child = childOf := rfl
@[simp] theorem values_put : values.put = putChild := rfl
@[simp] theorem trees_child : trees.child = childTree := rfl
@[simp] theorem trees_put : trees.put = putTree := rfl

theorem meaning_write (key : JsString) (value : JsValue) (fields : List (JsString × JsValue)) :
    meaningFields (writeEntry key value fields) =
      Function.update (meaningFields fields) key (some (meaning value)) := by
  funext name
  simp only [meaning_fields, find_write, Function.update_apply]
  by_cases hit : key = name
  · simp [hit]
  · simp [hit, Ne.symm hit]

theorem meaning_child (token : JsString) (value : JsValue) :
    childTree token (meaning value) = (childOf token value).map meaning := by
  cases value with
  | arr items =>
      simp only [meaning, childTree, childOf, meaning_items, List.getElem?_map]
      cases arrayIndex token <;> rfl
  | obj proto fields => simp only [meaning, childTree, childOf, meaning_fields]
  | num number => cases number <;> rfl
  | _ => rfl

theorem meaning_put (token : JsString) (inner value : JsValue) :
    meaning (putChild token inner value) = putTree token (meaning inner) (meaning value) := by
  cases value with
  | arr items =>
      cases spelled : arrayIndex token <;>
        simp [putChild, putTree, meaning, spelled, meaning_items, List.map_set]
  | obj proto fields => simp only [putChild, putTree, meaning, meaning_write]
  | num number => cases number <;> rfl
  | _ => rfl

theorem meaning_morphism : Morphism values trees meaning where
  child := meaning_child
  put := fun token new node _ => meaning_put token new node

theorem write_entries {key : JsString} {value : JsValue} {fields : List (JsString × JsValue)}
    {entry : JsString × JsValue} (member : entry ∈ writeEntry key value fields) :
    entry = (key, value) ∨ entry ∈ fields := by
  induction fields with
  | nil => exact Or.inl (List.mem_singleton.mp member)
  | cons first rest ih =>
      by_cases hit : first.1 = key
      · rw [writeEntry, if_pos hit] at member
        exact (List.mem_cons.mp member).imp_right (List.mem_cons_of_mem first)
      · rw [writeEntry, if_neg hit] at member
        rcases List.mem_cons.mp member with same | later
        · exact Or.inr (same ▸ List.mem_cons_self)
        · exact (ih later).imp_right (List.mem_cons_of_mem first)

section Throughout

/-- A property of every node of a value. -/
inductive Throughout (holds : JsValue → Prop) : JsValue → Prop where
  | null : holds .null → Throughout holds .null
  | bool (value : Bool) : holds (.bool value) → Throughout holds (.bool value)
  | num (value : JsNumber) : holds (.num value) → Throughout holds (.num value)
  | str (text : JsString) : holds (.str text) → Throughout holds (.str text)
  | arr (items : List JsValue) : holds (.arr items) → (∀ item ∈ items, Throughout holds item) →
      Throughout holds (.arr items)
  | obj (proto : JsProto) (fields : List (JsString × JsValue)) : holds (.obj proto fields) →
      (∀ entry ∈ fields, Throughout holds entry.2) → Throughout holds (.obj proto fields)

variable {holds : JsValue → Prop}

theorem throughout_here {value : JsValue} (all : Throughout holds value) : holds value := by
  cases all <;> assumption

theorem throughout_items {items : List JsValue} (all : Throughout holds (.arr items)) :
    ∀ item ∈ items, Throughout holds item := by
  cases all
  assumption

theorem throughout_fields {proto : JsProto} {fields : List (JsString × JsValue)}
    (all : Throughout holds (.obj proto fields)) : ∀ entry ∈ fields, Throughout holds entry.2 := by
  cases all
  assumption

theorem throughout_child {token : JsString} {value inner : JsValue} (all : Throughout holds value)
    (found : childOf token value = some inner) : Throughout holds inner := by
  cases value with
  | arr items =>
      obtain ⟨index, _, inside⟩ := Option.bind_eq_some_iff.mp found
      exact throughout_items all inner (List.mem_of_getElem? inside)
  | obj proto fields => exact throughout_fields all _ (find_member token inner fields found)
  | _ => cases found

theorem throughout_put {token : JsString} {value inner : JsValue} (all : Throughout holds value)
    (part : Throughout holds inner) (here : holds (putChild token inner value)) :
    Throughout holds (putChild token inner value) := by
  cases value with
  | arr items =>
      cases spelled : arrayIndex token with
      | none => simpa only [putChild, spelled] using all
      | some index =>
          simp only [putChild, spelled] at here ⊢
          refine .arr _ here fun item member => ?_
          rcases List.mem_or_eq_of_mem_set member with old | rfl
          · exact throughout_items all item old
          · exact part
  | obj proto fields =>
      refine .obj _ _ here fun entry member => ?_
      rcases write_entries member with rfl | old
      · exact part
      · exact throughout_fields all entry old
  | _ => exact all

theorem throughout_hereditary (put : ∀ token inner value old, holds value →
    childOf token value = some old → holds (putChild token inner value)) :
    Hereditary values (Throughout holds) where
  child := throughout_child
  put := fun all found part => throughout_put all part (put _ _ _ _ (throughout_here all) found)

end Throughout

section Valid

def Valid (value : JsValue) : Prop := assertJson value = .ok ()

/-- What `assertJson` asks of one node. -/
def JsonNode : JsValue → Prop
  | .num .nan | .num (.infinite _) => False
  | .str text => validUnicode text = true
  | .obj proto fields => proto ≠ .foreign ∧ ∀ entry ∈ fields, validUnicode entry.1 = true
  | _ => True

theorem valid_iff (value : JsValue) : Valid value ↔ Throughout JsonNode value := by
  refine value_induction (fun value => Valid value ↔ Throughout JsonNode value) ?_ ?_ ?_ ?_ ?_ ?_ value
  · exact ⟨fun _ => .null trivial, fun _ => rfl⟩
  · exact fun flag => ⟨fun _ => .bool flag trivial, fun _ => rfl⟩
  · intro number
    constructor
    · intro valid
      cases number <;> first | exact .num _ trivial | cases valid
    · intro all
      have here := throughout_here all
      cases number <;> first | rfl | cases here
  · intro text
    rw [Valid, assert_str_ok_iff]
    exact ⟨fun valid => .str text valid, throughout_here⟩
  · intro items ih
    rw [Valid, assert_arr_ok_iff]
    constructor
    · exact fun valid => .arr items trivial (fun item member => (ih item member).mp (valid item member))
    · exact fun all item member => (ih item member).mpr (throughout_items all item member)
  · intro proto fields ih
    rw [Valid, assert_obj_ok_iff]
    constructor
    · intro valid
      exact .obj proto fields ⟨valid.1, fun entry member => (valid.2 entry member).1⟩
        (fun entry member => (ih entry member).mp (valid.2 entry member).2)
    · intro all
      refine ⟨(throughout_here all).1, fun entry member => ⟨(throughout_here all).2 entry member, ?_⟩⟩
      exact (ih entry member).mpr (throughout_fields all entry member)

theorem node_write {proto : JsProto} {fields : List (JsString × JsValue)} {key : JsString}
    (value : JsValue) (node : JsonNode (.obj proto fields)) (name : validUnicode key = true) :
    JsonNode (.obj proto (writeEntry key value fields)) := by
  refine ⟨node.1, fun entry member => ?_⟩
  rcases write_entries member with rfl | old
  · exact name
  · exact node.2 entry old

theorem node_put (token : JsString) (inner value old : JsValue) (node : JsonNode value)
    (found : childOf token value = some old) : JsonNode (putChild token inner value) := by
  cases value with
  | arr items => cases spelled : arrayIndex token <;> simp [putChild, spelled, JsonNode]
  | obj proto fields =>
      exact node_write inner node (node.2 _ (find_member token old fields found))
  | _ => cases found

theorem valid_hereditary : Hereditary values (Throughout JsonNode) :=
  throughout_hereditary node_put

end Valid

end Horseness.JsonPaths
