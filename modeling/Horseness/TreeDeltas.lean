import Horseness.Delta
import Mathlib.Data.List.InsertIdx

/-!
What an operation of a delta does to the tree that the document denotes: it replaces,
removes or inserts one child of one container. The single exception is a new member
`__proto__`, which an assignment never creates on an ordinary object.
-/

namespace Horseness.TreeDeltas

open FallibleRuns Records ScriptText JsonValues TreePaths JsonPaths Canonical ScriptEngine Delta

def insertTree (inner : JsonTree) (token : JsString) : JsonTree → JsonTree
  | .arr items =>
      match arrayIndex token with
      | some index => .arr (items.insertIdx index inner)
      | none => .arr items
  | .obj fields => .obj (Function.update fields token (some inner))
  | other => other

/-- The container without a child: later items of an array move down. -/
def removeTree (token : JsString) : JsonTree → JsonTree
  | .arr items =>
      match arrayIndex token with
      | some index => .arr (items.eraseIdx index)
      | none => .arr items
  | .obj fields => .obj (Function.update fields token none)
  | other => other

def isContainer : JsonTree → Bool
  | .arr _ | .obj _ => true
  | _ => false

section Containers

theorem parent_key_append (document : JsValue) (parent : List JsString) (key : JsString) :
    parentAndKey document (parent ++ [key]) =
      ((nodeAt values parent document).filter (fun current => isContainer (meaning current))).map
        (fun current => (current, key)) := by
  simp only [parentAndKey, List.dropLast_concat, List.getLast?_concat]
  cases nodeAt values parent document with
  | none => rfl
  | some current =>
      cases current with
      | num number => cases number <;> rfl
      | _ => rfl

theorem parent_key_some {document : JsValue} {parent : List JsString} {key : JsString}
    {location : JsValue × JsString} (found : parentAndKey document (parent ++ [key]) = some location) :
    ∃ container, nodeAt values parent document = some container ∧ location = (container, key) := by
  rw [parent_key_append] at found
  obtain ⟨container, reached, rfl⟩ := Option.map_eq_some_iff.mp found
  exact ⟨container, (Option.filter_eq_some_iff.mp reached).1, rfl⟩

theorem child_container {key : JsString} {parent inner : JsValue}
    (found : childOf key parent = some inner) : isContainer (meaning parent) = true := by
  cases parent with
  | arr items => rfl
  | obj proto fields => rfl
  | _ => cases found

theorem tokens_split {tokens : List JsString} (filled : tokens ≠ []) :
    ∃ parent key, tokens = parent ++ [key] :=
  ⟨tokens.dropLast, tokens.getLast filled, (List.dropLast_append_getLast filled).symm⟩

theorem read_at (document : JsValue) (tokens : List JsString) :
    readAt document tokens = nodeAt values tokens document := by
  by_cases empty : tokens = []
  · rw [readAt, if_pos empty, empty]
    rfl
  · obtain ⟨parent, key, rfl⟩ := tokens_split empty
    rw [readAt, if_neg empty, parent_key_append, node_append]
    cases nodeAt values parent document with
    | none => rfl
    | some current =>
        by_cases branch : isContainer (meaning current) = true
        · simp [Option.filter, branch]
        · have bare : childOf key current = none :=
            Option.eq_none_iff_forall_ne_some.mpr fun inner found => branch (child_container found)
          simp [Option.filter, branch, bare]

theorem edit_parent (edit : JsString → JsValue → JsValue) (document : JsValue)
    (parent : List JsString) (key : JsString) :
    editParent edit document (parent ++ [key]) = editAt values (edit key) parent document := by
  simp [editParent]

def MeetsSetter (key : JsString) (parent : JsValue) : Prop :=
  ∃ proto fields, parent = .obj proto fields ∧ key = js "__proto__" ∧
    findEntry key fields = none ∧ proto ≠ .null

theorem meaning_assign (value : JsValue) (key : JsString) (parent : JsValue)
    (plain : ¬ MeetsSetter key parent) :
    meaning (assignMember value key parent) = putTree key (meaning value) (meaning parent) := by
  cases parent with
  | obj proto fields =>
      have member : (findEntry key fields).isSome ∨ key ≠ js "__proto__" ∨ proto = .null := by
        by_contra missed
        simp only [not_or, not_not, Option.not_isSome_iff_eq_none] at missed
        exact plain ⟨proto, fields, rfl, missed.2.1, missed.1, missed.2.2⟩
      simp only [assignMember, if_pos member]
      exact meaning_put key value (.obj proto fields)
  | arr items => exact meaning_put key value (.arr items)
  | num number => exact meaning_put key value (.num number)
  | _ => rfl

theorem meaning_setter (value : JsValue) (key : JsString) (parent : JsValue)
    (met : MeetsSetter key parent) : meaning (assignMember value key parent) = meaning parent := by
  obtain ⟨proto, fields, rfl, named, absent, inherited⟩ := met
  have unowned : ¬ ((findEntry key fields).isSome ∨ key ≠ js "__proto__" ∨ proto = .null) := by
    rintro (owned | other | null)
    · rw [absent] at owned
      cases owned
    · exact other named
    · exact inherited null
  simp only [assignMember, if_neg unowned, meaning]

theorem child_of_node {document current container : JsValue} {parent : List JsString}
    {key : JsString} (found : nodeAt values (parent ++ [key]) document = some current)
    (reached : nodeAt values parent document = some container) :
    childOf key container = some current := by
  simpa [node_append, reached] using found

theorem assign_child {value current parent : JsValue} {key : JsString}
    (found : childOf key parent = some current) : assignMember value key parent = putChild key value parent := by
  cases parent with
  | obj proto fields =>
      have present : findEntry key fields = some current := found
      have owned : (findEntry key fields).isSome ∨ key ≠ js "__proto__" ∨ proto = .null :=
        Or.inl (by simp [present])
      simp only [assignMember, if_pos owned, putChild]
  | _ => rfl

-- Assigning over a child that is there replaces the node on its path.
theorem edit_assign {document current value : JsValue} {parent : List JsString} {key : JsString}
    (found : nodeAt values (parent ++ [key]) document = some current) :
    editAt values (assignMember value key) parent document =
      editAt values (fun _ => value) (parent ++ [key]) document := by
  rw [edit_append]
  apply edit_congr
  intro container reached
  have child := child_of_node found reached
  rw [assign_child child]
  simp [editAt, child]

theorem meaning_remove (key : JsString) (parent : JsValue) :
    meaning (removeMember key parent) = removeTree key (meaning parent) := by
  cases parent with
  | arr items =>
      cases spelled : arrayIndex key <;>
        simp [removeMember, removeTree, meaning, spelled, meaning_items, List.eraseIdx_map]
  | obj proto fields =>
      simp only [removeMember, removeTree, meaning, JsonTree.obj.injEq]
      funext name
      simp only [meaning_fields, find_filter, Function.update_apply]
      by_cases hit : key = name
      · simp [hit]
      · simp [hit, Ne.symm hit]
  | num number => cases number <;> rfl
  | _ => rfl

theorem meaning_insert (value : JsValue) (key : JsString) (parent : JsValue)
    (plain : ¬ MeetsSetter key parent) :
    meaning (insertMember value key parent) = insertTree (meaning value) key (meaning parent) := by
  cases parent with
  | arr items =>
      cases spelled : arrayIndex key <;>
        simp [insertMember, insertTree, meaning, spelled, meaning_items, List.map_insertIdx]
  | obj proto fields => exact meaning_assign value key (.obj proto fields) plain
  | num number => cases number <;> rfl
  | _ => rfl

theorem meaning_insert_setter (value : JsValue) (key : JsString) (parent : JsValue)
    (met : MeetsSetter key parent) : meaning (insertMember value key parent) = meaning parent := by
  obtain ⟨proto, fields, rfl, rest⟩ := met
  exact meaning_setter value key _ ⟨proto, fields, rfl, rest⟩

end Containers

theorem meaning_container (container : JsValue) (items : List JsonTree)
    (array : meaning container = .arr items) :
    ∃ inner, container = .arr inner ∧ items = inner.map meaning := by
  cases container with
  | arr inner =>
      rw [meaning, meaning_items] at array
      exact ⟨inner, rfl, (JsonTree.arr.inj array).symm⟩
  | num number => cases number <;> cases array
  | _ => cases array

theorem place_room {key : JsString} {container : JsValue} {done : Unit}
    (placed : checkPlace key container = .ok done) (items : List JsonTree)
    (array : meaning container = .arr items) :
    ∃ index, arrayIndex key = some index ∧ index ≤ items.length := by
  obtain ⟨inner, rfl, rfl⟩ := meaning_container container items array
  simp only [checkPlace, bind_ok_iff, required_ok_iff, ensure_ok_iff] at placed
  obtain ⟨index, spelled, room⟩ := placed
  exact ⟨index, spelled, by rwa [List.length_map]⟩

/-- What an applied operation does to the tree of the document. -/
inductive TreeEffect (tokens : List JsString) : DeltaOperationV1 → JsonTree → JsonTree → Prop where
  | tested (path expected : JsString) (tree : JsonTree) :
      TreeEffect tokens (.test path expected) tree tree
  | replaced (path expected : JsString) (value : JsValue) (tree : JsonTree) :
      TreeEffect tokens (.replace path expected value) tree
        (editAt trees (fun _ => meaning value) tokens tree)
  | removed (path expected : JsString) (parent : List JsString) (key : JsString)
      (tree old : JsonTree) (place : tokens = parent ++ [key])
      (found : nodeAt trees tokens tree = some old) :
      TreeEffect tokens (.remove path expected) tree (editAt trees (removeTree key) parent tree)
  | inserted (path expected : JsString) (value : JsValue) (parent : List JsString) (key : JsString)
      (tree container : JsonTree) (place : tokens = parent ++ [key])
      (found : nodeAt trees parent tree = some container)
      (room : ∀ items, container = .arr items →
        ∃ index, arrayIndex key = some index ∧ index ≤ items.length) :
      TreeEffect tokens (.add path expected value) tree
        (editAt trees (insertTree (meaning value) key) parent tree)
  | ignored (path expected : JsString) (value : JsValue) (parent : List JsString)
      (tree : JsonTree) (fields : JsString → Option JsonTree)
      (place : tokens = parent ++ [js "__proto__"])
      (found : nodeAt trees parent tree = some (.obj fields))
      (absent : fields (js "__proto__") = none) :
      TreeEffect tokens (.add path expected value) tree tree

section Checked

theorem escaping_ok_iff {Result : Type} (attempt : Except DomainError Result) (result : Result) :
    escaping attempt = .ok result ↔ attempt = .ok result := map_error_ok_iff _ _ _

theorem caught_ok_iff {Result : Type} (attempt : Except DomainError Result)
    (reason : DeltaReasonCode) (result : Result) :
    caught attempt reason = .ok result ↔ attempt = .ok result := map_error_ok_iff _ _ _

def writtenValue : DeltaOperationV1 → Option JsValue
  | .add _ _ value | .replace _ _ value => some value
  | .test _ _ | .remove _ _ => none

/-- What the first loop has established of an operation. -/
structure Checked (scope : DeltaAuthorityScopeV1) (operation : DeltaOperationV1) : Prop where
  pointer : ∃ tokens, validatePointer operation.path = .ok tokens
  granted : scopeContains scope operation.path = .ok true
  value : ∀ value, writtenValue operation = some value → Valid value

theorem check_operation_ok {scope : DeltaAuthorityScopeV1} {raw : JsValue}
    {operation : DeltaOperationV1} (checked : checkOperation scope raw = .ok operation) :
    Checked scope operation := by
  simp only [checkOperation, bind_ok_iff, caught_ok_iff, escaping_ok_iff, required_ok_iff,
    ensure_ok_iff] at checked
  obtain ⟨⟨tag, digest, fields⟩, _, path, _, tokens, pointer, inside, granted, _, allowed, made⟩ :=
    checked
  subst allowed
  cases tag with
  | test | remove =>
      obtain rfl := (pure_ok_iff _ _).mp made
      exact ⟨⟨tokens, pointer⟩, granted, fun value written => by cases written⟩
  | add | replace =>
      simp only [operationValue, bind_ok_iff, caught_ok_iff, required_ok_iff, pure_ok_iff] at made
      obtain ⟨value, ⟨_, _, _, valid, rfl⟩, rfl⟩ := made
      exact ⟨⟨tokens, pointer⟩, granted, fun other written => Option.some.inj written ▸ valid⟩

end Checked

section Effects

variable [Engine]

omit [Engine] in
theorem read_meaning (document : JsValue) (tokens : List JsString) :
    nodeAt trees tokens (meaning document) = (readAt document tokens).map meaning := by
  rw [read_at]
  exact image_node meaning_child tokens document

theorem guard_ok_iff (value : JsValue) (expected : JsString) (reason : DeltaReasonCode) (done : Unit) :
    guardDigest value expected reason = .ok done ↔ jsonValueDigest value = .ok expected := by
  simp only [guardDigest, bind_ok_iff, escaping_ok_iff, ensure_ok_iff]
  exact ⟨fun ⟨_, hashed, same⟩ => same ▸ hashed, fun hashed => ⟨_, hashed, rfl⟩⟩

/-- What an applied operation has found and done. -/
inductive Applied (tokens : List JsString) (document : JsValue) :
    DeltaOperationV1 → JsValue → Prop where
  | tested (path expected : JsString) (current : JsValue)
      (found : nodeAt values tokens document = some current)
      (guarded : jsonValueDigest current = .ok expected) :
      Applied tokens document (.test path expected) document
  | replaced (path expected : JsString) (value current : JsValue)
      (found : nodeAt values tokens document = some current)
      (guarded : jsonValueDigest current = .ok expected) (valid : Valid value) :
      Applied tokens document (.replace path expected value)
        (editAt values (fun _ => normalize value) tokens document)
  | removed (path expected : JsString) (parent : List JsString) (key : JsString)
      (container current : JsValue) (place : tokens = parent ++ [key])
      (reached : nodeAt values parent document = some container)
      (found : childOf key container = some current)
      (guarded : jsonValueDigest current = .ok expected) :
      Applied tokens document (.remove path expected)
        (editAt values (removeMember key) parent document)
  | inserted (path expected : JsString) (value : JsValue) (parent : List JsString) (key : JsString)
      (container : JsValue) (place : tokens = parent ++ [key])
      (reached : nodeAt values parent document = some container)
      (guarded : jsonValueDigest container = .ok expected)
      (placed : checkPlace key container = .ok ()) (valid : Valid value) :
      Applied tokens document (.add path expected value)
        (editAt values (insertMember (normalize value) key) parent document)

theorem apply_cases {tokens : List JsString} {document after : JsValue}
    {operation : DeltaOperationV1} (applied : applyAt tokens document operation = .ok after) :
    Applied tokens document operation after := by
  cases operation with
  | test path expected =>
      simp only [applyAt, bind_ok_iff, required_ok_iff, guard_ok_iff, pure_ok_iff, read_at] at applied
      obtain ⟨current, found, _, guarded, rfl⟩ := applied
      exact .tested path expected current found guarded
  | replace path expected value =>
      simp only [applyAt, bind_ok_iff, required_ok_iff, guard_ok_iff, escaping_ok_iff, clone_ok_iff,
        read_at] at applied
      obtain ⟨current, found, _, guarded, copy, ⟨valid, rfl⟩, applied⟩ := applied
      have same : after = editAt values (fun _ => normalize value) tokens document := by
        by_cases root : tokens = []
        · rw [if_pos root, pure_ok_iff] at applied
          rw [← applied, root]
          rfl
        · rw [if_neg root, pure_ok_iff] at applied
          obtain ⟨parent, key, rfl⟩ := tokens_split root
          rw [← applied, edit_parent, edit_assign found]
      rw [same]
      exact .replaced path expected value current found guarded valid
  | remove path expected =>
      simp only [applyAt, bind_ok_iff, required_ok_iff, guard_ok_iff, ensure_ok_iff, pure_ok_iff,
        read_at] at applied
      obtain ⟨_, filled, current, found, _, guarded, rfl⟩ := applied
      obtain ⟨parent, key, rfl⟩ := tokens_split filled
      rw [node_append] at found
      obtain ⟨container, reached, inside⟩ := Option.bind_eq_some_iff.mp found
      rw [node_single] at inside
      rw [edit_parent]
      exact .removed path expected parent key container current rfl reached inside guarded
  | add path expected value =>
      simp only [applyAt, bind_ok_iff, required_ok_iff, guard_ok_iff, ensure_ok_iff, pure_ok_iff,
        escaping_ok_iff, clone_ok_iff] at applied
      obtain ⟨_, filled, location, found, _, guarded, _, placed, copy, ⟨valid, rfl⟩, rfl⟩ := applied
      obtain ⟨parent, key, rfl⟩ := tokens_split filled
      obtain ⟨container, reached, rfl⟩ := parent_key_some found
      rw [edit_parent]
      exact .inserted path expected value parent key container rfl reached guarded placed valid

omit [Engine] in
-- An insertion edits the tree alike, or meets the setter and leaves it.
theorem meaning_inserted {document container value : JsValue} {parent : List JsString}
    {key : JsString} (reached : nodeAt values parent document = some container) :
    (MeetsSetter key container → meaning (editAt values (insertMember value key) parent document) =
      meaning document) ∧
    (¬ MeetsSetter key container →
      meaning (editAt values (insertMember value key) parent document) =
        editAt trees (insertTree (meaning value) key) parent (meaning document)) := by
  constructor
  · intro met
    refine (image_edit meaning_morphism parent document ?_).trans (edit_id trees parent _)
    intro inner found
    obtain rfl := Option.some.inj (reached.symm.trans found)
    exact meaning_insert_setter _ key container met
  · intro plain
    apply image_edit meaning_morphism
    intro inner found
    obtain rfl := Option.some.inj (reached.symm.trans found)
    exact meaning_insert _ key container plain

theorem apply_effect {tokens : List JsString} {document after : JsValue}
    {operation : DeltaOperationV1} (applied : applyAt tokens document operation = .ok after) :
    TreeEffect tokens operation (meaning document) (meaning after) := by
  cases apply_cases applied with
  | tested path expected => exact .tested path expected _
  | replaced path expected value =>
      have same : meaning (editAt values (fun _ => normalize value) tokens document) =
          editAt trees (fun _ => meaning value) tokens (meaning document) :=
        image_edit meaning_morphism tokens document (fun _ _ => meaning_normalize value)
      rw [same]
      exact .replaced path expected value _
  | removed path expected parent key container current place reached found =>
      have present : nodeAt trees tokens (meaning document) = some (meaning current) := by
        rw [read_meaning, read_at, place, node_append, reached]
        simp [found]
      rw [image_edit meaning_morphism parent document (fun inner _ => meaning_remove key inner)]
      exact .removed path expected parent key _ _ place present
  | inserted path expected value parent key container place reached guarded placed =>
      have reads : nodeAt trees parent (meaning document) = some (meaning container) := by
        rw [read_meaning, read_at, reached]
        rfl
      by_cases met : MeetsSetter key container
      · rw [(meaning_inserted reached).1 met]
        obtain ⟨proto, fields, rfl, rfl, absent, _⟩ := met
        refine .ignored path expected value parent _ _ place reads ?_
        simp [meaning_fields, absent]
      · rw [(meaning_inserted reached).2 met, meaning_normalize]
        exact .inserted path expected value parent key _ _ place reads (place_room placed)

theorem accepted_run {base document : JsValue} {operations : List JsValue}
    {scope : DeltaAuthorityScopeV1} {stateHash operationResultDigest : JsString}
    (accepted : applyDelta base operations scope =
      .ok (.accepted document stateHash operationResultDigest)) :
    runDelta base operations scope = .ok (.accepted document stateHash operationResultDigest) := by
  unfold applyDelta at accepted
  split at accepted
  · rename_i result ran
    exact ran.trans (congrArg _ (Except.ok.inj accepted))
  · rename_i reason stopped
    simp only [Delta.failure, Except.ok.injEq] at accepted
    split at accepted <;> cases accepted
  · cases accepted

-- The end of a fold is accepted only with a document that is acceptable JSON.
theorem accept_valid {base document : JsValue} {operations : List JsValue} {result : DeltaResult}
    (accepted : acceptDocument base operations document = .ok result) :
    Valid document ∧ ∃ stateHash operationResultDigest,
      result = .accepted document stateHash operationResultDigest := by
  simp only [acceptDocument, bind_ok_iff, escaping_ok_iff, ensure_ok_iff, pure_ok_iff] at accepted
  obtain ⟨digest, hashed, _, _, _, _, stateHash, _, resultDigest, _, rfl⟩ := accepted
  exact ⟨((digest_ok_iff _ document digest).mp hashed).1, stateHash, resultDigest, rfl⟩

omit [Engine] in
theorem check_delta_checked {base : JsValue} {operations : List JsValue}
    {scope : DeltaAuthorityScopeV1} {checked : List DeltaOperationV1}
    (passed : checkDelta base operations scope = .ok checked) :
    Valid base ∧ ∀ operation ∈ checked, Checked scope operation := by
  simp only [checkDelta, checkBase, bind_ok_iff, map_error_ok_iff, mapM_ok_iff, ensure_ok_iff,
    pure_ok_iff] at passed
  obtain ⟨_, ⟨_, valid, _⟩, listed, each, _, _, _, _, rfl⟩ := passed
  refine ⟨valid, ?_⟩
  clear * - each
  induction each with
  | nil => simp
  | cons made _ ih => exact List.forall_mem_cons.mpr ⟨check_operation_ok made, ih⟩

end Effects

end Horseness.TreeDeltas
