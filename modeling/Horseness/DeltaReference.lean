import Horseness.TreeDeltas
import Horseness.IdealDigests

/-!
The reference of a delta: the operations folded over the tree that the base denotes,
with objects as partial maps and a guard as equality of trees. The code agrees with it
until an addition of a member `__proto__` passes its checks; from there the document
and the reference tree stay different, so a completed fold never agrees again.
-/

namespace Horseness.DeltaReference

open FallibleRuns Records ScriptText JsonValues JsonText JsonRoundTrip TreePaths JsonPaths Canonical
  ScriptEngine Delta TreeDeltas IdealDigests

section Reference

variable [Engine]

open Classical in
noncomputable def guardTree (tree : JsonTree) (expected : JsString) (reason : DeltaReasonCode) :
    Except Stop Unit :=
  ensure (Denotes expected tree) (.failed reason)

/-- The place of an added child: an index up to the length, or an unused name. -/
def placeTree (key : JsString) : JsonTree → Except Stop Unit
  | .arr items => do
      let index ← required (arrayIndex key) (.failed .arrayIndexRange)
      ensure (index ≤ items.length) (.failed .arrayIndexRange)
  | tree => ensure (childTree key tree = none) (.failed .addTargetExists)

noncomputable def referenceAt (tokens : List JsString) (tree : JsonTree) :
    DeltaOperationV1 → Except Stop JsonTree
  | .test _ expected => do
      let current ← required (nodeAt trees tokens tree) (.failed .testFailed)
      guardTree current expected .testFailed
      return tree
  | .replace _ expected value => do
      let current ← required (nodeAt trees tokens tree) (.failed .pathMissing)
      guardTree current expected .valueDigestMismatch
      return editAt trees (fun _ => meaning value) tokens tree
  | .remove _ expected => do
      ensure (tokens ≠ []) (.failed .rootRemoveForbidden)
      let current ← required (nodeAt trees tokens tree) (.failed .pathMissing)
      guardTree current expected .valueDigestMismatch
      return editAt trees (removeTree (tokens.getLastD [])) tokens.dropLast tree
  | .add _ expected value => do
      ensure (tokens ≠ []) (.failed .rootAddForbidden)
      let container ← required ((nodeAt trees tokens.dropLast tree).filter isContainer)
        (.failed .pathMissing)
      guardTree container expected .addParentChanged
      placeTree (tokens.getLastD []) container
      return editAt trees (insertTree (meaning value) (tokens.getLastD [])) tokens.dropLast tree

noncomputable def referenceOperation (tree : JsonTree) (operation : DeltaOperationV1) :
    Except Stop JsonTree := do
  let tokens ← caught (validatePointer operation.path) .invalidPointer
  referenceAt tokens tree operation

open Classical in
/-- The checks, the fold, and the comparison with the base. -/
noncomputable def referenceDelta (base : JsValue) (operations : List JsValue)
    (scope : DeltaAuthorityScopeV1) : Except Stop JsonTree := do
  let checked ← checkDelta base operations scope
  let tree ← checked.foldlM referenceOperation (meaning base)
  ensure (tree ≠ meaning base) (.failed .finalDocumentUnchanged)
  return tree

/-- The code returns what the reference gives: a document that denotes the tree, or
the failure of the same reason. It does not throw. -/
def Agrees (base : JsValue) (operations : List JsValue) (scope : DeltaAuthorityScopeV1) : Prop :=
  match referenceDelta base operations scope with
  | .ok tree => ∃ document stateHash operationResultDigest,
      applyDelta base operations scope = .ok (.accepted document stateHash operationResultDigest) ∧
        meaning document = tree
  | .error (.failed reason) => applyDelta base operations scope = .ok (failure reason)
  | .error (.thrown _) => False

/-- The operation adds a new member `__proto__` to an object, and its guard holds. -/
def AddsProto (tree : JsonTree) (operation : DeltaOperationV1) : Prop :=
  ∃ path expected value parent fields, operation = .add path expected value ∧
    validatePointer path = .ok (parent ++ [js "__proto__"]) ∧
    nodeAt trees parent tree = some (.obj fields) ∧ Denotes expected (.obj fields) ∧
    fields (js "__proto__") = none

def ReachesProto (base : JsValue) (operations : List JsValue) (scope : DeltaAuthorityScopeV1) :
    Prop :=
  ∃ before operation after tree, checkDelta base operations scope = .ok (before ++ operation :: after) ∧
    before.foldlM referenceOperation (meaning base) = .ok tree ∧ AddsProto tree operation

end Reference

section Pointers

def Plain (unit : UInt16) : Prop := highSurrogate unit = false ∧ lowSurrogate unit = false

theorem unicode_split (left right : JsString) {unit : UInt16} (plain : Plain unit)
    (valid : validUnicode (left ++ unit :: right) = true) :
    validUnicode left = true ∧ validUnicode right = true := by
  fun_induction validUnicode left with
  | case1 =>
      unfold validUnicode at valid
      simpa [plain.1, plain.2] using valid
  | case2 first high =>
      unfold validUnicode at valid
      simp [high, plain.2] at valid
  | case3 first high next tail ih =>
      unfold validUnicode at valid
      simp only [List.cons_append, high, if_true, Bool.and_eq_true] at valid
      obtain ⟨low, rest⟩ := valid
      simpa [low] using ih rest
  | case4 first rest high ih =>
      unfold validUnicode at valid
      simp only [List.cons_append, high, Bool.false_eq_true, if_false, Bool.and_eq_true] at valid
      obtain ⟨low, later⟩ := valid
      simpa [low] using ih later

theorem unicode_cons {unit : UInt16} (plain : Plain unit) (rest : JsString) :
    validUnicode (unit :: rest) = validUnicode rest := by
  conv => lhs; unfold validUnicode
  simp [plain.1, plain.2]

/-- Each unit stands for itself, or is plain and stands for two plain ones. -/
def Escapes (escape : UInt16 → JsString) : Prop :=
  ∀ unit, escape unit = [unit] ∨
    (Plain unit ∧ ∃ first second, Plain first ∧ Plain second ∧ escape unit = [first, second])

theorem unicode_escaped {escape : UInt16 → JsString} (law : Escapes escape) (text : JsString)
    (valid : validUnicode (text.flatMap escape) = true) : validUnicode text = true := by
  fun_induction validUnicode text with
  | case1 => rfl
  | case2 first high =>
      rcases law first with same | ⟨plain, _⟩
      · unfold validUnicode at valid
        simp [same, high] at valid
      · simp [plain.1] at high
  | case3 first high next tail ih =>
      rcases law first with same | ⟨plain, _⟩
      · rw [List.flatMap_cons, same, List.singleton_append] at valid
        unfold validUnicode at valid
        rcases law next with own | ⟨_, low, _, plainLow, _, pair⟩
        · simp only [high, if_true, List.flatMap_cons, own, List.singleton_append,
            Bool.and_eq_true] at valid
          simpa [valid.1] using ih valid.2
        · simp [high, List.flatMap_cons, pair, plainLow.2] at valid
      · simp [plain.1] at high
  | case4 first rest high ih =>
      rcases law first with same | ⟨plain, before, after, plainBefore, plainAfter, pair⟩
      · rw [List.flatMap_cons, same, List.singleton_append] at valid
        unfold validUnicode at valid
        simp only [high, Bool.false_eq_true, if_false, Bool.and_eq_true] at valid
        simpa [valid.1] using ih valid.2
      · rw [List.flatMap_cons, pair, List.cons_append, List.singleton_append,
          unicode_cons plainBefore, unicode_cons plainAfter] at valid
        simpa [plain.2] using ih valid

theorem escape_tilde_law : Escapes escapeTilde := by
  intro unit
  by_cases hit : unit = tilde
  · subst hit
    exact Or.inr ⟨⟨rfl, rfl⟩, tilde, 48, ⟨rfl, rfl⟩, ⟨rfl, rfl⟩, rfl⟩
  · exact Or.inl (if_neg hit)

theorem escape_slash_law : Escapes escapeSlash := by
  intro unit
  by_cases hit : unit = slash
  · subst hit
    exact Or.inr ⟨⟨rfl, rfl⟩, tilde, 49, ⟨rfl, rfl⟩, ⟨rfl, rfl⟩, rfl⟩
  · exact Or.inl (if_neg hit)

theorem unicode_parts (parts : List JsString) (valid : validUnicode (join [slash] parts) = true) :
    ∀ part ∈ parts, validUnicode part = true := by
  induction parts with
  | nil => simp
  | cons first rest ih =>
      cases rest with
      | nil => simpa [join] using valid
      | cons next later =>
          rw [join_cons_cons, List.append_assoc, List.singleton_append] at valid
          obtain ⟨here, there⟩ := unicode_split first _ ⟨rfl, rfl⟩ valid
          exact List.forall_mem_cons.mpr ⟨here, ih there⟩

-- The tokens of a pointer are valid texts, since they encode to it.
theorem tokens_unicode {path : JsString} {tokens : List JsString}
    (pointer : validatePointer path = .ok tokens) : ∀ token ∈ tokens, validUnicode token = true := by
  simp only [validatePointer, check_ok_iff, ensure_ok_iff] at pointer
  obtain ⟨valid, pointer⟩ := pointer
  by_cases root : path = []
  · rw [if_pos root, pure_ok_iff] at pointer
    simp [← pointer]
  · rw [if_neg root] at pointer
    simp only [ensure_ok_iff, bind_ok_iff, pure_ok_iff] at pointer
    obtain ⟨_, _, _, _, _, encoded, rfl⟩ := pointer
    rw [assert_str_ok_iff, ← encoded, unicode_cons ⟨rfl, rfl⟩] at valid
    intro token member
    apply unicode_escaped escape_tilde_law
    apply unicode_escaped escape_slash_law
    exact unicode_parts _ valid _ (List.mem_map_of_mem member)

end Pointers

section Nodes

def TidyNode (value : JsValue) : Prop :=
  ∀ proto fields, value = .obj proto fields → (fields.map Prod.fst).Nodup

def SoundNode (value : JsValue) : Prop :=
  JsonNode value ∧ ∀ proto fields, value = .obj proto fields → proto = .object

theorem sound_normalize (value : JsValue) : Valid value → Throughout SoundNode (normalize value) := by
  refine value_induction (fun value => Valid value → Throughout SoundNode (normalize value))
    ?_ ?_ ?_ ?_ ?_ ?_ value
  · exact fun _ => .null ⟨trivial, fun _ _ same => by cases same⟩
  · exact fun flag _ => .bool flag ⟨trivial, fun _ _ same => by cases same⟩
  · intro number _
    cases number with
    | nan | infinite => exact .null ⟨trivial, fun _ _ same => by cases same⟩
    | _ => exact .num _ ⟨trivial, fun _ _ same => by cases same⟩
  · exact fun text valid => .str text ⟨(assert_str_ok_iff text ()).mp valid, fun _ _ same => by cases same⟩
  · intro items ih valid
    rw [JsonValues.normalize, normalize_items]
    refine .arr _ ⟨trivial, fun _ _ same => by cases same⟩ (List.forall_mem_map.mpr fun item member => ?_)
    exact ih item member ((assert_arr_ok_iff items ()).mp valid item member)
  · intro proto fields ih valid
    have parts := (assert_obj_ok_iff proto fields ()).mp valid
    have origin : ∀ entry ∈ sortFields (normalizeFields fields), ∃ old ∈ fields,
        entry = (old.1, normalize old.2) := by
      intro entry member
      rw [normalize_fields] at member
      obtain ⟨old, listed, same⟩ := List.mem_map.mp (sort_subset _ member)
      exact ⟨old, listed, same.symm⟩
    refine .obj _ _ ⟨⟨by decide, fun entry member => ?_⟩, ?_⟩ fun entry member => ?_
    · obtain ⟨old, listed, rfl⟩ := origin entry member
      exact (parts.2 old listed).1
    · rintro _ _ ⟨rfl, rfl⟩
      rfl
    · obtain ⟨old, listed, rfl⟩ := origin entry member
      exact ih old listed (parts.2 old listed).2

theorem tidy_normalize (value : JsValue) : Throughout TidyNode (normalize value) := by
  refine value_induction (fun value => Throughout TidyNode (normalize value)) ?_ ?_ ?_ ?_ ?_ ?_ value
  · exact .null (fun _ _ same => by cases same)
  · exact fun flag => .bool flag (fun _ _ same => by cases same)
  · intro number
    cases number with
    | nan | infinite => exact .null (fun _ _ same => by cases same)
    | _ => exact .num _ (fun _ _ same => by cases same)
  · exact fun text => .str text (fun _ _ same => by cases same)
  · intro items ih
    rw [JsonValues.normalize, normalize_items]
    exact .arr _ (fun _ _ same => by cases same) (List.forall_mem_map.mpr ih)
  · intro proto fields ih
    refine .obj _ _ ?_ fun entry member => ?_
    · rintro _ _ ⟨rfl, rfl⟩
      exact sort_unique _
    · rw [normalize_fields] at member
      obtain ⟨old, listed, rfl⟩ := List.mem_map.mp (sort_subset _ member)
      exact ih old listed

variable {holds : JsValue → Prop}

theorem throughout_remove {key : JsString} {value : JsValue} (all : Throughout holds value)
    (here : holds (removeMember key value)) : Throughout holds (removeMember key value) := by
  cases value with
  | arr items =>
      cases spelled : arrayIndex key with
      | none => simpa only [removeMember, spelled] using all
      | some index =>
          simp only [removeMember, spelled] at here ⊢
          exact .arr _ here (fun item member =>
            throughout_items all item (List.mem_of_mem_eraseIdx member))
  | obj proto fields =>
      exact .obj _ _ here (fun entry member => throughout_fields all entry (List.mem_of_mem_filter member))
  | _ => exact all

theorem throughout_insert {key : JsString} {inner value : JsValue} (all : Throughout holds value)
    (part : Throughout holds inner) (here : holds (insertMember inner key value)) :
    Throughout holds (insertMember inner key value) := by
  cases value with
  | arr items =>
      cases spelled : arrayIndex key with
      | none => simpa only [insertMember, spelled] using all
      | some index =>
          simp only [insertMember, spelled] at here ⊢
          refine .arr _ here fun item member => ?_
          rcases List.eq_or_mem_of_mem_insertIdx member with rfl | old
          · exact part
          · exact throughout_items all item old
  | obj proto fields =>
      by_cases owned : (findEntry key fields).isSome ∨ key ≠ js "__proto__" ∨ proto = .null
      · simp only [insertMember, assignMember, if_pos owned] at here ⊢
        refine .obj _ _ here fun entry member => ?_
        rcases write_entries member with rfl | old
        · exact part
        · exact throughout_fields all entry old
      · simp only [insertMember, assignMember, if_neg owned] at here ⊢
        exact .obj _ _ here (throughout_fields all)
  | _ => exact all

/-- A property of nodes that the edits of operations keep; with `setter` also where an
assignment meets the inherited setter. -/
structure NodeKept (setter : Prop) (holds : JsValue → Prop) : Prop where
  put : ∀ token inner value old, holds value → childOf token value = some old →
    holds (putChild token inner value)
  remove : ∀ key value, holds value → holds (removeMember key value)
  insert : ∀ inner key value, holds value → validUnicode key = true →
    (MeetsSetter key value → setter) → holds (insertMember inner key value)

theorem tidy_kept : NodeKept True TidyNode where
  put := by
    intro token inner value old tidy found
    cases value with
    | obj proto fields =>
        rintro _ _ ⟨rfl, rfl⟩
        exact write_unique token inner fields (tidy proto fields rfl)
    | arr items =>
        intro proto fields same
        cases spelled : arrayIndex token <;> simp [putChild, spelled] at same
    | _ => cases found
  remove := by
    intro key value tidy
    cases value with
    | obj proto fields =>
        rintro _ _ ⟨rfl, rfl⟩
        exact (List.filter_sublist.map Prod.fst).nodup (tidy proto fields rfl)
    | arr items =>
        intro proto fields same
        cases spelled : arrayIndex key <;> simp [removeMember, spelled] at same
    | _ => exact tidy
  insert := by
    intro inner key value tidy _ _
    cases value with
    | obj proto fields =>
        by_cases owned : (findEntry key fields).isSome ∨ key ≠ js "__proto__" ∨ proto = .null
        · simp only [insertMember, assignMember, if_pos owned]
          rintro _ _ ⟨rfl, rfl⟩
          exact write_unique key inner fields (tidy proto fields rfl)
        · simp only [insertMember, assignMember, if_neg owned]
          rintro _ _ ⟨rfl, rfl⟩
          exact tidy proto fields rfl
    | arr items =>
        intro proto fields same
        cases spelled : arrayIndex key <;> simp [insertMember, spelled] at same
    | _ => exact tidy

theorem sound_kept : NodeKept False SoundNode where
  put := by
    intro token inner value old sound found
    refine ⟨node_put token inner value old sound.1 found, ?_⟩
    cases value with
    | obj proto fields =>
        rintro _ _ ⟨rfl, rfl⟩
        exact sound.2 proto fields rfl
    | arr items =>
        intro proto fields same
        cases spelled : arrayIndex token <;> simp [putChild, spelled] at same
    | _ => cases found
  remove := by
    intro key value sound
    cases value with
    | obj proto fields =>
        refine ⟨⟨sound.1.1, fun entry member => sound.1.2 entry (List.mem_of_mem_filter member)⟩, ?_⟩
        rintro _ _ ⟨rfl, rfl⟩
        exact sound.2 proto fields rfl
    | arr items =>
        refine ⟨?_, fun proto fields same => ?_⟩
        · cases spelled : arrayIndex key <;> simp [removeMember, spelled, JsonNode]
        · cases spelled : arrayIndex key <;> simp [removeMember, spelled] at same
    | _ => exact sound
  insert := by
    intro inner key value sound name plain
    cases value with
    | obj proto fields =>
        have member : (findEntry key fields).isSome ∨ key ≠ js "__proto__" ∨ proto = .null := by
          by_contra missed
          simp only [not_or, not_not, Option.not_isSome_iff_eq_none] at missed
          exact plain ⟨proto, fields, rfl, missed.2.1, missed.1, missed.2.2⟩
        simp only [insertMember, assignMember, if_pos member]
        refine ⟨node_write inner sound.1 name, ?_⟩
        rintro _ _ ⟨rfl, rfl⟩
        exact sound.2 proto fields rfl
    | arr items =>
        refine ⟨?_, fun proto fields same => ?_⟩
        · cases spelled : arrayIndex key <;> simp [insertMember, spelled, JsonNode]
        · cases spelled : arrayIndex key <;> simp [insertMember, spelled] at same
    | _ => exact sound

variable [Engine] {tokens : List JsString} {document after : JsValue} {operation : DeltaOperationV1}

-- Documents keep, through an operation, what its edits keep at each node.
theorem applied_throughout {setter : Prop} (kept : NodeKept setter holds)
    (normal : ∀ value, Valid value → Throughout holds (normalize value))
    (names : ∀ token ∈ tokens, validUnicode token = true)
    (all : Throughout holds document) (applied : Applied tokens document operation after)
    (plain : ∀ path expected value parent key container, operation = .add path expected value →
      tokens = parent ++ [key] → nodeAt values parent document = some container →
      jsonValueDigest container = .ok expected → MeetsSetter key container → setter) :
    Throughout holds after := by
  have law := throughout_hereditary kept.put
  cases applied with
  | tested => exact all
  | replaced path expected value current found guarded valid =>
      exact hereditary_edit law _ tokens document all (fun _ _ => normal value valid)
  | removed path expected parent key container current place reached found =>
      apply hereditary_edit law _ parent document all
      intro inner met
      have part := hereditary_node law parent document inner all met
      exact throughout_remove part (kept.remove key inner (throughout_here part))
  | inserted path expected value parent key container place reached guarded placed valid =>
      apply hereditary_edit law _ parent document all
      intro inner met
      obtain rfl := Option.some.inj (reached.symm.trans met)
      have part := hereditary_node law parent document container all reached
      have name := names key (place ▸ List.mem_append_right parent List.mem_cons_self)
      apply throughout_insert part (normal value valid)
      exact kept.insert _ key container (throughout_here part) name
        (plain path expected value parent key container rfl place reached guarded)

end Nodes

section Simulation

variable {tokens : List JsString} {document : JsValue} {operation : DeltaOperationV1}

theorem sound_valid {value : JsValue} (sound : Throughout SoundNode value) : Valid value := by
  rw [valid_iff]
  induction sound with
  | null here => exact .null here.1
  | bool flag here => exact .bool flag here.1
  | num number here => exact .num number here.1
  | str text here => exact .str text here.1
  | arr items here _ ih => exact .arr items here.1 ih
  | obj proto fields here _ ih => exact .obj proto fields here.1 ih

theorem sound_node {path : List JsString} {inner : JsValue}
    (sound : Throughout SoundNode document) (found : nodeAt values path document = some inner) :
    Throughout SoundNode inner :=
  hereditary_node (throughout_hereditary sound_kept.put) path document inner sound found

variable [Engine]

theorem guard_tree {value : JsValue} (valid : Valid value) (expected : JsString)
    (reason : DeltaReasonCode) :
    guardDigest value expected reason = guardTree (meaning value) expected reason := by
  have hashed := digest_exists (js "horseness.json-value.v1") valid
  have named : Denotes expected (meaning value) ↔ jsonValueDigest value = .ok expected :=
    denotes_iff valid
  rw [jsonValueDigest, hashed, Except.ok.injEq] at named
  rw [guardDigest, guardTree, jsonValueDigest, hashed]
  by_cases same : Engine.sha256Hex (js "horseness.json-value.v1" ++ 0 :: serialize value) = expected
  · simp [escaping, Except.mapError, ensure, same, named.mpr same]
  · have other : ¬ Denotes expected (meaning value) := fun denotes => same (named.mp denotes)
    simp [escaping, Except.mapError, ensure, same, other]

omit [Engine] in
theorem place_tree (key : JsString) (container : JsValue) :
    checkPlace key container = placeTree key (meaning container) := by
  cases container with
  | arr items => simp only [checkPlace, placeTree, meaning, meaning_items, List.length_map]
  | obj proto fields =>
      have child := meaning_child key (.obj proto fields)
      simp only [meaning] at child
      cases found : childOf key (.obj proto fields) <;>
        simp [checkPlace, placeTree, meaning, found, child, ensure]
  | num number => cases number <;> rfl
  | _ => rfl

omit [Engine] in
theorem node_meaning (document : JsValue) (path : List JsString) :
    nodeAt trees path (meaning document) = (nodeAt values path document).map meaning :=
  image_node meaning_child path document

/-- The operation that would meet the setter is the one that the reference names. -/
def MeetsProto (tree : JsonTree) (tokens : List JsString) (operation : DeltaOperationV1) : Prop :=
  ∃ path expected value parent fields, operation = .add path expected value ∧
    tokens = parent ++ [js "__proto__"] ∧ nodeAt trees parent tree = some (.obj fields) ∧
    Denotes expected (.obj fields) ∧ fields (js "__proto__") = none

theorem apply_reference (sound : Throughout SoundNode document)
    (valid : ∀ value, writtenValue operation = some value → Valid value)
    (plain : ¬ MeetsProto (meaning document) tokens operation) :
    (applyAt tokens document operation).map meaning = referenceAt tokens (meaning document) operation := by
  cases operation with
  | test path expected =>
      simp only [applyAt, referenceAt, read_at, node_meaning]
      cases found : nodeAt values tokens document with
      | none => rfl
      | some current =>
          have guard := guard_tree (sound_valid (sound_node sound found)) expected .testFailed
          simp only [required, Option.map_some, ok_bind, ← guard]
          cases guardDigest current expected .testFailed <;> rfl
  | replace path expected value =>
      simp only [applyAt, referenceAt, read_at, node_meaning]
      cases found : nodeAt values tokens document with
      | none => rfl
      | some current =>
          have guard := guard_tree (sound_valid (sound_node sound found)) expected .valueDigestMismatch
          simp only [required, Option.map_some, ok_bind, ← guard]
          cases guardDigest current expected .valueDigestMismatch with
          | error stop => rfl
          | ok done =>
              have cloned := (clone_ok_iff value _).mpr ⟨valid value rfl, rfl⟩
              have edited : meaning (editAt values (fun _ => normalize value) tokens document) =
                  editAt trees (fun _ => meaning value) tokens (meaning document) :=
                image_edit meaning_morphism tokens document (fun _ _ => meaning_normalize value)
              simp only [ok_bind, cloned, escaping, Except.mapError, ← edited]
              by_cases root : tokens = []
              · rw [if_pos root, root]
                rfl
              · rw [if_neg root]
                obtain ⟨parent, key, rfl⟩ := tokens_split root
                rw [edit_parent, edit_assign found]
                rfl
  | remove path expected =>
      by_cases root : tokens = []
      · simp [applyAt, referenceAt, ensure, root]
        rfl
      · obtain ⟨parent, key, rfl⟩ := tokens_split root
        simp only [applyAt, referenceAt, read_at, node_meaning, ensure_true _ root, ok_bind]
        cases found : nodeAt values (parent ++ [key]) document with
        | none => rfl
        | some current =>
            have guard := guard_tree (sound_valid (sound_node sound found)) expected .valueDigestMismatch
            have edited := image_edit meaning_morphism parent document
              (fun inner _ => meaning_remove key inner)
            simp only [required, Option.map_some, ok_bind, ← guard]
            cases guardDigest current expected .valueDigestMismatch with
            | error stop => rfl
            | ok done =>
                simp only [ok_bind, edit_parent, List.dropLast_concat, List.getLastD_concat, ← edited]
                rfl
  | add path expected value =>
      by_cases root : tokens = []
      · simp [applyAt, referenceAt, ensure, root]
        rfl
      · obtain ⟨parent, key, rfl⟩ := tokens_split root
        simp only [applyAt, referenceAt, ensure_true _ root, ok_bind, parent_key_append,
          List.dropLast_concat, List.getLastD_concat, node_meaning]
        cases reached : nodeAt values parent document with
        | none => rfl
        | some container =>
            by_cases branch : isContainer (meaning container) = true
            · simp only [Option.map_some, Option.filter, branch, if_true]
              have whole := sound_valid (sound_node sound reached)
              have guard := guard_tree whole expected .addParentChanged
              simp only [required, ok_bind, ← guard, place_tree]
              cases guarded : guardDigest container expected .addParentChanged with
              | error stop => rfl
              | ok done =>
                  simp only [ok_bind]
                  cases placeTree key (meaning container) with
                  | error stop => rfl
                  | ok placed =>
                      have cloned := (clone_ok_iff value _).mpr ⟨valid value rfl, rfl⟩
                      have free : ¬ MeetsSetter key container := by
                        rintro ⟨proto, fields, rfl, rfl, absent, _⟩
                        refine plain ⟨path, expected, value, parent, meaningFields fields, rfl, rfl, ?_, ?_, ?_⟩
                        · simp [node_meaning, reached, meaning]
                        · exact (denotes_iff whole).mpr ((guard_ok_iff _ _ _ _).mp guarded)
                        · simp [meaning_fields, absent]
                      have edited := (@meaning_inserted _ _ (normalize value) _ _ reached).2 free
                      rw [meaning_normalize] at edited
                      simp only [ok_bind, cloned, escaping, Except.mapError, edit_parent, ← edited]
                      rfl
            · simp only [Option.map_some, Option.filter, branch]
              rfl

-- The pointer of a checked operation leads the code and the reference to one step.
theorem operation_tokens (document : JsValue) (tree : JsonTree)
    (pointer : validatePointer operation.path = .ok tokens) :
    applyOperation document operation = applyAt tokens document operation ∧
      referenceOperation tree operation = referenceAt tokens tree operation := by
  simp [applyOperation, referenceOperation, pointer, caught, Except.mapError]

theorem sound_applied {after : JsValue} {path : JsString}
    (pointer : validatePointer path = .ok tokens) (sound : Throughout SoundNode document)
    (applied : applyAt tokens document operation = .ok after)
    (free : ¬ MeetsProto (meaning document) tokens operation) : Throughout SoundNode after := by
  apply applied_throughout sound_kept sound_normalize (tokens_unicode pointer) sound
    (apply_cases applied)
  rintro path expected value parent key container rfl rfl reached guarded
    ⟨proto, fields, rfl, rfl, absent, _⟩
  refine free ⟨path, expected, value, parent, meaningFields fields, rfl, rfl, ?_, ?_, ?_⟩
  · simp [node_meaning, reached, meaning]
  · exact ⟨_, guarded, rfl⟩
  · simp [meaning_fields, absent]

theorem run_reference {scope : DeltaAuthorityScopeV1} (operations : List DeltaOperationV1)
    (checked : ∀ operation ∈ operations, Checked scope operation)
    (sound : Throughout SoundNode document)
    (plain : ∀ before operation after tree, operations = before ++ operation :: after →
      before.foldlM referenceOperation (meaning document) = .ok tree → ¬ AddsProto tree operation) :
    (operations.foldlM applyOperation document).map meaning =
        operations.foldlM referenceOperation (meaning document) ∧
      ∀ result, operations.foldlM applyOperation document = .ok result →
        Throughout SoundNode result := by
  induction operations generalizing document with
  | nil =>
      refine ⟨rfl, fun result done => ?_⟩
      have same : document = result := by simpa [pure, Except.pure] using done
      exact same ▸ sound
  | cons operation rest ih =>
      have here := checked operation List.mem_cons_self
      obtain ⟨tokens, pointer⟩ := here.pointer
      have free : ¬ MeetsProto (meaning document) tokens operation := by
        rintro ⟨path, expected, value, parent, fields, rfl, rfl, later⟩
        exact plain [] _ rest (meaning document) rfl rfl
          ⟨path, expected, value, parent, fields, rfl, pointer, later⟩
      have step := apply_reference sound here.value free
      have codeStep := (operation_tokens document (meaning document) pointer).1
      have treeStep := (operation_tokens document (meaning document) pointer).2
      rw [List.foldlM_cons, List.foldlM_cons, codeStep, treeStep, ← step]
      cases applied : applyAt tokens document operation with
      | error stop => exact ⟨rfl, fun result done => by cases done⟩
      | ok next =>
          have kept := sound_applied pointer sound applied free
          apply ih (fun later member => checked later (List.mem_cons_of_mem operation member)) kept
          intro before later after tree split folded
          apply plain (operation :: before) later after tree (by rw [split]; rfl)
          rw [List.foldlM_cons, treeStep, ← step, applied]
          exact folded

end Simulation

section Failures

def Avoids (bad : Stop → Prop) {Result : Type} (run : Except Stop Result) : Prop :=
  ∀ stop, bad stop → run ≠ .error stop

variable {bad : Stop → Prop} {Result Other : Type}

theorem avoids_ok (result : Result) : Avoids bad (.ok result) := fun _ _ same => by cases same

theorem avoids_ensure (condition : Prop) [Decidable condition] {reason : DeltaReasonCode}
    (good : ¬ bad (.failed reason)) : Avoids bad (ensure condition (.failed reason)) := by
  intro stop wrong same
  unfold ensure at same
  split at same
  · cases same
  · cases same
    exact good wrong

theorem avoids_required (value : Option Result) {reason : DeltaReasonCode}
    (good : ¬ bad (.failed reason)) : Avoids bad (required value (.failed reason)) := by
  intro stop wrong same
  cases value <;> cases same
  exact good wrong

theorem avoids_caught (attempt : Except DomainError Result) {reason : DeltaReasonCode}
    (good : ¬ bad (.failed reason)) : Avoids bad (caught attempt reason) := by
  intro stop wrong same
  cases attempt <;> cases same
  exact good wrong

theorem avoids_escaping (attempt : Except DomainError Result)
    (good : ∀ error, ¬ bad (.thrown error)) : Avoids bad (escaping attempt) := by
  intro stop wrong same
  cases attempt <;> cases same
  exact good _ wrong

theorem avoids_bind {run : Except Stop Result} {next : Result → Except Stop Other}
    (first : Avoids bad run) (later : ∀ result, run = .ok result → Avoids bad (next result)) :
    Avoids bad (run >>= next) := by
  cases run with
  | error stop =>
      intro other wrong same
      exact first other wrong (congrArg Except.error (Except.error.inj same))
  | ok result => exact later result rfl

theorem avoids_map {Item : Type} (step : Item → Except Stop Result) (items : List Item)
    (each : ∀ item ∈ items, Avoids bad (step item)) : Avoids bad (items.mapM step) := by
  induction items with
  | nil => exact avoids_ok []
  | cons item rest ih =>
      rw [List.mapM_cons]
      apply avoids_bind (each item List.mem_cons_self)
      intro result _
      apply avoids_bind (ih (fun later member => each later (List.mem_cons_of_mem item member)))
      exact fun results _ => avoids_ok _

theorem avoids_fold {Item State : Type} (step : State → Item → Except Stop State)
    (each : ∀ state item, Avoids bad (step state item)) (items : List Item) (state : State) :
    Avoids bad (items.foldlM step state) := by
  induction items generalizing state with
  | nil => exact avoids_ok state
  | cons item rest ih =>
      rw [List.foldlM_cons]
      exact avoids_bind (each state item) (fun next _ => ih next)

def Thrown : Stop → Prop
  | .thrown _ => True
  | .failed _ => False

-- With valid roots and a valid path the scope test gives an answer.
theorem scope_answers {scope : DeltaAuthorityScopeV1} {path : JsString} {tokens : List JsString}
    (pointer : validatePointer path = .ok tokens)
    (roots : ∀ root ∈ scope.roots, ∃ above, validatePointer root = .ok above) :
    ∃ inside, scopeContains scope path = .ok inside := by
  have search : ∀ list : List JsString, (∀ root ∈ list, ∃ above, validatePointer root = .ok above) →
      ∃ inside, list.anyM (fun root => do
        let rootTokens ← validatePointer root
        return rootTokens.isPrefixOf tokens) = Except.ok inside := by
    intro list valid
    induction list with
    | nil => exact ⟨false, rfl⟩
    | cons root rest ih =>
        obtain ⟨above, spelled⟩ := valid root List.mem_cons_self
        obtain ⟨inside, found⟩ := ih (fun later member => valid later (List.mem_cons_of_mem root member))
        rw [List.anyM, spelled]
        cases covers : above.isPrefixOf tokens with
        | true => exact ⟨true, by simp [covers]⟩
        | false => exact ⟨inside, by simpa [covers] using found⟩
  obtain ⟨inside, found⟩ := search scope.roots roots
  exact ⟨inside, by simpa [scopeContains, pointer] using found⟩

theorem contained_check_operation {scope : DeltaAuthorityScopeV1} (operation : JsValue)
    (roots : ∀ root ∈ scope.roots, ∃ above, validatePointer root = .ok above) :
    Avoids Thrown (checkOperation scope operation) := by
  have envelope : Avoids Thrown (operationEnvelope operation) := by
    cases operation with
    | obj proto fields =>
        refine avoids_bind (avoids_required _ id) fun tag _ => ?_
        refine avoids_bind (avoids_ensure _ id) fun _ _ => ?_
        exact avoids_bind (avoids_required _ id) (fun _ _ => avoids_ok _)
    | _ => exact fun _ wrong same => by cases same; exact wrong
  have value : ∀ fields, Avoids Thrown (operationValue fields) := by
    intro fields
    refine avoids_bind (avoids_required _ id) fun _ _ => ?_
    exact avoids_bind (avoids_caught _ id) (fun _ _ => avoids_ok _)
  refine avoids_bind envelope fun ⟨tag, digest, fields⟩ _ => ?_
  refine avoids_bind (avoids_required _ id) fun path _ => ?_
  refine avoids_bind (avoids_caught _ id) fun tokens pointer => ?_
  obtain ⟨inside, answer⟩ := scope_answers ((caught_ok_iff _ _ _).mp pointer) roots
  rw [answer]
  refine avoids_bind (avoids_ok inside) fun _ _ => ?_
  refine avoids_bind (avoids_ensure _ id) fun _ _ => ?_
  cases tag with
  | test | remove => exact avoids_ok _
  | add | replace => exact avoids_bind (value fields) (fun _ _ => avoids_ok _)

theorem contained_check (base : JsValue) (operations : List JsValue) (scope : DeltaAuthorityScopeV1) :
    Avoids Thrown (checkDelta base operations scope) := by
  have first : Avoids Thrown ((checkBase base scope).mapError
      (fun error => Stop.failed (baseReason error))) := by
    intro stop wrong same
    cases checked : checkBase base scope <;> rw [checked] at same <;> cases same
    exact wrong
  refine avoids_bind first fun _ passed => ?_
  simp only [map_error_ok_iff, checkBase, canonicalScope, bind_ok_iff, pure_ok_iff,
    forM_ok_iff] at passed
  obtain ⟨_, _, _, ⟨_, each, _⟩, _⟩ := passed
  have roots : ∀ root ∈ scope.roots, ∃ above, validatePointer root = .ok above := by
    intro root member
    obtain ⟨above, spelled, _⟩ := each root member
    exact ⟨above, spelled⟩
  refine avoids_bind (avoids_map _ _ (fun operation _ =>
    contained_check_operation operation roots)) fun checked _ => ?_
  refine avoids_bind (avoids_ensure _ id) fun _ _ => ?_
  exact avoids_bind (avoids_ensure _ id) (fun _ _ => avoids_ok _)

end Failures

section Agreement

theorem object_two_valid {first second : String} {left right : JsValue}
    (names : validUnicode (js first) = true ∧ validUnicode (js second) = true)
    (validLeft : Valid left) (validRight : Valid right) :
    Valid (object [(first, left), (second, right)]) := by
  apply (assert_obj_ok_iff _ _ ()).mpr
  refine ⟨by decide, ?_⟩
  simp only [List.map_cons, List.map_nil, List.forall_mem_cons]
  exact ⟨⟨names.1, validLeft⟩, ⟨names.2, validRight⟩, by simp⟩

variable [Engine]

-- The end of a fold over acceptable values: accepted unless the tree is the base's.
theorem accept_sound (ideal : Function.Injective Engine.sha256Hex) {base document : JsValue}
    {operations : List JsValue} (json : ∀ operation ∈ operations, Valid operation)
    (baseValid : Valid base) (valid : Valid document) :
    (meaning document = meaning base →
      acceptDocument base operations document = .error (.failed .finalDocumentUnchanged)) ∧
    (meaning document ≠ meaning base → ∃ stateHash operationResultDigest,
      acceptDocument base operations document =
        .ok (.accepted document stateHash operationResultDigest)) := by
  have after := digest_exists (js "horseness.json-value.v1") valid
  have before := digest_exists (js "horseness.json-value.v1") baseValid
  constructor
  · intro same
    have texts := (serialize_eq_iff document base).mpr same
    simp [acceptDocument, jsonValueDigest, after, before, texts, escaping, Except.mapError, ensure]
    rfl
  · intro different
    have digests : Engine.sha256Hex (js "horseness.json-value.v1" ++ 0 :: serialize document) ≠
        Engine.sha256Hex (js "horseness.json-value.v1" ++ 0 :: serialize base) := by
      intro same
      exact different (digest_meaning ideal (after.trans (congrArg Except.ok same)) before)
    have whole : Valid (object [("operations", .arr operations), ("document", document)]) :=
      object_two_valid (by decide +kernel) ((assert_arr_ok_iff operations ()).mpr json) valid
    have state := digest_exists (js "horseness.canonical-document.v1") valid
    have result := digest_exists (js "horseness.delta-operation-result.v1") whole
    refine ⟨Engine.sha256Hex (js "horseness.canonical-document.v1" ++ 0 :: serialize document),
      Engine.sha256Hex (js "horseness.delta-operation-result.v1" ++
        0 :: serialize (object [("operations", .arr operations), ("document", document)])), ?_⟩
    simp [acceptDocument, jsonValueDigest, after, before, digests, escaping, Except.mapError, ensure,
      state, result]

-- The end of a fold finds no change only in a document that denotes the base's tree.
theorem accept_unchanged (ideal : Function.Injective Engine.sha256Hex) {base document : JsValue}
    {operations : List JsValue}
    (unchanged : acceptDocument base operations document = .error (.failed .finalDocumentUnchanged)) :
    Valid document ∧ meaning document = meaning base := by
  unfold acceptDocument at unchanged
  cases after : jsonValueDigest document with
  | error error => simp [after, escaping, Except.mapError, bind, Except.bind] at unchanged
  | ok digest =>
      refine ⟨((digest_ok_iff _ document digest).mp after).1, ?_⟩
      cases before : jsonValueDigest base with
      | error error => simp [after, before, escaping, Except.mapError, bind, Except.bind] at unchanged
      | ok old =>
          by_cases same : digest = old
          · exact digest_meaning ideal after (before.trans (congrArg Except.ok same.symm))
          · cases state : domainDigest (js "horseness.canonical-document.v1") document <;>
              cases result : domainDigest (js "horseness.delta-operation-result.v1")
                (object [("operations", .arr operations), ("document", document)]) <;>
              simp [after, before, same, state, result, escaping, Except.mapError, ensure, pure,
                Except.pure, bind, Except.bind] at unchanged

end Agreement

section Divergence

variable [Engine] {tokens : List JsString} {document after : JsValue} {tree next : JsonTree}
  {operation : DeltaOperationV1}

def Diverged (document : JsValue) (tree : JsonTree) : Prop :=
  Throughout TidyNode document ∧ ¬ (Valid document ∧ meaning document = tree)

omit [Engine] in
theorem item_cancel {Item : Type} {left right : List Item} {index : Nat} {old : Item}
    (first : left[index]? = some old) (second : right[index]? = some old)
    (same : left.eraseIdx index = right.eraseIdx index) : left = right := by
  obtain ⟨leftBound, here⟩ := List.getElem?_eq_some_iff.mp first
  obtain ⟨rightBound, there⟩ := List.getElem?_eq_some_iff.mp second
  rw [← List.insertIdx_eraseIdx_getElem leftBound, ← List.insertIdx_eraseIdx_getElem rightBound,
    same, here, there]

omit [Engine] in
theorem remove_cancel {key : JsString} {left right old : JsonTree}
    (first : childTree key left = some old) (second : childTree key right = some old)
    (same : removeTree key left = removeTree key right) : left = right := by
  cases left with
  | arr items =>
      obtain ⟨index, spelled, here⟩ := Option.bind_eq_some_iff.mp first
      cases right with
      | arr others =>
          obtain ⟨place, again, there⟩ := Option.bind_eq_some_iff.mp second
          obtain rfl := Option.some.inj (spelled.symm.trans again)
          simp only [removeTree, spelled, JsonTree.arr.injEq] at same
          rw [item_cancel here there same]
      | obj others => simp [removeTree, spelled] at same
      | _ => cases second
  | obj fields =>
      cases right with
      | obj others =>
          simp only [removeTree, JsonTree.obj.injEq] at same
          have agree : fields = others := by
            funext name
            by_cases hit : name = key
            · rw [hit]
              exact first.trans second.symm
            · have there := congrFun same name
              rwa [Function.update_of_ne hit, Function.update_of_ne hit] at there
          rw [agree]
      | arr others =>
          cases spelled : arrayIndex key <;> simp [removeTree, spelled] at same
      | _ => cases second
  | _ => cases first

omit [Engine] in
-- A container whose removed child and whose rest are acceptable is acceptable.
theorem sound_unremove {key : JsString} {container old : JsValue}
    (tidy : TidyNode container) (name : validUnicode key = true)
    (found : childOf key container = some old) (part : Throughout JsonNode old)
    (rest : Throughout JsonNode (removeMember key container)) : Throughout JsonNode container := by
  cases container with
  | arr items =>
      obtain ⟨index, spelled, inside⟩ := Option.bind_eq_some_iff.mp found
      obtain ⟨bound, here⟩ := List.getElem?_eq_some_iff.mp inside
      simp only [removeMember, spelled] at rest
      refine .arr items trivial fun item member => ?_
      rw [← List.insertIdx_eraseIdx_getElem bound] at member
      rcases List.eq_or_mem_of_mem_insertIdx member with rfl | kept
      · exact here ▸ part
      · exact throughout_items rest item kept
  | obj proto fields =>
      have here := throughout_here rest
      -- an entry of this name is the one that was read, since names are not repeated
      have only : ∀ entry ∈ fields, entry.1 = key → entry.2 = old := by
        intro entry member hit
        have read := member_find entry.1 entry.2 fields (tidy proto fields rfl) member
        rw [hit] at read
        exact Option.some.inj (read.symm.trans found)
      have kept : ∀ entry ∈ fields, entry.1 ≠ key →
          entry ∈ fields.filter (fun entry => entry.1 ≠ key) := by
        intro entry member other
        exact List.mem_filter.mpr ⟨member, by simpa using other⟩
      refine .obj proto fields ⟨here.1, fun entry member => ?_⟩ fun entry member => ?_
      · by_cases hit : entry.1 = key
        · rwa [hit]
        · exact here.2 entry (kept entry member hit)
      · by_cases hit : entry.1 = key
        · rwa [only entry member hit]
        · exact throughout_fields rest entry (kept entry member hit)
  | _ => cases found

-- A guard that the code and the reference passed was passed by one tree.
theorem guards_meet (ideal : Function.Injective Engine.sha256Hex) {current : JsValue}
    {found : JsonTree} {expected : JsString} (guarded : jsonValueDigest current = .ok expected)
    (denotes : Denotes expected found) : Throughout JsonNode current ∧ meaning current = found := by
  obtain ⟨other, hashed, rfl⟩ := denotes
  exact ⟨(valid_iff current).mp ((digest_ok_iff _ current expected).mp guarded).1,
    digest_meaning ideal guarded hashed⟩

theorem guard_tree_ok_iff (found : JsonTree) (expected : JsString) (reason : DeltaReasonCode)
    (done : Unit) : guardTree found expected reason = .ok done ↔ Denotes expected found := by
  rw [guardTree, ensure_ok_iff]

-- Where an operation is applied in both, agreement after it is agreement before it.
theorem agreement_back (ideal : Function.Injective Engine.sha256Hex)
    (names : ∀ token ∈ tokens, validUnicode token = true) (tidy : Throughout TidyNode document)
    (applied : applyAt tokens document operation = .ok after)
    (stepped : referenceAt tokens tree operation = .ok next)
    (valid : Valid after) (same : meaning after = next) :
    Valid document ∧ meaning document = tree := by
  rw [valid_iff] at valid ⊢
  cases apply_cases applied with
  | tested path expected current found guarded =>
      simp only [referenceAt, bind_ok_iff, pure_ok_iff] at stepped
      obtain ⟨_, _, _, _, rfl⟩ := stepped
      exact ⟨valid, same⟩
  | replaced path expected value current found guarded =>
      simp only [referenceAt, bind_ok_iff, required_ok_iff, guard_tree_ok_iff, pure_ok_iff] at stepped
      obtain ⟨there, reads, _, denotes, rfl⟩ := stepped
      obtain ⟨part, rfl⟩ := guards_meet ideal guarded denotes
      have here : nodeAt trees tokens (meaning document) = some (meaning current) := by
        rw [node_meaning, found]
        rfl
      refine ⟨hereditary_restore valid_hereditary _ found part valid, ?_⟩
      apply edit_cancel trees (fun _ => meaning (normalize value)) (fun _ => meaning value) here reads
      rw [← same]
      exact (image_edit meaning_morphism tokens document fun _ _ => rfl).symm
  | removed path expected parent key container current place reached found guarded =>
      subst place
      simp only [referenceAt, bind_ok_iff, required_ok_iff, guard_tree_ok_iff, ensure_ok_iff,
        pure_ok_iff, List.dropLast_concat, List.getLastD_concat] at stepped
      obtain ⟨_, _, there, reads, _, denotes, rfl⟩ := stepped
      obtain ⟨part, rfl⟩ := guards_meet ideal guarded denotes
      rw [node_append] at reads
      obtain ⟨other, readsParent, readsChild⟩ := Option.bind_eq_some_iff.mp reads
      rw [node_single] at readsChild
      have moved : meaning (editAt values (removeMember key) parent document) =
          editAt trees (removeTree key) parent (meaning document) :=
        image_edit meaning_morphism parent document (fun inner _ => meaning_remove key inner)
      have here : nodeAt trees parent (meaning document) = some (meaning container) := by
        rw [node_meaning, reached]
        rfl
      -- the two containers have the child and the rest in common
      have rests := congrArg (nodeAt trees parent) (moved.symm.trans same)
      rw [node_edit_here, node_edit_here, here, readsParent] at rests
      have child : childTree key (meaning container) = some (meaning current) := by
        rw [meaning_child, found]
        rfl
      have containers : meaning container = other :=
        remove_cancel child readsChild (Option.some.inj rests)
      have whole : Throughout JsonNode container := by
        have name := names key (List.mem_append_right parent List.mem_cons_self)
        have tidyHere := hereditary_node (throughout_hereditary tidy_kept.put) parent document container
          tidy reached
        apply sound_unremove (throughout_here tidyHere) name found part
        have kept := hereditary_node valid_hereditary parent _ (removeMember key container) valid
        exact kept (by rw [node_edit_here, reached]; rfl)
      refine ⟨hereditary_restore valid_hereditary _ reached whole valid, ?_⟩
      exact edit_cancel trees _ _ (containers ▸ here) readsParent (moved.symm.trans same)
  | inserted path expected value parent key container place reached guarded =>
      subst place
      simp only [referenceAt, bind_ok_iff, required_ok_iff, guard_tree_ok_iff, ensure_ok_iff,
        pure_ok_iff, List.dropLast_concat, List.getLastD_concat] at stepped
      obtain ⟨_, _, there, reads, _, denotes, _, _, rfl⟩ := stepped
      obtain ⟨part, rfl⟩ := guards_meet ideal guarded denotes
      have readsParent := (Option.filter_eq_some_iff.mp reads).1
      have here : nodeAt trees parent (meaning document) = some (meaning container) := by
        rw [node_meaning, reached]
        rfl
      refine ⟨hereditary_restore valid_hereditary _ reached part valid, ?_⟩
      by_cases met : MeetsSetter key container
      · rw [(meaning_inserted reached).1 met, ← edit_id trees parent (meaning document)] at same
        exact edit_cancel trees _ _ here readsParent same
      · rw [(meaning_inserted reached).2 met] at same
        exact edit_cancel trees _ _ here readsParent same

theorem tidy_applied (names : ∀ token ∈ tokens, validUnicode token = true)
    (tidy : Throughout TidyNode document) (applied : applyAt tokens document operation = .ok after) :
    Throughout TidyNode after := by
  apply applied_throughout tidy_kept (fun value _ => tidy_normalize value) names tidy
    (apply_cases applied)
  intros
  trivial

theorem diverged_step (ideal : Function.Injective Engine.sha256Hex)
    (names : ∀ token ∈ tokens, validUnicode token = true) (apart : Diverged document tree)
    (applied : applyAt tokens document operation = .ok after)
    (stepped : referenceAt tokens tree operation = .ok next) : Diverged after next := by
  constructor
  · exact tidy_applied names apart.1 applied
  · intro ⟨valid, same⟩
    exact apart.2 (agreement_back ideal names apart.1 applied stepped valid same)

-- The added member is in the reference tree and not in the document.
theorem proto_diverges (sound : Throughout SoundNode document)
    (met : MeetsProto (meaning document) tokens operation)
    (applied : applyAt tokens document operation = .ok after)
    (stepped : referenceAt tokens (meaning document) operation = .ok next) :
    meaning after ≠ next := by
  obtain ⟨path, expected, value, parent, fields, rfl, rfl, reads, _, absent⟩ := met
  cases apply_cases applied with
  | inserted path expected value above key container place reached guarded placed valid =>
      obtain ⟨rfl, same⟩ := List.append_inj' place rfl
      obtain rfl := (List.cons.inj same).1
      have object : meaning container = .obj fields := by simpa [node_meaning, reached] using reads
      have setter : MeetsSetter (js "__proto__") container := by
        have plain := (throughout_here (sound_node sound reached)).2
        cases container with
        | obj proto inner =>
            have named : meaningFields inner = fields := JsonTree.obj.inj object
            rw [← named, meaning_fields] at absent
            exact ⟨proto, inner, rfl, rfl, by simpa using absent, by simp [plain proto inner rfl]⟩
        | num number => cases number <;> cases object
        | _ => cases object
      rw [(meaning_inserted reached).1 setter]
      simp only [referenceAt, bind_ok_iff, required_ok_iff, guard_tree_ok_iff, ensure_ok_iff,
        pure_ok_iff, List.dropLast_concat, List.getLastD_concat] at stepped
      obtain ⟨_, _, _, _, _, _, _, _, rfl⟩ := stepped
      intro same
      have there := congrArg (nodeAt trees parent) same
      rw [node_edit_here, reads, Option.map_some, Option.some.injEq] at there
      have added := congrFun (JsonTree.obj.inj there) (js "__proto__")
      rw [absent, Function.update_self] at added
      cases added

end Divergence

section Runs

variable [Engine] {document final : JsValue} {tree last : JsonTree} {scope : DeltaAuthorityScopeV1}

theorem both_applied {operation : DeltaOperationV1} {after : JsValue} {next : JsonTree}
    (applied : applyOperation document operation = .ok after)
    (stepped : referenceOperation tree operation = .ok next) :
    ∃ tokens, validatePointer operation.path = .ok tokens ∧
      applyAt tokens document operation = .ok after ∧ referenceAt tokens tree operation = .ok next := by
  simp only [applyOperation, bind_ok_iff, caught_ok_iff] at applied
  obtain ⟨tokens, pointer, applied⟩ := applied
  have both := operation_tokens document tree pointer
  exact ⟨tokens, pointer, applied, both.2.symm.trans stepped⟩

theorem diverged_run (ideal : Function.Injective Engine.sha256Hex)
    (operations : List DeltaOperationV1) (apart : Diverged document tree)
    (folded : operations.foldlM applyOperation document = .ok final)
    (referred : operations.foldlM referenceOperation tree = .ok last) : Diverged final last := by
  induction operations generalizing document tree with
  | nil =>
      have here : document = final := by simpa [pure, Except.pure] using folded
      have there : tree = last := by simpa [pure, Except.pure] using referred
      rwa [← here, ← there]
  | cons operation rest ih =>
      obtain ⟨after, applied, folded⟩ := (foldlM_cons_ok_iff _ _ _ _ _).mp folded
      obtain ⟨next, stepped, referred⟩ := (foldlM_cons_ok_iff _ _ _ _ _).mp referred
      obtain ⟨tokens, pointer, applied, stepped⟩ := both_applied applied stepped
      exact ih (diverged_step ideal (tokens_unicode pointer) apart applied stepped) folded referred

-- From the first addition of a `__proto__` on, document and tree are apart.
theorem proto_run (ideal : Function.Injective Engine.sha256Hex) {operation : DeltaOperationV1}
    {later : List DeltaOperationV1} (before : List DeltaOperationV1)
    (checked : ∀ operation ∈ before, Checked scope operation) (sound : Throughout SoundNode document)
    (tidy : Throughout TidyNode document)
    (led : before.foldlM referenceOperation (meaning document) = .ok tree)
    (adds : AddsProto tree operation)
    (folded : (before ++ operation :: later).foldlM applyOperation document = .ok final)
    (referred : (before ++ operation :: later).foldlM referenceOperation (meaning document) = .ok last) :
    Diverged final last := by
  induction before generalizing document with
  | nil =>
      have same : meaning document = tree := by simpa [pure, Except.pure] using led
      subst same
      obtain ⟨after, applied, folded⟩ := (foldlM_cons_ok_iff _ _ _ _ _).mp folded
      obtain ⟨next, stepped, referred⟩ := (foldlM_cons_ok_iff _ _ _ _ _).mp referred
      obtain ⟨tokens, pointer, applied, stepped⟩ := both_applied applied stepped
      have met : MeetsProto (meaning document) tokens operation := by
        obtain ⟨path, expected, value, parent, fields, rfl, spelled, rest⟩ := adds
        obtain rfl := Except.ok.inj (pointer.symm.trans spelled)
        exact ⟨path, expected, value, parent, fields, rfl, rfl, rest⟩
      have apart : Diverged after next :=
        ⟨tidy_applied (tokens_unicode pointer) tidy applied,
          fun both => proto_diverges sound met applied stepped both.2⟩
      exact diverged_run ideal later apart folded referred
  | cons first rest ih =>
      obtain ⟨after, applied, folded⟩ := (foldlM_cons_ok_iff _ _ _ _ _).mp folded
      obtain ⟨next, stepped, referred⟩ := (foldlM_cons_ok_iff _ _ _ _ _).mp referred
      obtain ⟨same, stepThere, led⟩ := (foldlM_cons_ok_iff _ _ _ _ _).mp led
      obtain rfl := Except.ok.inj (stepped.symm.trans stepThere)
      obtain ⟨tokens, pointer, applied, stepped⟩ := both_applied applied stepped
      have tidyAfter := tidy_applied (tokens_unicode pointer) tidy applied
      by_cases met : MeetsProto (meaning document) tokens first
      · have apart : Diverged after next :=
          ⟨tidyAfter, fun both => proto_diverges sound met applied stepped both.2⟩
        exact diverged_run ideal _ apart folded referred
      · have value := (checked first List.mem_cons_self).value
        have agree := apply_reference sound value met
        rw [applied, stepped] at agree
        obtain rfl : meaning after = next := Except.ok.inj agree
        have soundAfter := sound_applied pointer sound applied met
        exact ih (fun operation member => checked operation (List.mem_cons_of_mem first member))
          soundAfter tidyAfter led folded referred

end Runs

section Reasons

variable [Engine]

def Unchanged : Stop → Prop
  | .failed .finalDocumentUnchanged => True
  | _ => False

theorem guard_settled (value : JsValue) (expected : JsString) {reason : DeltaReasonCode}
    (good : ¬ Unchanged (.failed reason)) : Avoids Unchanged (guardDigest value expected reason) := by
  apply avoids_bind (avoids_escaping _ fun _ => id)
  exact fun _ _ => avoids_ensure _ good

theorem apply_settled (tokens : List JsString) (document : JsValue) (operation : DeltaOperationV1) :
    Avoids Unchanged (applyAt tokens document operation) := by
  cases operation with
  | test path expected =>
      apply avoids_bind (avoids_required _ id)
      exact fun _ _ => avoids_bind (guard_settled _ _ id) (fun _ _ => avoids_ok _)
  | replace path expected value =>
      apply avoids_bind (avoids_required _ id)
      intro current _
      apply avoids_bind (guard_settled _ _ id)
      intro _ _
      apply avoids_bind (avoids_escaping _ fun _ => id)
      intro copy _
      by_cases root : tokens = []
      · rw [if_pos root]
        exact avoids_ok _
      · rw [if_neg root]
        exact avoids_ok _
  | remove path expected =>
      apply avoids_bind (avoids_ensure _ id)
      intro _ _
      apply avoids_bind (avoids_required _ id)
      exact fun _ _ => avoids_bind (guard_settled _ _ id) (fun _ _ => avoids_ok _)
  | add path expected value =>
      apply avoids_bind (avoids_ensure _ id)
      intro _ _
      apply avoids_bind (avoids_required _ id)
      intro location _
      apply avoids_bind (guard_settled _ _ id)
      intro _ _
      apply avoids_bind
      · cases location.1 with
        | arr items => exact avoids_bind (avoids_required _ id) (fun _ _ => avoids_ensure _ id)
        | _ => exact avoids_ensure _ id
      · exact fun _ _ => avoids_bind (avoids_escaping _ fun _ => id) (fun _ _ => avoids_ok _)

theorem apply_operation_settled (document : JsValue) (operation : DeltaOperationV1) :
    Avoids Unchanged (applyOperation document operation) :=
  avoids_bind (avoids_caught _ id) (fun tokens _ => apply_settled tokens document operation)

theorem reference_contained (tree : JsonTree) (operation : DeltaOperationV1) :
    Avoids Thrown (referenceOperation tree operation) := by
  apply avoids_bind (avoids_caught _ id)
  intro tokens _
  have guard : ∀ found expected reason, Avoids Thrown (guardTree found expected reason) := by
    intro found expected reason
    classical
    exact avoids_ensure _ id
  cases operation with
  | test path expected | replace path expected value =>
      apply avoids_bind (avoids_required _ id)
      exact fun _ _ => avoids_bind (guard _ _ _) (fun _ _ => avoids_ok _)
  | remove path expected =>
      apply avoids_bind (avoids_ensure _ id)
      intro _ _
      apply avoids_bind (avoids_required _ id)
      exact fun _ _ => avoids_bind (guard _ _ _) (fun _ _ => avoids_ok _)
  | add path expected value =>
      apply avoids_bind (avoids_ensure _ id)
      intro _ _
      apply avoids_bind (avoids_required _ id)
      intro container _
      apply avoids_bind (guard _ _ _)
      intro _ _
      apply avoids_bind
      · cases container with
        | arr items => exact avoids_bind (avoids_required _ id) (fun _ _ => avoids_ensure _ id)
        | _ => exact avoids_ensure _ id
      · exact fun _ _ => avoids_ok _

omit [Engine] in
theorem failure_injective : Function.Injective Delta.failure := by
  intro left right same
  cases left <;> cases right <;> first | rfl | cases same

end Reasons

section Outcomes

variable [Engine] {base : JsValue} {operations : List JsValue} {scope : DeltaAuthorityScopeV1}
  {checked : List DeltaOperationV1} {document : JsValue} {tree : JsonTree}

theorem checked_run (passed : checkDelta base operations scope = .ok checked) :
    runDelta base operations scope = (checked.foldlM applyOperation (normalize base) >>=
      acceptDocument base operations) := by
  have cloned := (clone_ok_iff base _).mpr ⟨(check_delta_checked passed).1, rfl⟩
  simp only [runDelta, passed, ok_bind, cloned, escaping, Except.mapError]

-- Without a `__proto__` to add, the code gives what the reference gives.
theorem plain_agrees (ideal : Function.Injective Engine.sha256Hex)
    (json : ∀ operation ∈ operations, Valid operation)
    (plain : ¬ ReachesProto base operations scope) : Agrees base operations scope := by
  cases passed : checkDelta base operations scope with
  | error stop =>
      cases stop with
      | thrown error => exact absurd passed (contained_check base operations scope _ trivial)
      | failed reason => simp [Agrees, referenceDelta, applyDelta, runDelta, passed, bind, Except.bind]
  | ok checked =>
      obtain ⟨valid, each⟩ := check_delta_checked passed
      have run := run_reference checked each (sound_normalize base valid)
        (fun before operation after tree split led adds =>
          plain ⟨before, operation, after, tree, split ▸ passed, meaning_normalize base ▸ led, adds⟩)
      rw [meaning_normalize] at run
      obtain ⟨same, sound⟩ := run
      cases folded : checked.foldlM applyOperation (normalize base) with
      | error stop =>
          rw [folded] at same
          cases stop with
          | thrown error =>
              exact absurd same.symm (avoids_fold _ reference_contained checked (meaning base) _ trivial)
          | failed reason =>
              simp [Agrees, referenceDelta, applyDelta, checked_run passed, passed, folded, ← same,
                Except.map, bind, Except.bind]
      | ok document =>
          rw [folded] at same
          have ended := accept_sound ideal json valid (sound_valid (sound document folded))
          by_cases kept : meaning document = meaning base
          · simp [Agrees, referenceDelta, applyDelta, checked_run passed, passed, folded, ← same,
              Except.map, ended.1 kept, kept, ensure, bind, Except.bind]
          · obtain ⟨stateHash, operationResultDigest, accepted⟩ := ended.2 kept
            simp [Agrees, referenceDelta, applyDelta, checked_run passed, passed, folded, ← same,
              Except.map, accepted, kept, ensure, bind, Except.bind, pure, Except.pure]

-- Where the reference fold completes past such an addition, the code gives another result.
theorem proto_disagrees (ideal : Function.Injective Engine.sha256Hex)
    (passed : checkDelta base operations scope = .ok checked)
    (referred : checked.foldlM referenceOperation (meaning base) = .ok tree)
    (reaches : ReachesProto base operations scope) : ¬ Agrees base operations scope := by
  obtain ⟨before, operation, later, middle, split, led, adds⟩ := reaches
  obtain rfl := Except.ok.inj (passed.symm.trans split)
  obtain ⟨valid, each⟩ := check_delta_checked passed
  have apart : ∀ document, (before ++ operation :: later).foldlM applyOperation (normalize base) =
      .ok document → ¬ (Valid document ∧ meaning document = tree) := by
    intro document folded
    rw [← meaning_normalize base] at led referred
    have diverged := proto_run ideal before
      (fun first member => each first (List.mem_append_left _ member)) (sound_normalize base valid)
      (tidy_normalize base) led adds folded referred
    exact diverged.2
  intro agrees
  by_cases kept : tree = meaning base
  · have answer : applyDelta base operations scope = .ok (Delta.failure .finalDocumentUnchanged) := by
      simpa [Agrees, referenceDelta, passed, referred, kept, ensure, bind, Except.bind] using agrees
    have stopped : runDelta base operations scope = .error (.failed .finalDocumentUnchanged) := by
      unfold applyDelta at answer
      split at answer
      · rename_i result ran
        rw [checked_run passed, bind_ok_iff] at ran
        obtain ⟨_, _, ended⟩ := ran
        obtain ⟨_, _, _, rfl⟩ := accept_valid ended
        cases answer
      · rename_i reason ran
        rw [ran, failure_injective (Except.ok.inj answer)]
      · cases answer
    rw [checked_run passed] at stopped
    cases folded : (before ++ operation :: later).foldlM applyOperation (normalize base) with
    | error stop =>
        rw [folded] at stopped
        obtain rfl := Except.error.inj stopped
        exact avoids_fold _ apply_operation_settled _ _ (.failed .finalDocumentUnchanged) trivial folded
    | ok document =>
        rw [folded, ok_bind] at stopped
        obtain ⟨validDocument, same⟩ := accept_unchanged ideal stopped
        exact apart document folded ⟨validDocument, same.trans kept.symm⟩
  · have answer : ∃ document stateHash operationResultDigest,
        applyDelta base operations scope = .ok (.accepted document stateHash operationResultDigest) ∧
          meaning document = tree := by
      simpa [Agrees, referenceDelta, passed, referred, kept, ensure, bind, Except.bind, pure,
        Except.pure] using agrees
    obtain ⟨document, stateHash, operationResultDigest, accepted, same⟩ := answer
    have ran := accepted_run accepted
    rw [checked_run passed, bind_ok_iff] at ran
    obtain ⟨final, folded, ended⟩ := ran
    obtain ⟨validFinal, _, _, shape⟩ := accept_valid ended
    cases shape
    exact apart document folded ⟨validFinal, same⟩

/-- The code agrees with the reference unless the fold comes to add a member `__proto__`
that is new, under a guard that holds; and a reference fold that completes past one
never agrees. -/
theorem agrees_unless_proto (ideal : Function.Injective Engine.sha256Hex) (base : JsValue)
    (operations : List JsValue) (json : ∀ operation ∈ operations, Valid operation)
    (scope : DeltaAuthorityScopeV1) :
    (¬ ReachesProto base operations scope → Agrees base operations scope) ∧
    ∀ checked tree, checkDelta base operations scope = .ok checked →
      checked.foldlM referenceOperation (meaning base) = .ok tree →
      (Agrees base operations scope ↔ ¬ ReachesProto base operations scope) := by
  constructor
  · exact plain_agrees ideal json
  · intro checked tree passed referred
    constructor
    · exact fun agrees reaches => proto_disagrees ideal passed referred reaches agrees
    · exact plain_agrees ideal json

end Outcomes

section Recorded

attribute [local instance] deltaEngine

def addition (path : String) (value : JsValue) : JsValue :=
  object [("op", .str (js "add")), ("path", .str (js path)),
    ("expectedParentDigest", .str (js "aa315f16814e0ac7dc33c861bdcce08524c86afc2301718e52f89be971ed9c46")),
    ("value", value)]

def emptyBase : JsValue := object []

def wholeScope : DeltaAuthorityScopeV1 :=
  { workspaceId := js "w", runId := js "r", taskId := js "t", roots := [[]] }

def passesPlain : Except Stop (List DeltaOperationV1) → Bool
  | .ok checked => checked.all fun operation =>
      match validatePointer operation.path with
      | .ok tokens => tokens.getLast? ≠ some (js "__proto__")
      | .error _ => true
  | .error _ => false

theorem passes_plain {base : JsValue} {operations : List JsValue} {scope : DeltaAuthorityScopeV1}
    (plain : passesPlain (checkDelta base operations scope) = true) :
    ¬ ReachesProto base operations scope := by
  rintro ⟨before, _, later, tree, passed, _, path, expected, value, parent, fields, rfl, pointer, _⟩
  rw [passed] at plain
  have here := List.all_eq_true.mp plain _ (List.mem_append_right before List.mem_cons_self)
  simp [DeltaOperationV1.path, pointer] at here

/-- Adding a member `a` to the empty object agrees. -/
theorem agrees_plain_member : Agrees emptyBase [addition "/a" (.num (.finite 1))] wholeScope := by
  have json : ∀ operation ∈ [addition "/a" (.num (.finite 1))], Valid operation := by
    intro operation member
    obtain rfl := List.mem_singleton.mp member
    exact show assertJson _ = .ok () by decide +kernel
  apply (agrees_unless_proto delta_engine_ideal emptyBase _ json wholeScope).1
  exact passes_plain (by decide +kernel)

def protoAddition : JsValue := addition "/__proto__" (object [("a", .num (.finite 1))])

def throwsInvalid : Except DomainError DeltaResult → Bool
  | .error .invalidJsonValue => true
  | _ => false

/-- Adding a member `__proto__` with an object value throws. -/
theorem proto_member_throws : Valid protoAddition ∧ Valid emptyBase ∧
    applyDelta emptyBase [protoAddition] wholeScope = .error .invalidJsonValue ∧
    ¬ Agrees emptyBase [protoAddition] wholeScope := by
  have thrown : applyDelta emptyBase [protoAddition] wholeScope = .error .invalidJsonValue := by
    have invalid : throwsInvalid (applyDelta emptyBase [protoAddition] wholeScope) = true := by
      decide +kernel
    unfold throwsInvalid at invalid
    split at invalid
    · assumption
    · cases invalid
  have valid : assertJson protoAddition = .ok () ∧ assertJson emptyBase = .ok () := by decide +kernel
  refine ⟨valid.1, valid.2, thrown, ?_⟩
  unfold Agrees
  rw [thrown]
  split <;> simp

end Recorded

end Horseness.DeltaReference
