import Horseness.TreeDeltas
import Horseness.IdealDigests

/-!
What a delta leaves alone. A path outside the granted roots reads as before unless it
runs through an element of an array that an insertion or a removal before it moves.
Along the run the invariant follows the sizes of the arrays outside the roots.
-/

namespace Horseness.DeltaScope

open FallibleRuns ScriptText JsonValues TreePaths JsonPaths Canonical ScriptEngine Delta TreeDeltas

section Paths

variable {Token : Type}

-- Two paths: one extends the other, or they part at a first different token.
theorem paths_compare [DecidableEq Token] (left right : List Token) :
    left <+: right ∨ (∃ token rest, left = right ++ token :: rest) ∨
      ∃ front token other rest later, token ≠ other ∧
        left = front ++ token :: rest ∧ right = front ++ other :: later := by
  induction left generalizing right with
  | nil => exact Or.inl (List.nil_prefix)
  | cons first rest ih =>
      cases right with
      | nil => exact Or.inr (Or.inl ⟨first, rest, rfl⟩)
      | cons second later =>
          by_cases same : first = second
          · subst same
            rcases ih later with shorter | ⟨token, back, rfl⟩ |
              ⟨front, token, other, back, more, apart, rfl, rfl⟩
            · exact Or.inl (List.cons_prefix_cons.mpr ⟨rfl, shorter⟩)
            · exact Or.inr (Or.inl ⟨token, back, rfl⟩)
            · exact Or.inr (Or.inr ⟨first :: front, token, other, back, more, apart, rfl, rfl⟩)
          · exact Or.inr (Or.inr ⟨[], first, second, rest, later, same, rfl, rfl⟩)

end Paths

section Conditions

def readOperations (operations : List JsValue) (scope : DeltaAuthorityScopeV1) :
    List DeltaOperationV1 :=
  operations.filterMap (fun operation => (checkOperation scope operation).toOption)

def pointerTokens (path : JsString) : List JsString :=
  (validatePointer path).toOption.getD []

theorem pointer_tokens {path : JsString} {tokens : List JsString}
    (valid : validatePointer path = .ok tokens) : pointerTokens path = tokens := by
  rw [pointerTokens, valid]
  rfl

def addsTo (container : List JsString) : DeltaOperationV1 → Bool
  | .add path _ _ => pointerTokens path ≠ [] && (pointerTokens path).dropLast = container
  | _ => false

def removesFrom (container : List JsString) : DeltaOperationV1 → Bool
  | .remove path _ => pointerTokens path ≠ [] && (pointerTokens path).dropLast = container
  | _ => false

/-- The path runs through an element that comes after one which the delta inserts into or
removes from an array of the base, and no further than additions can push elements. -/
def Moves (base : JsonTree) (operations : List DeltaOperationV1) (path : List JsString) : Prop :=
  ∃ array key next rest items operation index place,
    path = array ++ next :: rest ∧ nodeAt trees array base = some (.arr items) ∧
    operation ∈ operations ∧ (addsTo array operation || removesFrom array operation) = true ∧
    pointerTokens operation.path = array ++ [key] ∧
    arrayIndex key = some index ∧ arrayIndex next = some place ∧
    index < place ∧ place < items.length + operations.countP (addsTo array)

theorem moves_append {base : JsonTree} {operations : List DeltaOperationV1}
    {path : List JsString} (back : List JsString) (moves : Moves base operations path) :
    Moves base operations (path ++ back) := by
  obtain ⟨array, key, next, rest, items, operation, index, place, rfl, later⟩ := moves
  exact ⟨array, key, next, rest ++ back, items, operation, index, place, by simp, later⟩

end Conditions

section Sizes

def arraySize : JsonTree → Option Nat
  | .arr items => some items.length
  | _ => none

def sizeAt (path : List JsString) (tree : JsonTree) : Option Nat :=
  (nodeAt trees path tree).bind arraySize

/-- Both are no array, or their lengths differ by what was added and removed. -/
def Sized (added removed : Nat) (before after : Option Nat) : Prop :=
  (before = none ∧ after = none) ∨
    ∃ old new, before = some old ∧ after = some new ∧ new + removed = old + added

theorem size_put (token : JsString) (inner tree : JsonTree) :
    arraySize (putTree token inner tree) = arraySize tree := by
  cases tree with
  | arr items => cases spelled : arrayIndex token <;> simp [putTree, arraySize, spelled]
  | _ => rfl

theorem size_edit (edit : JsonTree → JsonTree) (token : JsString) (rest : List JsString)
    (tree : JsonTree) : arraySize (editAt trees edit (token :: rest) tree) = arraySize tree := by
  simp only [editAt]
  cases trees.child token tree with
  | none => rfl
  | some inner => exact size_put token _ tree

theorem size_above (edit : JsonTree → JsonTree) (path : List JsString) (token : JsString)
    (rest : List JsString) (tree : JsonTree) :
    sizeAt path (editAt trees edit (path ++ token :: rest) tree) = sizeAt path tree := by
  rw [sizeAt, node_edit_above, sizeAt]
  cases nodeAt trees path tree with
  | none => rfl
  | some inner => exact size_edit edit token rest inner

theorem present_iff {array : List JsString} {next : JsString} {place size : Nat} {tree : JsonTree}
    (named : arrayIndex next = some place) (counted : sizeAt array tree = some size) :
    (nodeAt trees (array ++ [next]) tree).isSome ↔ place < size := by
  obtain ⟨node, reached, array_size⟩ := Option.bind_eq_some_iff.mp counted
  cases node with
  | arr items =>
      obtain rfl := Option.some.inj array_size
      simp [node_append, reached, childTree, named]
  | _ => cases array_size

theorem size_here (edit : JsonTree → JsonTree) (path : List JsString) (tree : JsonTree) :
    sizeAt path (editAt trees edit path tree) =
      (nodeAt trees path tree).bind (fun inner => arraySize (edit inner)) := by
  rw [sizeAt, node_edit_here, Option.bind_map]
  rfl

end Sizes

section Containers

/-- No element after the place that `key` names is there before or after. -/
def Still (key other : JsString) (bound : Nat) : Prop :=
  ∀ index place, arrayIndex key = some index → arrayIndex other = some place →
    index < place → bound ≤ place

theorem child_insert {inner tree : JsonTree} {key other : JsString} (different : key ≠ other)
    (still : ∀ size, arraySize tree = some size → Still key other (size + 1)) :
    childTree other (insertTree inner key tree) = childTree other tree := by
  cases tree with
  | arr items =>
      cases spelled : arrayIndex key with
      | none => simp [insertTree, spelled]
      | some index =>
          simp only [insertTree, childTree, spelled]
          refine Option.bind_congr fun place same => ?_
          have apart : index ≠ place := fun equal => index_apart different spelled (equal ▸ same)
          rcases Nat.lt_or_gt_of_ne apart with after | before
          · have beyond := still items.length rfl index place spelled same after
            have longer : (items.insertIdx index inner).length ≤ items.length + 1 :=
              List.length_insertIdx_le_succ
            rw [List.getElem?_eq_none (by omega), List.getElem?_eq_none (by omega)]
          · exact List.getElem?_insertIdx_of_lt before
  | obj fields => simp [insertTree, childTree, Function.update_of_ne (Ne.symm different)]
  | _ => rfl

theorem child_remove {tree : JsonTree} {key other : JsString} (different : key ≠ other)
    (still : ∀ size, arraySize tree = some size → Still key other size) :
    childTree other (removeTree key tree) = childTree other tree := by
  cases tree with
  | arr items =>
      cases spelled : arrayIndex key with
      | none => simp [removeTree, spelled]
      | some index =>
          simp only [removeTree, childTree, spelled]
          refine Option.bind_congr fun place same => ?_
          have apart : index ≠ place := fun equal => index_apart different spelled (equal ▸ same)
          rcases Nat.lt_or_gt_of_ne apart with after | before
          · have beyond := still items.length rfl index place spelled same after
            have shorter := List.length_eraseIdx_le items index
            rw [List.getElem?_eq_none (by omega), List.getElem?_eq_none (by omega)]
          · exact List.getElem?_eraseIdx_of_lt before
  | obj fields => simp [removeTree, childTree, Function.update_of_ne (Ne.symm different)]
  | _ => rfl

theorem node_beside {edit : JsonTree → JsonTree} {parent back : List JsString} {other : JsString}
    {tree : JsonTree} (kept : ∀ container, nodeAt trees parent tree = some container →
      childTree other (edit container) = childTree other container) :
    nodeAt trees (parent ++ other :: back) (editAt trees edit parent tree) =
      nodeAt trees (parent ++ other :: back) tree := by
  rw [node_edit, node_append]
  apply Option.bind_congr
  intro container reached
  simp only [nodeAt, trees_child, kept container reached]

end Containers

section Steps

theorem split_last {parent front rest : List JsString} {key token : JsString}
    (same : parent ++ [key] = front ++ token :: rest) :
    (parent = front ∧ key = token) ∨ ∃ middle, parent = front ++ token :: middle := by
  rcases List.eq_nil_or_concat' rest with rfl | ⟨middle, last, rfl⟩
  · obtain ⟨fronts, ends⟩ := List.append_inj' same rfl
    exact Or.inl ⟨fronts, List.singleton_inj.mp ends⟩
  · have shifted : parent ++ [key] = (front ++ token :: middle) ++ [last] := by simpa using same
    exact Or.inr ⟨middle, (List.append_inj' shifted rfl).1⟩

theorem adds_to_append {path expected : JsString} {value : JsValue} {parent : List JsString}
    {key : JsString} (spelled : pointerTokens path = parent ++ [key]) (container : List JsString) :
    addsTo container (.add path expected value) = decide (parent = container) := by
  simp [addsTo, spelled]

theorem removes_from_append {path expected : JsString} {parent : List JsString}
    {key : JsString} (spelled : pointerTokens path = parent ++ [key]) (container : List JsString) :
    removesFrom container (.remove path expected) = decide (parent = container) := by
  simp [removesFrom, spelled]

theorem sized_same (size : Option Nat) : Sized 0 0 size size := by
  cases size with
  | none => exact Or.inl ⟨rfl, rfl⟩
  | some length => exact Or.inr ⟨length, length, rfl, rfl, rfl⟩

theorem sized_trans {added removed more fewer : Nat} {before middle after : Option Nat}
    (first : Sized added removed before middle) (second : Sized more fewer middle after) :
    Sized (added + more) (removed + fewer) before after := by
  rcases first with ⟨rfl, rfl⟩ | ⟨old, length, rfl, rfl, early⟩
  · rcases second with ⟨_, rfl⟩ | ⟨_, _, absurdity, _⟩
    · exact Or.inl ⟨rfl, rfl⟩
    · cases absurdity
  · rcases second with ⟨absurdity, _⟩ | ⟨length', new, same, rfl, late⟩
    · cases absurdity
    · cases same
      exact Or.inr ⟨old, new, rfl, rfl, by omega⟩

variable {tokens path : List JsString} {operation : DeltaOperationV1} {tree after : JsonTree}

/-- What an operation may move on a path through a sibling of its target. -/
def Undisturbed (tokens path : List JsString) (operation : DeltaOperationV1) (tree : JsonTree) :
    Prop :=
  ∀ container key other back size, path = container ++ other :: back → tokens = container ++ [key] →
    (addsTo container operation || removesFrom container operation) = true →
    sizeAt container tree = some size →
    Still key other (size + (addsTo container operation).toNat)

-- An operation is not seen on a path that leaves its own and that it does not move.
theorem effect_beside (effect : TreeEffect tokens operation tree after)
    (spelled : pointerTokens operation.path = tokens) (still : Undisturbed tokens path operation tree)
    {front rest later : List JsString} {token other : JsString} (different : token ≠ other)
    (here : tokens = front ++ token :: rest) (there : path = front ++ other :: later) :
    nodeAt trees path after = nodeAt trees path tree := by
  cases effect with
  | tested => rfl
  | ignored => rfl
  | replaced name expected value =>
      rw [here, there]
      exact node_edit_apart trees _ front rest later different tree
  | removed name expected parent key _ old place found =>
      subst there
      rcases split_last (place.symm.trans here) with ⟨rfl, rfl⟩ | ⟨middle, rfl⟩
      · apply node_beside
        intro container reached
        apply child_remove different
        intro size counted
        have named : pointerTokens name = parent ++ [key] := spelled.trans place
        have quiet := still parent key other later size rfl place
          (by simp [removes_from_append named])
          (by simp [sizeAt, reached, counted])
        simpa [addsTo] using quiet
      · exact node_edit_apart trees _ front middle later different tree
  | inserted name expected value parent key _ container place found room =>
      subst there
      rcases split_last (place.symm.trans here) with ⟨rfl, rfl⟩ | ⟨middle, rfl⟩
      · apply node_beside
        intro inner reached
        apply child_insert different
        intro size counted
        have named : pointerTokens name = parent ++ [key] := spelled.trans place
        have quiet := still parent key other later size rfl place (by simp [adds_to_append named])
          (by simp [sizeAt, reached, counted])
        simpa [adds_to_append named] using quiet
      · exact node_edit_apart trees _ front middle later different tree

-- An operation on another path than through this one's children does not add to it.
theorem adds_elsewhere (container : List JsString) (operation : DeltaOperationV1)
    (elsewhere : ∀ key, pointerTokens operation.path ≠ container ++ [key]) :
    addsTo container operation = false ∧ removesFrom container operation = false := by
  have apart : pointerTokens operation.path ≠ [] →
      (pointerTokens operation.path).dropLast ≠ container := by
    intro filled same
    obtain ⟨parent, key, split⟩ := tokens_split filled
    rw [split, List.dropLast_concat] at same
    exact elsewhere key (same ▸ split)
  constructor
  · cases operation <;> simp_all [addsTo, DeltaOperationV1.path]
  · cases operation <;> simp_all [removesFrom, DeltaOperationV1.path]

theorem arr_size {tree : JsonTree} {size : Nat} (counted : arraySize tree = some size) :
    ∃ items, tree = .arr items ∧ items.length = size := by
  cases tree with
  | arr items => exact ⟨items, rfl, Option.some.inj counted⟩
  | _ => cases counted

theorem size_insert {inner tree : JsonTree} {key : JsString}
    (room : ∀ items, tree = .arr items → ∃ index, arrayIndex key = some index ∧ index ≤ items.length) :
    Sized 1 0 (arraySize tree) (arraySize (insertTree inner key tree)) := by
  cases tree with
  | arr items =>
      obtain ⟨index, spelled, inside⟩ := room items rfl
      refine Or.inr ⟨items.length, items.length + 1, rfl, ?_, by omega⟩
      simp [insertTree, spelled, arraySize, List.length_insertIdx_of_le_length inside]
  | _ => exact Or.inl ⟨rfl, rfl⟩

theorem size_remove {old tree : JsonTree} {key : JsString} (found : childTree key tree = some old) :
    Sized 0 1 (arraySize tree) (arraySize (removeTree key tree)) := by
  cases tree with
  | arr items =>
      obtain ⟨index, spelled, inside⟩ := Option.bind_eq_some_iff.mp found
      have bound := (List.getElem?_eq_some_iff.mp inside).1
      refine Or.inr ⟨items.length, items.length - 1, rfl, ?_, by omega⟩
      simp [removeTree, spelled, arraySize, List.length_eraseIdx_of_lt bound]
  | _ => exact Or.inl ⟨rfl, rfl⟩

theorem size_direct {token : JsString}
    (effect : TreeEffect (path ++ [token]) operation tree after)
    (spelled : pointerTokens operation.path = path ++ [token]) :
    Sized (addsTo path operation).toNat (removesFrom path operation).toNat
      (sizeAt path tree) (sizeAt path after) := by
  cases effect with
  | tested => exact sized_same _
  | ignored name expected value parent _ fields place found absent =>
      obtain ⟨rfl, -⟩ := List.append_inj' place rfl
      have none : sizeAt path tree = none := by simp [sizeAt, found, arraySize]
      exact Or.inl ⟨none, none⟩
  | replaced name expected value =>
      rw [size_above]
      exact sized_same _
  | removed name expected parent key _ old place found =>
      obtain ⟨rfl, single⟩ := List.append_inj' place rfl
      obtain rfl := List.singleton_inj.mp single
      have named : pointerTokens name = path ++ [token] := spelled
      rw [node_append] at found
      obtain ⟨container, reached, inside⟩ := Option.bind_eq_some_iff.mp found
      rw [node_single] at inside
      rw [removes_from_append named, size_here, sizeAt, reached]
      simpa [addsTo] using size_remove inside
  | inserted name expected value parent key _ container place found room =>
      obtain ⟨rfl, single⟩ := List.append_inj' place rfl
      obtain rfl := List.singleton_inj.mp single
      have named : pointerTokens name = path ++ [token] := spelled
      rw [adds_to_append named, size_here, sizeAt, found]
      simpa [removesFrom] using size_insert room

theorem size_deeper {token : JsString} {rest : List JsString} (deeper : rest ≠ [])
    (effect : TreeEffect (path ++ token :: rest) operation tree after) :
    sizeAt path after = sizeAt path tree := by
  cases effect with
  | tested => rfl
  | ignored => rfl
  | replaced => exact size_above _ path token rest tree
  | removed name expected parent key _ old place found =>
      rcases split_last place.symm with ⟨rfl, rfl⟩ | ⟨middle, rfl⟩
      · simp [deeper] at place
      · exact size_above _ path token middle tree
  | inserted name expected value parent key _ container place found room =>
      rcases split_last place.symm with ⟨rfl, rfl⟩ | ⟨middle, rfl⟩
      · simp [deeper] at place
      · exact size_above _ path token middle tree

-- The size of an array changes by what the operation adds to it or removes from it.
theorem effect_size (effect : TreeEffect tokens operation tree after)
    (spelled : pointerTokens operation.path = tokens) (still : Undisturbed tokens path operation tree)
    (outside : ¬ tokens <+: path) :
    Sized (addsTo path operation).toNat (removesFrom path operation).toNat
      (sizeAt path tree) (sizeAt path after) := by
  rcases paths_compare tokens path with covered | ⟨token, rest, here⟩ |
    ⟨front, token, other, rest, later, different, here, there⟩
  · exact absurd covered outside
  · subst here
    by_cases direct : rest = []
    · subst direct
      exact size_direct effect spelled
    · have elsewhere := adds_elsewhere path operation (fun key same => by
        have place := same.symm.trans spelled
        simp [Ne.symm direct] at place)
      rw [elsewhere.1, elsewhere.2, size_deeper direct effect]
      exact sized_same _
  · have elsewhere := adds_elsewhere path operation (fun key same => by
      have place : path ++ [key] = front ++ token :: rest := same.symm.trans (spelled.trans here)
      rw [there, List.append_assoc, List.append_cancel_left_eq, List.cons_append] at place
      exact different (List.cons.inj place).1.symm)
    rw [elsewhere.1, elsewhere.2, sizeAt, sizeAt,
      effect_beside effect spelled still different here there]
    exact sized_same _

end Steps

section Runs

variable {base tree after : JsonTree} {all done later : List DeltaOperationV1}
  {operation : DeltaOperationV1} {roots : List (List JsString)} {tokens : List JsString}

def Outside (roots : List (List JsString)) (path : List JsString) : Prop :=
  ∀ root ∈ roots, ¬ root <+: path

theorem outside_front {front back : List JsString} (outside : Outside roots (front ++ back)) :
    Outside roots front :=
  fun root member covers => outside root member (covers.trans (List.prefix_append front back))

/-- After part of the operations: the arrays outside the roots have the sizes that the
counts give, and what no root contains or lies below reads as in the base. -/
structure Confined (base : JsonTree) (all done : List DeltaOperationV1)
    (roots : List (List JsString)) (tree : JsonTree) : Prop where
  sizes : ∀ path, Outside roots path → ¬ Moves base all path →
    Sized (done.countP (addsTo path)) (done.countP (removesFrom path))
      (sizeAt path base) (sizeAt path tree)
  reads : ∀ path, Outside roots path → (∀ root ∈ roots, ¬ path <+: root) → ¬ Moves base all path →
    nodeAt trees path tree = nodeAt trees path base

theorem confined_start (base : JsonTree) (all : List DeltaOperationV1)
    (roots : List (List JsString)) : Confined base all [] roots base where
  sizes := fun _ _ _ => sized_same _
  reads := fun _ _ _ _ => rfl

-- The operations so far cannot have pushed an element past the bound of `Moves`.
theorem undisturbed (kept : Confined base all done roots tree)
    (split : all = done ++ operation :: later) (spelled : pointerTokens operation.path = tokens)
    {path : List JsString} (outside : Outside roots path) (fixed : ¬ Moves base all path) :
    Undisturbed tokens path operation tree := by
  intro container key other back size here target touches counted index place first second below
  subst here
  have inner : ¬ Moves base all container := fun moves => fixed (moves_append _ moves)
  rcases kept.sizes container (outside_front outside) inner with ⟨_, missing⟩ |
    ⟨old, new, before, now, balance⟩
  · rw [counted] at missing
    cases missing
  · obtain rfl := Option.some.inj (counted.symm.trans now)
    obtain ⟨node, reached, array⟩ := Option.bind_eq_some_iff.mp before
    obtain ⟨items, rfl, rfl⟩ := arr_size array
    by_contra short
    have member : operation ∈ all := by simp [split]
    refine fixed ⟨container, key, other, back, items, operation, index, place, rfl, reached, member,
      touches, spelled.trans target, first, second, below, ?_⟩
    have count : all.countP (addsTo container) = done.countP (addsTo container) +
        (later.countP (addsTo container) + (addsTo container operation).toNat) := by
      rw [split, List.countP_append, List.countP_cons]
      cases addsTo container operation <;> rfl
    omega

theorem confined_step (kept : Confined base all done roots tree)
    (split : all = done ++ operation :: later) (effect : TreeEffect tokens operation tree after)
    (spelled : pointerTokens operation.path = tokens) (granted : ∃ root ∈ roots, root <+: tokens) :
    Confined base all (done ++ [operation]) roots after := by
  obtain ⟨root, listed, inside⟩ := granted
  have beyond : ∀ path, Outside roots path → ¬ tokens <+: path :=
    fun path outside covered => outside root listed (inside.trans covered)
  constructor
  · intro path outside fixed
    have still := undisturbed kept split spelled outside fixed
    have changed := effect_size effect spelled still (beyond path outside)
    have counts : ∀ test : DeltaOperationV1 → Bool,
        (done ++ [operation]).countP test = done.countP test + (test operation).toNat := by
      intro test
      rw [List.countP_append]
      cases hit : test operation <;> simp [hit]
    rw [counts, counts]
    exact sized_trans (kept.sizes path outside fixed) changed
  · intro path outside apart fixed
    have still := undisturbed kept split spelled outside fixed
    rw [← kept.reads path outside apart fixed]
    rcases paths_compare tokens path with covered | ⟨token, rest, rfl⟩ |
      ⟨front, token, other, rest, more, different, here, there⟩
    · exact absurd covered (beyond path outside)
    · -- the root and the path are both prefixes of the target, so one contains the other
      rcases List.prefix_or_prefix_of_prefix inside (List.prefix_append path (token :: rest)) with
        contained | above
      · exact absurd contained (outside root listed)
      · exact absurd above (apart root listed)
    · exact effect_beside effect spelled still different here there

variable [Engine]

theorem confined_run {document result : JsValue} (kept : Confined base all done roots (meaning document))
    (split : all = done ++ later)
    (granted : ∀ operation ∈ later, ∃ root ∈ roots, root <+: pointerTokens operation.path)
    (folded : later.foldlM applyOperation document = .ok result) :
    Confined base all all roots (meaning result) := by
  induction later generalizing done document with
  | nil =>
      have same : document = result := by simpa [pure, Except.pure] using folded
      subst same
      simpa [split] using kept
  | cons operation rest ih =>
      obtain ⟨middle, stepped, folded⟩ := (foldlM_cons_ok_iff _ operation rest document result).mp folded
      simp only [applyOperation, bind_ok_iff, caught_ok_iff] at stepped
      obtain ⟨tokens, valid, applied⟩ := stepped
      have spelled := pointer_tokens valid
      have inside := granted operation List.mem_cons_self
      apply ih (confined_step kept split (apply_effect applied) spelled (spelled ▸ inside))
      · simp [split]
      · exact fun later member => granted later (List.mem_cons_of_mem operation member)
      · exact folded

end Runs

section Acceptance

variable [Engine] {base document : JsValue} {operations : List JsValue}
  {scope : DeltaAuthorityScopeV1} {stateHash operationResultDigest : JsString}

omit [Engine] in
theorem check_delta_ok {checked : List DeltaOperationV1}
    (passed : checkDelta base operations scope = .ok checked) :
    checked = readOperations operations scope ∧ ∀ operation ∈ checked, Checked scope operation := by
  refine ⟨?_, (check_delta_checked passed).2⟩
  simp only [checkDelta, bind_ok_iff, map_error_ok_iff, mapM_ok_iff, ensure_ok_iff,
    pure_ok_iff] at passed
  obtain ⟨_, _, listed, each, _, _, _, _, rfl⟩ := passed
  clear * - each
  induction each with
  | nil => rfl
  | cons first _ ih =>
      rw [readOperations, List.filterMap_cons, first, Except.toOption, ih]
      rfl

theorem accepted_folds
    (accepted : applyDelta base operations scope =
      .ok (.accepted document stateHash operationResultDigest)) :
    ∃ copy, deepClone base = .ok copy ∧
      (readOperations operations scope).foldlM applyOperation copy = .ok document ∧
      ∀ operation ∈ readOperations operations scope, Checked scope operation := by
  have ran := accepted_run accepted
  simp only [runDelta, bind_ok_iff, escaping_ok_iff] at ran
  obtain ⟨checked, passed, copy, cloned, final, folded, ended⟩ := ran
  obtain ⟨rfl, each⟩ := check_delta_ok passed
  obtain ⟨_, _, _, same⟩ := accept_valid ended
  cases same
  exact ⟨copy, cloned, folded, each⟩

def rootTokens (scope : DeltaAuthorityScopeV1) : List (List JsString) :=
  scope.roots.map pointerTokens

omit [Engine] in
theorem granted_root {path : JsString} (granted : scopeContains scope path = .ok true) :
    ∃ root ∈ rootTokens scope, root <+: pointerTokens path := by
  simp only [scopeContains, bind_ok_iff] at granted
  obtain ⟨tokens, valid, found⟩ := granted
  obtain ⟨root, member, hit⟩ := anyM_true _ _ found
  simp only [bind_ok_iff, pure_ok_iff] at hit
  obtain ⟨inner, spelled, covers⟩ := hit
  refine ⟨pointerTokens root, List.mem_map_of_mem member, ?_⟩
  rw [pointer_tokens valid, pointer_tokens spelled]
  exact List.isPrefixOf_iff_prefix.mp covers

omit [Engine] in
-- A path outside the scope lies in no root, and every root is a pointer.
theorem outside_each {path : JsString} {tokens : List JsString}
    (pointer : validatePointer path = .ok tokens) (outside : scopeContains scope path = .ok false) :
    ∀ root ∈ scope.roots, ∃ above, validatePointer root = .ok above ∧ ¬ above <+: tokens := by
  simp only [scopeContains, bind_ok_iff] at outside
  obtain ⟨found, valid, missed⟩ := outside
  obtain rfl := Except.ok.inj (valid.symm.trans pointer)
  intro root listed
  have miss := (anyM_false_iff _ _).mp missed root listed
  simp only [bind_ok_iff, pure_ok_iff] at miss
  obtain ⟨above, spelled, apart⟩ := miss
  refine ⟨above, spelled, fun covers => ?_⟩
  rw [List.isPrefixOf_iff_prefix.mpr covers] at apart
  cases apart

theorem accepted_confined
    (accepted : applyDelta base operations scope =
      .ok (.accepted document stateHash operationResultDigest)) :
    Confined (meaning base) (readOperations operations scope) (readOperations operations scope)
      (rootTokens scope) (meaning document) := by
  obtain ⟨copy, cloned, folded, each⟩ := accepted_folds accepted
  obtain ⟨_, rfl⟩ := (clone_ok_iff base copy).mp cloned
  have start := confined_start (meaning base) (readOperations operations scope) (rootTokens scope)
  rw [← meaning_normalize] at start
  have final := confined_run start rfl (fun operation member => granted_root (each operation member).granted) folded
  rwa [meaning_normalize] at final

/-- Outside the granted roots an accepted delta changes what is read at a path only where
the path runs through a moved element; and where the insertions into an array outside the
roots do not balance the removals from it, the positions between its two lengths do change. -/
theorem unmoved_confined (base document : JsValue) (operations : List JsValue)
    (scope : DeltaAuthorityScopeV1) (stateHash operationResultDigest : JsString)
    (accepted : applyDelta base operations scope =
      .ok (.accepted document stateHash operationResultDigest))
    (path : JsString) (tokens : List JsString) (pointer : validatePointer path = .ok tokens)
    (outside : scopeContains scope path = .ok false) :
    ((∀ root ∈ scope.roots, ∀ above, validatePointer root = .ok above →
        ¬ (tokens <+: above ∧ tokens ≠ above)) →
      ¬ Moves (meaning base) (readOperations operations scope) tokens →
      (readAt document tokens).map meaning = (readAt base tokens).map meaning) ∧
    (∀ array next place items, tokens = array ++ [next] → arrayIndex next = some place →
      readAt base array = some (.arr items) →
      ¬ Moves (meaning base) (readOperations operations scope) array →
      ¬ (place < items.length ↔
        place + (readOperations operations scope).countP (removesFrom array) <
          items.length + (readOperations operations scope).countP (addsTo array)) →
      (readAt document tokens).map meaning ≠ (readAt base tokens).map meaning) := by
  have confined := accepted_confined accepted
  have each := outside_each pointer outside
  have apart : Outside (rootTokens scope) tokens := by
    intro root member
    obtain ⟨text, listed, rfl⟩ := List.mem_map.mp member
    obtain ⟨above, spelled, missed⟩ := each text listed
    rwa [pointer_tokens spelled]
  constructor
  · intro notAbove still
    rw [← read_meaning, ← read_meaning]
    apply confined.reads tokens apart _ still
    intro root member covers
    obtain ⟨text, listed, rfl⟩ := List.mem_map.mp member
    obtain ⟨above, spelled, missed⟩ := each text listed
    rw [pointer_tokens spelled] at covers
    refine notAbove text listed above spelled ⟨covers, ?_⟩
    rintro rfl
    exact missed List.prefix_rfl
  · rintro array next place items rfl named before still unbalanced
    rw [← read_meaning, ← read_meaning]
    have base_size : sizeAt array (meaning base) = some items.length := by
      rw [sizeAt, read_meaning, before]
      simp [meaning, meaning_items, arraySize]
    rcases confined.sizes array (outside_front apart) still with ⟨missing, _⟩ |
      ⟨old, new, first, last, balance⟩
    · rw [base_size] at missing
      cases missing
    · obtain rfl := Option.some.inj (base_size.symm.trans first)
      intro same
      have here := present_iff named first
      have there := present_iff named last
      rw [same] at there
      have both := here.symm.trans there
      apply unbalanced
      rw [both]
      omega

end Acceptance

section Recorded

open IdealDigests

attribute [local instance] deltaEngine

def pairBase : JsValue := texts [js "a", js "b"]

def grantTo (root : JsString) : DeltaAuthorityScopeV1 :=
  { workspaceId := js "w", runId := js "r", taskId := js "t", roots := [root] }

def removal (path digest : String) : JsValue :=
  object [("op", .str (js "remove")), ("path", .str (js path)),
    ("expectedValueDigest", .str (js digest))]

def removeFirst : JsValue :=
  removal "/0" "cabb297dc7061d82107fb7099e9d0a951178e274a4b6558e176a557093477e9e"

def removeLast : JsValue :=
  removal "/1" "80545bd1a0cdda3180ff0a109060bbd15b8ea627d9017f577a8f4ba38ce212d6"

def acceptedWith (check : JsValue → Bool) : Except DomainError DeltaResult → Bool
  | .ok (.accepted document _ _) => check document
  | _ => false

theorem accepted_with {check : JsValue → Bool} {run : Except DomainError DeltaResult}
    (passed : acceptedWith check run = true) :
    ∃ document state digest, run = .ok (.accepted document state digest) ∧ check document = true := by
  unfold acceptedWith at passed
  split at passed
  · exact ⟨_, _, _, rfl, passed⟩
  · cases passed

theorem grant_above {root : JsString} {tokens path : List JsString}
    (pointer : validatePointer root = .ok tokens) (apart : ¬ path <+: tokens) :
    ∀ granted ∈ (grantTo root).roots, ∀ above, validatePointer granted = .ok above →
      ¬ (path <+: above ∧ path ≠ above) := by
  intro granted member above spelled
  obtain rfl := List.mem_singleton.mp member
  obtain rfl := Except.ok.inj (pointer.symm.trans spelled)
  exact fun covers => apart covers.1

theorem unmoved_confined_last : ∃ document state digest,
    applyDelta pairBase [removeLast] (grantTo (js "/1")) = .ok (.accepted document state digest) ∧
      (readAt document [js "0"]).map meaning = (readAt pairBase [js "0"]).map meaning := by
  obtain ⟨document, state, digest, accepted, -⟩ :=
    accepted_with (show acceptedWith (fun _ => true)
      (applyDelta pairBase [removeLast] (grantTo (js "/1"))) = true by decide +kernel)
  refine ⟨document, state, digest, accepted, ?_⟩
  have confined := unmoved_confined pairBase document [removeLast] (grantTo (js "/1")) state digest
    accepted (js "/0") [js "0"] (by decide +kernel) (by decide +kernel)
  apply confined.1
  · exact grant_above (show validatePointer (js "/1") = .ok [js "1"] by decide +kernel) (by decide +kernel)
  · -- the path names the first element, which nothing comes before
    rintro ⟨array, key, next, rest, items, operation, index, place, split, -, -, -, -, -, named, below, -⟩
    obtain ⟨rfl, rfl, rfl⟩ : array = [] ∧ next = js "0" ∧ rest = [] := by
      cases array <;> simp_all
    obtain rfl := Option.some.inj ((show arrayIndex (js "0") = some 0 by decide +kernel).symm.trans named)
    omega

/-- Removing the granted element `/0` changes what is read at `/1`. -/
theorem unmoved_confined_first : ∃ document state digest,
    applyDelta pairBase [removeFirst] (grantTo (js "/0")) = .ok (.accepted document state digest) ∧
      validatePointer (js "/1") = .ok [js "1"] ∧
      scopeContains (grantTo (js "/0")) (js "/1") = .ok false ∧
      (∀ root ∈ (grantTo (js "/0")).roots, ∀ above, validatePointer root = .ok above →
        ¬ ([js "1"] <+: above ∧ [js "1"] ≠ above)) ∧
      (readAt document [js "1"]).map meaning ≠ (readAt pairBase [js "1"]).map meaning := by
  obtain ⟨document, state, digest, accepted, gone⟩ :=
    accepted_with (show acceptedWith (fun document => (readAt document [js "1"]).isNone)
      (applyDelta pairBase [removeFirst] (grantTo (js "/0"))) = true by decide +kernel)
  have kept : readAt pairBase [js "1"] = some (.str (js "b")) := rfl
  refine ⟨document, state, digest, accepted, by decide +kernel, by decide +kernel, ?_, ?_⟩
  · exact grant_above (show validatePointer (js "/0") = .ok [js "0"] by decide +kernel) (by decide +kernel)
  · rw [Option.isNone_iff_eq_none.mp gone, kept]
    simp

end Recorded

end Horseness.DeltaScope
