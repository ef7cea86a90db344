import Mathlib.Logic.Relation
import Mathlib.Data.List.Nodup
import Mathlib.Data.List.Perm.Subperm
import Mathlib.Tactic.Common
import Horseness.DepthFirst

/-!
The orders in which depth-first searches finish their nodes, and the depth that a search needs.
A finished node stands behind all its successors, so what holds of a node when it holds of its
successors holds of every finished node, and no finished node lies on a cycle.
-/

namespace Horseness.SearchOrders

open FallibleRuns DepthFirst

section Folds

variable {Failure Item State : Type} {step : State → Item → Except Failure State}

theorem fold_completes (holds : State → Prop) (items : List Item) {start : State}
    (base : holds start)
    (steps : ∀ state, holds state → ∀ item ∈ items, ∃ after, step state item = .ok after ∧
      holds after) : ∃ final, items.foldlM step start = .ok final ∧ holds final := by
  induction items generalizing start with
  | nil => exact ⟨start, rfl, base⟩
  | cons item rest ih =>
      obtain ⟨middle, stepped, kept⟩ := steps start base item List.mem_cons_self
      obtain ⟨final, folded, ended⟩ :=
        ih kept fun state given other member => steps state given other (List.mem_cons_of_mem item member)
      exact ⟨final, (foldlM_cons_ok_iff _ _ _ _ _).mpr ⟨middle, stepped, folded⟩, ended⟩

-- A fold whose steps only add, each of them its item, ends with all of them.
theorem fold_collects {step : List Item → Item → Except Failure (List Item)} {items start final : List Item}
    (adds : ∀ state item after, item ∈ items → step state item = .ok after →
      state ⊆ after ∧ item ∈ after)
    (folded : items.foldlM step start = .ok final) : start ⊆ final ∧ items ⊆ final := by
  induction items generalizing start with
  | nil =>
      obtain rfl := (pure_ok_iff _ _).mp folded
      exact ⟨List.Subset.refl _, List.nil_subset _⟩
  | cons item rest ih =>
      obtain ⟨middle, stepped, folded⟩ := (foldlM_cons_ok_iff _ _ _ _ _).mp folded
      obtain ⟨grown, here⟩ := adds start item middle List.mem_cons_self stepped
      obtain ⟨kept, later⟩ :=
        ih (fun state other after member => adds state other after (List.mem_cons_of_mem item member)) folded
      exact ⟨fun other member => kept (grown member), List.cons_subset.mpr ⟨kept here, later⟩⟩

theorem map_completes {Other : Type} {step : Item → Except Failure Other} {items : List Item}
    (each : ∀ item ∈ items, ∃ result, step item = .ok result) :
    ∃ results, items.mapM step = .ok results := by
  induction items with
  | nil => exact ⟨[], rfl⟩
  | cons item rest ih =>
      obtain ⟨first, stepped⟩ := each item List.mem_cons_self
      obtain ⟨others, mapped⟩ := ih fun other member => each other (List.mem_cons_of_mem item member)
      exact ⟨first :: others, (mapM_ok_iff _ _ _).mpr (.cons stepped ((mapM_ok_iff _ _ _).mp mapped))⟩

theorem mapped_from {Other : Type} {step : Item → Except Failure Other} {items : List Item}
    {results : List Other} (mapped : items.mapM step = .ok results) :
    ∀ result ∈ results, ∃ item ∈ items, step item = .ok result := by
  intro result member
  have pairs := (mapM_ok_iff _ _ _).mp mapped
  obtain ⟨index, bound, rfl⟩ := List.mem_iff_getElem.mp member
  have inside : index < items.length := pairs.length_eq ▸ bound
  exact ⟨items[index], List.getElem_mem inside, pairs.get inside bound⟩

theorem mapped_to {Other : Type} {step : Item → Except Failure Other} {items : List Item}
    {results : List Other} (mapped : items.mapM step = .ok results) :
    ∀ item ∈ items, ∃ result ∈ results, step item = .ok result := by
  intro item member
  have pairs := (mapM_ok_iff _ _ _).mp mapped
  obtain ⟨index, bound, rfl⟩ := List.mem_iff_getElem.mp member
  have inside : index < results.length := pairs.length_eq ▸ bound
  exact ⟨results[index], List.getElem_mem inside, pairs.get bound inside⟩

end Folds

section Orders

variable {Node : Type} {next : Node → List Node} {order : List Node} {node : Node}

def Leads (next : Node → List Node) (node child : Node) : Prop := child ∈ next node

def Acyclic (next : Node → List Node) : Prop := ∀ node, ¬ Relation.TransGen (Leads next) node node

def Finished (next : Node → List Node) (order : List Node) : Prop :=
  EachAfter (fun front node => next node ⊆ front) order

theorem finished_nil : Finished next [] := each_after_nil _

theorem finished_concat_iff : Finished next (order ++ [node]) ↔ Finished next order ∧ next node ⊆ order :=
  each_after_concat_iff _ _ _

theorem finished_induction {motive : Node → Prop} (finished : Finished next order)
    (each : ∀ node ∈ order, (∀ child ∈ next node, motive child) → motive node) :
    ∀ node ∈ order, motive node := by
  induction order using List.reverseRecOn with
  | nil => simp
  | append_singleton front last ih =>
      obtain ⟨earlier, behind⟩ := finished_concat_iff.mp finished
      have before := ih earlier fun node member => each node (List.mem_append_left _ member)
      intro node member
      rcases List.mem_append.mp member with old | new
      · exact before node old
      · obtain rfl := List.mem_singleton.mp new
        exact each node member fun child successor => before child (behind successor)

theorem finished_no_cycle (finished : Finished next order) :
    ∀ node ∈ order, ¬ Relation.TransGen (Leads next) node node := by
  refine finished_induction (motive := fun node => ¬ Relation.TransGen (Leads next) node node) finished ?_
  intro node _ children cycle
  -- a cycle through the node is one through the successor that it leaves by
  obtain ⟨child, leaves, returns⟩ := Relation.TransGen.head'_iff.mp cycle
  exact children child leaves (Relation.TransGen.tail' returns leaves)

-- Nodes without successors lie on no cycle, so those in the order are enough.
theorem finished_acyclic (finished : Finished next order)
    (listed : ∀ node child, child ∈ next node → node ∈ order) : Acyclic next := by
  intro node cycle
  obtain ⟨child, leaves, _⟩ := Relation.TransGen.head'_iff.mp cycle
  exact finished_no_cycle finished node (listed node child leaves) cycle

theorem finished_filter (finished : Finished next order) (kept : Node → Bool)
    (within : ∀ node child, child ∈ next node → kept child = true) :
    Finished next (order.filter kept) := by
  induction order using List.reverseRecOn with
  | nil => exact finished_nil
  | append_singleton front last ih =>
      obtain ⟨earlier, behind⟩ := finished_concat_iff.mp finished
      rw [List.filter_append]
      cases here : kept last with
      | true =>
          rw [List.filter_singleton, here, cond_true]
          refine finished_concat_iff.mpr ⟨ih earlier, ?_⟩
          intro child leads
          exact List.mem_filter.mpr ⟨behind leads, within last child leads⟩
      | false =>
          rw [List.filter_singleton, here, cond_false, List.append_nil]
          exact ih earlier

-- Named nodes whose steps go back among the old ones, or to the names of their own successors.
theorem finished_extend {Key : Type} {keys : List Key} {nextKey : Key → List Key} (name : Key → Node)
    (old : Finished next order) (finished : Finished nextKey keys)
    (leads : ∀ key ∈ keys, ∀ child ∈ next (name key),
      child ∈ order ∨ ∃ successor ∈ nextKey key, name successor = child) :
    Finished next (order ++ keys.map name) := by
  induction keys using List.reverseRecOn with
  | nil => simpa using old
  | append_singleton front last ih =>
      obtain ⟨earlier, behind⟩ := finished_concat_iff.mp finished
      rw [List.map_append, List.map_singleton, ← List.append_assoc]
      refine finished_concat_iff.mpr ⟨ih earlier ?_, ?_⟩
      · exact fun key member => leads key (List.mem_append_left _ member)
      · intro child step
        rcases leads last (by simp) child step with before | ⟨successor, follows, rfl⟩
        · exact List.mem_append_left _ before
        · exact List.mem_append_right _ (List.mem_map_of_mem (behind follows))

theorem finished_weaken {other : Node → List Node} (finished : Finished next order)
    (fewer : ∀ node ∈ order, other node ⊆ next node) : Finished other order := by
  induction order using List.reverseRecOn with
  | nil => exact finished_nil
  | append_singleton front last ih =>
      obtain ⟨earlier, behind⟩ := finished_concat_iff.mp finished
      refine finished_concat_iff.mpr ⟨ih earlier ?_, ?_⟩
      · exact fun node member => fewer node (List.mem_append_left _ member)
      · exact fun child leads => behind (fewer last (by simp) leads)

end Orders

section Depth

variable {Node Failure : Type} [DecidableEq Node] {enter : Node → Except Failure Unit}
  {sources : Node → List Node} {exhausted : Failure} {known : List Node}

/-- A search completes that stays among known nodes and may go as deep as there are nodes:
along a path each visit marks one more of them. -/
theorem visit_completes (entered : ∀ node ∈ known, enter node = .ok ())
    (closed : ∀ node ∈ known, sources node ⊆ known) (fuel : Nat) {node : Node} {seen : List Node}
    (member : node ∈ known) (inside : seen ⊆ known) (unique : seen.Nodup)
    (deep : known.length < fuel + seen.length) :
    ∃ marked, visit enter sources exhausted fuel node seen = .ok marked ∧ marked ⊆ known ∧
      marked.Nodup ∧ seen.length ≤ marked.length := by
  induction fuel generalizing node seen with
  | zero =>
      have fits := (List.subperm_of_subset unique inside).length_le
      omega
  | succ fuel ih =>
      by_cases old : node ∈ seen
      · exact ⟨seen, by rw [visit, if_pos old], inside, unique, Nat.le_refl _⟩
      · have marks : (seen ++ [node]).Nodup := by
          rw [← List.concat_eq_append]
          exact unique.concat old
        have within : seen ++ [node] ⊆ known :=
          List.append_subset.mpr ⟨inside, List.cons_subset.mpr ⟨member, List.nil_subset _⟩⟩
        have base : seen ++ [node] ⊆ known ∧ (seen ++ [node]).Nodup ∧
            seen.length + 1 ≤ (seen ++ [node]).length := ⟨within, marks, by simp⟩
        obtain ⟨final, folded, kept⟩ := fold_completes
          (fun marked => marked ⊆ known ∧ marked.Nodup ∧ seen.length + 1 ≤ marked.length)
          (sources node) base (by
            rintro state ⟨subset, distinct, long⟩ source sourced
            obtain ⟨after, visited, grown⟩ := ih (closed node member sourced) subset distinct (by omega)
            exact ⟨after, visited, grown.1, grown.2.1, by omega⟩)
        exact ⟨final, (visit_fresh_iff old).mpr ⟨entered node member, folded⟩, kept.1, kept.2.1, by omega⟩

theorem visit_reaches (fuel : Nat) {node : Node} {seen marked : List Node}
    (visited : visit enter sources exhausted fuel node seen = .ok marked) :
    ∀ item ∈ marked, item ∈ seen ∨ Relation.ReflTransGen (Leads sources) node item := by
  induction fuel generalizing node seen marked with
  | zero => simp [visit] at visited
  | succ fuel ih =>
      by_cases old : node ∈ seen
      · rw [visit, if_pos old, Except.ok.injEq] at visited
        exact fun item member => .inl (visited ▸ member)
      · have folded := ((visit_fresh_iff old).mp visited).2
        apply foldlM_invariant _ (fun state => ∀ item ∈ state, item ∈ seen ∨
          Relation.ReflTransGen (Leads sources) node item) (sources node) _ _ marked _ folded
        · intro state source after leads kept stepped item member
          rcases ih stepped item member with earlier | later
          · exact kept item earlier
          · exact .inr (.head leads later)
        · intro item member
          rcases List.mem_append.mp member with before | here
          · exact .inl before
          · rw [List.mem_singleton.mp here]
            exact .inr .refl

-- A search from nothing marks exactly what the searched node leads to.
theorem visit_exact {fuel : Nat} {node : Node} {marked : List Node}
    (visited : visit enter sources exhausted fuel node [] = .ok marked) (item : Node) :
    item ∈ marked ↔ Relation.ReflTransGen (Leads sources) node item := by
  constructor
  · intro member
    exact (visit_reaches fuel visited item member).resolve_left List.not_mem_nil
  · intro reached
    induction reached with
    | refl => exact (visit_grows fuel node [] marked visited).2
    | tail _ leads ih => exact visit_closed fuel node [] marked visited _ ih List.not_mem_nil _ leads

end Depth

end Horseness.SearchOrders
