import Mathlib.Data.List.Sort
import Mathlib.Data.List.Perm.Basic

/-!
Lists whose items differ in a key, sorted by a preorder that may not tell all items apart.
Ties keep the order that the list had. The keys come out the same for every order of the list
exactly if there are no ties, and a second preorder then leaves the sorted list as it is exactly
if it puts no pair the other way round.
-/

namespace Horseness.StableOrders

section Keys

variable {Key : Type}

theorem one_order {left right : Key} {keys : List Key} (unique : keys.Nodup)
    (first : [left, right].Sublist keys) (second : [right, left].Sublist keys) : left = right := by
  induction keys with
  | nil => cases first
  | cons head rest ih =>
      rw [List.nodup_cons] at unique
      cases first with
      | cons _ inner =>
          cases second with
          | cons _ other => exact ih unique.2 inner other
          | cons_cons _ other =>
              have listed : right ∈ rest := inner.subset (by simp)
              exact absurd listed unique.1
      | cons_cons _ inner =>
          cases second with
          | cons _ other =>
              have listed : left ∈ rest := other.subset (by simp)
              exact absurd listed unique.1
          | cons_cons _ _ => rfl

theorem some_order {left right : Key} {keys : List Key} (here : left ∈ keys) (there : right ∈ keys)
    (apart : left ≠ right) : [left, right].Sublist keys ∨ [right, left].Sublist keys := by
  induction keys with
  | nil => cases here
  | cons head rest ih =>
      by_cases first : left = head
      · subst first
        have later : right ∈ rest := List.mem_of_ne_of_mem apart.symm there
        exact .inl ((List.singleton_sublist.mpr later).cons_cons left)
      · have stays : left ∈ rest := List.mem_of_ne_of_mem first here
        by_cases second : right = head
        · subst second
          exact .inr ((List.singleton_sublist.mpr stays).cons_cons right)
        · have follows : right ∈ rest := List.mem_of_ne_of_mem second there
          exact (ih stays follows).imp (List.Sublist.cons head) (List.Sublist.cons head)

theorem keys_determine {Item : Type} {key : Item → Key} {items : List Item}
    (unique : (items.map key).Nodup) {left right : List Item} (within : left ⊆ items)
    (inside : right ⊆ items) (same : left.map key = right.map key) : left = right := by
  induction left generalizing right with
  | nil => exact (List.map_eq_nil_iff.mp same.symm).symm
  | cons first rest ih =>
      cases right with
      | nil => cases same
      | cons other later =>
          rw [List.map_cons, List.map_cons, List.cons.injEq] at same
          rw [List.cons_subset] at within inside
          have head := List.inj_on_of_nodup_map unique within.1 inside.1 same.1
          rw [head, ih within.2 inside.2 same.2]

theorem bring_front [DecidableEq Key] {left right : Key} {keys : List Key} (here : left ∈ keys)
    (there : right ∈ keys) (apart : left ≠ right) :
    keys.Perm (left :: right :: (keys.erase left).erase right) := by
  have stays : right ∈ keys.erase left := (List.mem_erase_of_ne apart.symm).mpr there
  exact (List.perm_cons_erase here).trans ((List.perm_cons_erase stays).cons left)

end Keys

section Sorting

variable {Item Key : Type} (before again : Item → Item → Prop) [DecidableRel before]
  [DecidableRel again] (key : Item → Key) {items : List Item}

def Apart (items : List Item) : Prop :=
  ∀ left ∈ items, ∀ right ∈ items, before left right → before right left → left = right

/-- What the first preorder puts strictly before another, the second leaves there. -/
def Kept (items : List Item) : Prop :=
  ∀ left ∈ items, ∀ right ∈ items, ¬ before right left → again left right

def Unmoved (items : List Item) : Prop :=
  ∀ others, items.Perm others →
    (others.insertionSort before).map key = (items.insertionSort before).map key

/-- Sorting the sorted list by the second preorder leaves its keys where they are. -/
def Settled (items : List Item) : Prop :=
  ((items.insertionSort before).insertionSort again).map key = (items.insertionSort before).map key

variable {before again key}

theorem sorted_unmoved [Std.Total before] [IsTrans Item before] (apart : Apart before items)
    {others : List Item} (order : items.Perm others) :
    others.insertionSort before = items.insertionSort before := by
  refine List.Perm.eq_of_pairwise ?_ (List.pairwise_insertionSort before _)
    (List.pairwise_insertionSort before _) ?_
  · intro left right first second below above
    have here := order.mem_iff.mpr (List.mem_insertionSort _ |>.mp first)
    have there := List.mem_insertionSort _ |>.mp second
    exact apart left here right there below above
  · exact (List.perm_insertionSort _ _).trans (order.symm.trans (List.perm_insertionSort _ _).symm)

theorem sorted_keys_nodup (unique : (items.map key).Nodup) :
    ((items.insertionSort before).map key).Nodup :=
  ((List.perm_insertionSort before items).map key).nodup_iff.mpr unique

theorem unmoved_iff [Std.Total before] [IsTrans Item before] (unique : (items.map key).Nodup) :
    Unmoved before key items ↔ Apart before items := by
  classical
  constructor
  · intro unmoved left here right there below above
    by_contra apart
    have forward := unmoved _ (bring_front here there apart)
    have backward := unmoved _ (bring_front there here (Ne.symm apart))
    have first := (List.pair_sublist_insertionSort below
      (l := left :: right :: (items.erase left).erase right) (by simp)).map key
    have second := (List.pair_sublist_insertionSort above
      (l := right :: left :: (items.erase right).erase left) (by simp)).map key
    rw [forward] at first
    rw [backward] at second
    have same : key left = key right := one_order (sorted_keys_nodup unique) first second
    exact apart (List.inj_on_of_nodup_map unique here there same)
  · intro apart others order
    rw [sorted_unmoved apart order]

theorem settled_same (unique : (items.map key).Nodup) (settled : Settled before again key items) :
    (items.insertionSort before).insertionSort again = items.insertionSort before := by
  apply keys_determine unique _ _ settled
  · intro item member
    exact (List.mem_insertionSort before).mp ((List.mem_insertionSort again).mp member)
  · intro item member
    exact (List.mem_insertionSort before).mp member

theorem sorted_pair [Std.Total before] [IsTrans Item before] {left right : Item}
    (pair : [left, right].Sublist (items.insertionSort before)) : before left right :=
  List.pairwise_iff_forall_sublist.mp (List.pairwise_insertionSort before items) pair

theorem settled_iff [Std.Total before] [IsTrans Item before] [Std.Total again] [IsTrans Item again]
    (unique : (items.map key).Nodup) (apart : Apart before items) :
    Settled before again key items ↔ Kept before again items := by
  have listed : ∀ item, item ∈ items.insertionSort before ↔ item ∈ items := fun _ =>
    List.mem_insertionSort before
  constructor
  · intro settled left here right there strict
    have ordered := List.pairwise_insertionSort again (items.insertionSort before)
    rw [settled_same unique settled] at ordered
    have below : before left right := (Std.Total.total left right).resolve_right strict
    have different : left ≠ right := by
      rintro rfl
      exact strict below
    rcases some_order ((listed left).mpr here) ((listed right).mpr there) different with pair | pair
    · exact List.pairwise_iff_forall_sublist.mp ordered pair
    · exact absurd (sorted_pair pair) strict
  · intro kept
    have ordered : (items.insertionSort before).Pairwise again := by
      rw [List.pairwise_iff_forall_sublist]
      intro left right pair
      have here := (listed left).mp (pair.subset (by simp))
      have there := (listed right).mp (pair.subset (by simp))
      apply kept left here right there
      intro above
      obtain rfl := apart left here right there (sorted_pair pair) above
      have distinct : (items.insertionSort before).Nodup := .of_map key (sorted_keys_nodup unique)
      exact List.nodup_iff_sublist.mp distinct left pair
    rw [Settled, ordered.insertionSort_eq]

end Sorting

end Horseness.StableOrders
