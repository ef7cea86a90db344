import Mathlib.Data.List.Sort
import Mathlib.Logic.Basic

/-!
Comparisons by one key after another, as `first(a, b) || second(a, b)` chains them. Items that
compare equal both ways agree on every key, so lists of the same items sort to the same keys.
-/

namespace Horseness.SortKeys

variable {Item Key : Type} [LT Key]

/-- By a key, and where the keys are equal as `next` says. -/
def byKey (key : Item → Key) (next : Item → Item → Prop) (left right : Item) : Prop :=
  key left < key right ∨ (key left = key right ∧ next left right)

instance (key : Item → Key) (next : Item → Item → Prop) [DecidableEq Key]
    [∀ left right : Key, Decidable (left < right)] [∀ left right, Decidable (next left right)]
    (left right : Item) : Decidable (byKey key next left right) :=
  inferInstanceAs (Decidable (_ ∨ _))

def lastKey (key : Item → Key) (left right : Item) : Prop := ¬ key right < key left

instance (key : Item → Key) [∀ left right : Key, Decidable (left < right)] (left right : Item) :
    Decidable (lastKey key left right) := inferInstanceAs (Decidable (¬ _))

/-- Keys of which any two are equal or in one order. -/
structure StrictKeys (Key : Type) [LT Key] : Prop where
  irrefl : ∀ key : Key, ¬ key < key
  trans : ∀ one middle other : Key, one < middle → middle < other → one < other
  cases : ∀ one other : Key, one < other ∨ one = other ∨ other < one

/-- A comparison that sorts, together with what items have in common that it cannot tell apart. -/
structure Sorts (before : Item → Item → Prop) : Prop where
  total : ∀ left right, before left right ∨ before right left
  trans : ∀ left middle right, before left middle → before middle right → before left right

variable {key : Item → Key} {next : Item → Item → Prop}

theorem by_key_sorts (keys : StrictKeys Key) (sorts : Sorts next) : Sorts (byKey key next) where
  total left right := by
    rcases keys.cases (key left) (key right) with below | same | above
    · exact .inl (.inl below)
    · exact (sorts.total left right).imp (fun first => .inr ⟨same, first⟩)
        fun second => .inr ⟨same.symm, second⟩
    · exact .inr (.inl above)
  trans left middle right first second := by
    rcases first with below | ⟨same, first⟩
    · rcases second with later | ⟨equal, _⟩
      · exact .inl (keys.trans _ _ _ below later)
      · exact .inl (equal ▸ below)
    · rcases second with later | ⟨equal, second⟩
      · exact .inl (same ▸ later)
      · exact .inr ⟨same.trans equal, sorts.trans left middle right first second⟩

theorem by_key_tie (keys : StrictKeys Key) {left right : Item} (first : byKey key next left right)
    (second : byKey key next right left) :
    key left = key right ∧ next left right ∧ next right left := by
  rcases first with below | ⟨same, first⟩
  · rcases second with above | ⟨equal, _⟩
    · exact absurd (keys.trans _ _ _ below above) (keys.irrefl _)
    · exact absurd (equal ▸ below) (keys.irrefl _)
  · rcases second with above | ⟨_, second⟩
    · exact absurd (same ▸ above) (keys.irrefl _)
    · exact ⟨same, first, second⟩

theorem last_key_sorts (keys : StrictKeys Key) : Sorts (lastKey key) where
  total left right := by
    rcases keys.cases (key left) (key right) with below | same | above
    · exact .inl fun above => keys.irrefl _ (keys.trans _ _ _ below above)
    · exact .inl fun above => keys.irrefl _ (same ▸ above)
    · exact .inr fun below => keys.irrefl _ (keys.trans _ _ _ below above)
  trans left middle right first second above := by
    rcases keys.cases (key middle) (key left) with below | same | other
    · exact first below
    · exact second (same ▸ above)
    · exact second (keys.trans _ _ _ above other)

theorem last_key_tie (keys : StrictKeys Key) {left right : Item} (first : lastKey key left right)
    (second : lastKey key right left) : key left = key right := by
  rcases keys.cases (key left) (key right) with below | same | above
  · exact absurd below second
  · exact same
  · exact absurd above first

theorem nat_keys : StrictKeys Nat where
  irrefl := Nat.lt_irrefl
  trans _ _ _ := Nat.lt_trans
  cases := Nat.lt_trichotomy

theorem list_keys : StrictKeys (List Nat) where
  irrefl _ := List.lt_irrefl _
  trans _ _ _ := List.lt_trans
  cases one other := by
    by_cases below : one < other
    · exact .inl below
    · by_cases above : other < one
      · exact .inr (.inr above)
      · exact .inr (.inl (List.le_antisymm (List.not_lt.mp above) (List.not_lt.mp below)))

section Views

variable {View : Type} {before : Item → Item → Prop} [∀ left right, Decidable (before left right)]

omit [LT Key] in
/-- What a sorted list shows does not depend on the order of the list that was sorted, when items
are compared by what they show and those that compare equal show the same. -/
theorem sorted_views (sorts : Sorts before) (view : Item → View) {items others : List Item}
    (order : items.Perm others)
    (sees : ∀ left left' right right', view left = view left' → view right = view right' →
      before left right → before left' right')
    (tie : ∀ left ∈ items, ∀ right ∈ items, before left right → before right left →
      view left = view right) :
    (items.insertionSort before).map view = (others.insertionSort before).map view := by
  have total : Std.Total before := ⟨sorts.total⟩
  have trans : IsTrans Item before := ⟨sorts.trans⟩
  let shows (one other : View) : Prop :=
    ∃ left right, view left = one ∧ view right = other ∧ before left right
  have ordered (list : List Item) : ((list.insertionSort before).map view).Pairwise shows := by
    rw [List.pairwise_map]
    exact (List.pairwise_insertionSort before list).imp fun {left right} below =>
      ⟨left, right, rfl, rfl, below⟩
  have mixed : ((items.insertionSort before).map view).Perm
      ((others.insertionSort before).map view) :=
    ((List.perm_insertionSort before items).trans
      (order.trans (List.perm_insertionSort before others).symm)).map view
  refine List.Perm.eq_of_pairwise ?_ (ordered items) (ordered others) mixed
  rintro one other first second ⟨left, right, rfl, rfl, below⟩ ⟨right', left', same, equal, above⟩
  rcases List.mem_map.mp first with ⟨a, here, seen⟩
  rcases List.mem_map.mp second with ⟨b, there, also⟩
  rw [List.mem_insertionSort] at here there
  rw [← seen, ← also]
  exact tie a here b (order.mem_iff.mpr there) (sees _ _ _ _ seen.symm also.symm below)
    (sees _ _ _ _ (same.trans also.symm) (equal.trans seen.symm) above)

end Views

end Horseness.SortKeys
