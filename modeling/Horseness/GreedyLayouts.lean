import Mathlib.Algebra.BigOperators.Group.List.Basic
import Mathlib.Algebra.GroupWithZero.Nat
import Mathlib.Tactic.Common

/-!
Items that are put one after another into a bounded space. An item that does not fit after those
that were taken is passed over and the next one is tried; the taken items lie side by side.
-/

namespace Horseness.GreedyLayouts

variable {Item : Type} (size : Item → Nat) (budget : Nat)

/-- Whether each item is taken, when `used` of the space is taken already. -/
def choices : Nat → List Item → List (Item × Bool)
  | _, [] => []
  | used, item :: rest =>
      if used + size item > budget then (item, false) :: choices used rest
      else (item, true) :: choices (used + size item) rest

def kept (chosen : List (Item × Bool)) : List Item := (chosen.filter Prod.snd).map Prod.fst

def dropped (chosen : List (Item × Bool)) : List Item :=
  (chosen.filter fun choice => !choice.2).map Prod.fst

def total (items : List Item) : Nat := (items.map size).sum

variable {size budget} {used : Nat} {items : List Item}

@[simp] theorem kept_taken (item : Item) (chosen : List (Item × Bool)) :
    kept ((item, true) :: chosen) = item :: kept chosen := rfl

@[simp] theorem kept_passed (item : Item) (chosen : List (Item × Bool)) :
    kept ((item, false) :: chosen) = kept chosen := rfl

@[simp] theorem total_nil : total size [] = 0 := rfl

@[simp] theorem total_cons (item : Item) (rest : List Item) :
    total size (item :: rest) = size item + total size rest := by
  rw [total, List.map_cons, List.sum_cons, total]

theorem choices_items : (choices size budget used items).map Prod.fst = items := by
  induction items generalizing used with
  | nil => rfl
  | cons item rest ih =>
      rw [choices]
      split
      · rw [List.map_cons, ih]
      · rw [List.map_cons, ih]

-- An item is taken just when it fits after those that were taken before it.
theorem choices_fit {front back : List (Item × Bool)} {item : Item} {taken : Bool}
    (split : choices size budget used items = front ++ (item, taken) :: back) :
    taken = true ↔ used + total size (kept front) + size item ≤ budget := by
  induction items generalizing used front with
  | nil => cases front <;> cases split
  | cons first rest ih =>
      rw [choices] at split
      by_cases large : used + size first > budget
      · rw [if_pos large] at split
        cases front with
        | nil =>
            cases split
            simpa [kept] using large
        | cons choice front =>
            rcases List.cons.inj split with ⟨rfl, later⟩
            simpa using ih later
      · rw [if_neg large] at split
        cases front with
        | nil =>
            cases split
            simpa [kept] using large
        | cons choice front =>
            rcases List.cons.inj split with ⟨rfl, later⟩
            simpa [Nat.add_assoc] using ih later

theorem kept_bound (start : used ≤ budget) :
    used + total size (kept (choices size budget used items)) ≤ budget := by
  induction items generalizing used with
  | nil => simpa [choices, kept] using start
  | cons item rest ih =>
      rw [choices]
      by_cases large : used + size item > budget
      · rw [if_pos large, kept_passed]
        exact ih start
      · rw [if_neg large, kept_taken, total_cons, ← Nat.add_assoc]
        exact ih (Nat.not_lt.mp large)

theorem choice_cases {item : Item} (member : item ∈ items) :
    item ∈ kept (choices size budget used items) ∨
      item ∈ dropped (choices size budget used items) := by
  have there : item ∈ (choices size budget used items).map Prod.fst := by rwa [choices_items]
  rcases List.mem_map.mp there with ⟨⟨item, taken⟩, chosen, rfl⟩
  cases taken with
  | true => exact .inl (List.mem_map_of_mem (List.mem_filter.mpr ⟨chosen, rfl⟩))
  | false => exact .inr (List.mem_map_of_mem (List.mem_filter.mpr ⟨chosen, rfl⟩))

section Spans

def spans (size : Item → Nat) : Nat → List Item → List (Item × Nat × Nat)
  | _, [] => []
  | start, item :: rest => (item, start, start + size item) :: spans size (start + size item) rest

/-- Spans that follow each other from the start to the finish without a gap. -/
def Tiles : Nat → List (Nat × Nat) → Nat → Prop
  | start, [], finish => start = finish
  | start, span :: rest, finish => span.1 = start ∧ start ≤ span.2 ∧ Tiles span.2 rest finish

theorem spans_tile (size : Item → Nat) (start : Nat) (items : List Item) :
    Tiles start ((spans size start items).map Prod.snd) (start + total size items) := by
  induction items generalizing start with
  | nil => rfl
  | cons item rest ih =>
      refine ⟨rfl, Nat.le_add_right _ _, ?_⟩
      rw [total_cons, ← Nat.add_assoc]
      exact ih (start + size item)

theorem spans_slice {Part : Type} {contents : Item → List Part}
    (sized : ∀ item, (contents item).length = size item) (front : List Part) (items : List Item) :
    ∀ span ∈ spans size front.length items,
      ((front ++ items.flatMap contents).drop span.2.1).take (span.2.2 - span.2.1) =
        contents span.1 := by
  induction items generalizing front with
  | nil => simp [spans]
  | cons item rest ih =>
      rw [spans, List.forall_mem_cons]
      constructor
      · rw [List.drop_left, List.flatMap_cons, Nat.add_sub_cancel_left, ← sized item,
          List.take_left]
      · have later := ih (front ++ contents item)
        rw [List.length_append, sized item, List.append_assoc, ← List.flatMap_cons] at later
        exact later

theorem flat_length {Part : Type} {contents : Item → List Part}
    (sized : ∀ item, (contents item).length = size item) (items : List Item) :
    (items.flatMap contents).length = total size items := by
  induction items with
  | nil => rfl
  | cons item rest ih => rw [List.flatMap_cons, List.length_append, ih, sized, total_cons]

end Spans

end Horseness.GreedyLayouts
