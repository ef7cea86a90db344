import Mathlib.Data.List.Basic
import Mathlib.Tactic.Common

/-!
Streams of lines that end in a mark, and what is left behind the last mark. The lines of a stream
do not depend on where it is cut, as long as the rest of one part is put before the next.
-/

namespace Horseness.DelimitedStreams

variable {Item : Type} [DecidableEq Item] {mark : Item}

def extendFirst (item : Item) : List (List Item) × List Item → List (List Item) × List Item
  | ([], rest) => ([], item :: rest)
  | (line :: more, rest) => ((item :: line) :: more, rest)

def lines (mark : Item) : List Item → List (List Item) × List Item
  | [] => ([], [])
  | item :: stream =>
      if item = mark then ([] :: (lines mark stream).1, (lines mark stream).2)
      else extendFirst item (lines mark stream)

def joined (mark : Item) (complete : List (List Item)) (rest : List Item) : List Item :=
  complete.flatMap (fun line => line ++ [mark]) ++ rest

omit [DecidableEq Item] in
theorem joined_cons (line : List Item) (complete : List (List Item)) (rest : List Item) :
    joined mark (line :: complete) rest = line ++ mark :: joined mark complete rest := by
  simp [joined]

omit [DecidableEq Item] in
theorem joined_append (front back : List (List Item)) (rest : List Item) :
    joined mark (front ++ back) rest = joined mark front (joined mark back rest) := by
  rw [joined, List.flatMap_append, List.append_assoc]
  rfl

omit [DecidableEq Item] in
theorem joined_rest (complete : List (List Item)) (rest more : List Item) :
    joined mark complete rest ++ more = joined mark complete (rest ++ more) := by
  rw [joined, List.append_assoc, ← joined]

theorem lines_open {stream : List Item} (unmarked : mark ∉ stream) : lines mark stream = ([], stream) := by
  induction stream with
  | nil => rfl
  | cons item rest ih =>
      obtain ⟨other, later⟩ := List.ne_and_not_mem_of_not_mem_cons unmarked
      rw [lines, if_neg other.symm, ih later, extendFirst]

theorem lines_cons {line : List Item} (unmarked : mark ∉ line) (stream : List Item) :
    lines mark (line ++ mark :: stream) = (line :: (lines mark stream).1, (lines mark stream).2) := by
  induction line with
  | nil => rw [List.nil_append, lines, if_pos rfl]
  | cons item rest ih =>
      obtain ⟨other, later⟩ := List.ne_and_not_mem_of_not_mem_cons unmarked
      rw [List.cons_append, lines, if_neg other.symm, ih later, extendFirst]

theorem lines_joined (mark : Item) (stream : List Item) :
    joined mark (lines mark stream).1 (lines mark stream).2 = stream ∧
      (∀ line ∈ (lines mark stream).1, mark ∉ line) ∧ mark ∉ (lines mark stream).2 := by
  induction stream with
  | nil => simp [lines, joined]
  | cons item rest ih =>
      obtain ⟨whole, each, unmarked⟩ := ih
      by_cases here : item = mark
      · subst here
        rw [lines, if_pos rfl]
        exact ⟨congrArg (List.cons item) whole, List.forall_mem_cons.mpr ⟨List.not_mem_nil, each⟩, unmarked⟩
      · rw [lines, if_neg here]
        have grown {line : List Item} (before : mark ∉ line) : mark ∉ item :: line :=
          fun found => (List.mem_cons.mp found).elim (fun same => here same.symm) before
        rcases shape : lines mark rest with ⟨complete, last⟩
        rw [shape] at whole each unmarked
        cases complete with
        | nil => exact ⟨congrArg (List.cons item) whole, List.forall_mem_nil _, grown unmarked⟩
        | cons line more =>
            rw [List.forall_mem_cons] at each
            exact ⟨congrArg (List.cons item) whole, List.forall_mem_cons.mpr ⟨grown each.1, each.2⟩,
              unmarked⟩

theorem joined_lines {complete : List (List Item)} {rest : List Item}
    (each : ∀ line ∈ complete, mark ∉ line) (unmarked : mark ∉ rest) :
    lines mark (joined mark complete rest) = (complete, rest) := by
  induction complete with
  | nil => exact lines_open unmarked
  | cons line more ih =>
      rw [List.forall_mem_cons] at each
      rw [joined, List.flatMap_cons, List.append_assoc, List.append_assoc, List.singleton_append,
        lines_cons each.1, ← joined, ih each.2]

theorem lines_append (front back : List Item) :
    lines mark (front ++ back) =
      ((lines mark front).1 ++ (lines mark ((lines mark front).2 ++ back)).1,
        (lines mark ((lines mark front).2 ++ back)).2) := by
  obtain ⟨whole, each, _⟩ := lines_joined mark front
  obtain ⟨later, inner, unmarked⟩ := lines_joined mark ((lines mark front).2 ++ back)
  have stream : front ++ back = joined mark
      ((lines mark front).1 ++ (lines mark ((lines mark front).2 ++ back)).1)
      (lines mark ((lines mark front).2 ++ back)).2 := by
    rw [joined_append, later, ← joined_rest, whole]
  conv_lhs => rw [stream]
  exact joined_lines (fun line member => (List.mem_append.mp member).elim (each line) (inner line))
    unmarked

end Horseness.DelimitedStreams
