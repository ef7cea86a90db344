import Mathlib.Data.List.Flatten
import Mathlib.Data.List.Nodup
import Mathlib.Data.List.Pairwise
import Mathlib.Tactic.Common

/-!
Logs that are written in groups: every writer adds its own entries behind those of the writers
before it. The last entry has a last writer, and distinct entries have distinct writers.
-/

namespace Horseness.GroupedLogs

variable {Writer Entry Reading : Type} {entries : Writer → List Entry} {writers : List Writer}

theorem reading_filter (listed : Entry → Bool) {read : Entry → Option Reading}
    (silent : ∀ entry, listed entry = false → read entry = none) (log : List Entry) :
    (log.filter listed).filterMap read = log.filterMap read := by
  induction log with
  | nil => rfl
  | cons entry rest ih =>
      cases chosen : listed entry with
      | true => rw [List.filter_cons_of_pos chosen, List.filterMap_cons, List.filterMap_cons, ih]
      | false =>
          rw [List.filter_cons_of_neg (by simp [chosen]), List.filterMap_cons_none (silent entry chosen),
            ih]

-- The last entry of a log is the last one of a writer behind whom nothing was written.
theorem last_writer {entry : Entry} (last : (writers.flatMap entries).getLast? = some entry) :
    ∃ front writer back, writers = front ++ writer :: back ∧
      (entries writer).getLast? = some entry ∧ ∀ later ∈ back, entries later = [] := by
  induction writers with
  | nil => cases last
  | cons first rest ih =>
      rw [List.flatMap_cons, List.getLast?_append] at last
      cases behind : (rest.flatMap entries).getLast? with
      | none =>
          rw [behind, Option.none_or] at last
          have nothing : ∀ later ∈ rest, entries later = [] :=
            List.flatMap_eq_nil_iff.mp (List.getLast?_eq_none_iff.mp behind)
          exact ⟨[], first, rest, rfl, last, nothing⟩
      | some found =>
          rw [behind, Option.some_or] at last
          rcases ih (behind.trans last) with ⟨front, writer, back, rfl, own, nothing⟩
          exact ⟨first :: front, writer, back, rfl, own, nothing⟩

theorem one_writer (distinct : (writers.flatMap entries).Nodup) {left right : Writer}
    (first : left ∈ writers) (second : right ∈ writers) {entry : Entry}
    (one : entry ∈ entries left) (other : entry ∈ entries right) : left = right := by
  have symmetric : Std.Symm (Function.onFun List.Disjoint entries) :=
    ⟨fun _ _ disjoint _ one other => disjoint other one⟩
  by_contra different
  exact (List.nodup_flatMap.mp distinct).2.forall first second different one other

end Horseness.GroupedLogs
