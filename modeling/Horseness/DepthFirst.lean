import Horseness.FallibleRuns
import Mathlib.Data.List.Basic

/-!
Recursive depth-first marking over an arbitrary node type. `enter` may refuse a
fresh node, and `fuel` bounds the recursion depth; running out of it is reported
as `exhausted`, never as a shorter marking.
-/

namespace Horseness.DepthFirst

open FallibleRuns

variable {Node Failure : Type} [DecidableEq Node]

def visit (enter : Node → Except Failure Unit) (sources : Node → List Node)
    (exhausted : Failure) : Nat → Node → List Node → Except Failure (List Node)
  | 0, _, _ => .error exhausted
  | fuel + 1, node, seen =>
      if node ∈ seen then .ok seen
      else do
        enter node
        (sources node).foldlM (fun marked source => visit enter sources exhausted fuel source marked)
          (seen ++ [node])

variable {enter enter' : Node → Except Failure Unit} {sources sources' : Node → List Node}
  {exhausted : Failure}

-- One fresh visit: the node is entered and marked, then its sources in order.
theorem visit_fresh_iff {fuel : Nat} {node : Node} {seen marked : List Node}
    (fresh : node ∉ seen) :
    visit enter sources exhausted (fuel + 1) node seen = .ok marked ↔
      enter node = .ok () ∧
        (sources node).foldlM (fun marked source => visit enter sources exhausted fuel source marked)
          (seen ++ [node]) = .ok marked := by
  simp only [visit, fresh, if_false, check_ok_iff]

theorem visit_grows (fuel : Nat) (node : Node) (seen marked : List Node)
    (visited : visit enter sources exhausted fuel node seen = .ok marked) :
    seen ⊆ marked ∧ node ∈ marked := by
  induction fuel generalizing node seen marked with
  | zero => simp [visit] at visited
  | succ fuel ih =>
      by_cases old : node ∈ seen
      · have same : seen = marked := by simpa [visit, old] using visited
        exact ⟨same ▸ List.Subset.refl seen, same ▸ old⟩
      · obtain ⟨_, folded⟩ := (visit_fresh_iff old).mp visited
        have grown : seen ++ [node] ⊆ marked :=
          foldlM_invariant _ (fun state => seen ++ [node] ⊆ state) (sources node)
            (fun state source after _ kept stepped =>
              List.Subset.trans kept (ih source state after stepped).1)
            _ marked (List.Subset.refl _) folded
        exact ⟨fun item member => grown (List.mem_append_left [node] member), grown (by simp)⟩

theorem fold_grows (fuel : Nat) (nodes seen marked : List Node)
    (visited : nodes.foldlM (fun marked source => visit enter sources exhausted fuel source marked)
      seen = .ok marked) : seen ⊆ marked :=
  foldlM_invariant _ (fun state => seen ⊆ state) nodes
    (fun _ source _ _ kept stepped => List.Subset.trans kept (visit_grows fuel source _ _ stepped).1)
    seen marked (List.Subset.refl seen) visited

theorem visit_entered (fuel : Nat) (node : Node) (seen marked : List Node)
    (visited : visit enter sources exhausted fuel node seen = .ok marked) :
    ∀ item ∈ marked, item ∉ seen → enter item = .ok () := by
  induction fuel generalizing node seen marked with
  | zero => simp [visit] at visited
  | succ fuel ih =>
      by_cases old : node ∈ seen
      · have same : seen = marked := by simpa [visit, old] using visited
        intro item member fresh
        exact absurd (same ▸ member) fresh
      · obtain ⟨entered, folded⟩ := (visit_fresh_iff old).mp visited
        refine foldlM_invariant _ (fun state => ∀ item ∈ state, item ∉ seen → enter item = .ok ())
          (sources node) ?_ _ marked ?_ folded
        · intro state source after _ kept stepped item member fresh
          by_cases earlier : item ∈ state
          · exact kept item earlier fresh
          · exact ih source state after stepped item member earlier
        · intro item member fresh
          rcases List.mem_append.mp member with before | here
          · exact absurd before fresh
          · exact List.mem_singleton.mp here ▸ entered

-- A completed marking is closed: every source of a fresh mark is marked.
theorem visit_closed (fuel : Nat) (node : Node) (seen marked : List Node)
    (visited : visit enter sources exhausted fuel node seen = .ok marked) :
    ∀ item ∈ marked, item ∉ seen → ∀ source ∈ sources item, source ∈ marked := by
  induction fuel generalizing node seen marked with
  | zero => simp [visit] at visited
  | succ fuel ih =>
      by_cases old : node ∈ seen
      · have same : seen = marked := by simpa [visit, old] using visited
        intro item member fresh
        exact absurd (same ▸ member) fresh
      · obtain ⟨_, folded⟩ := (visit_fresh_iff old).mp visited
        -- While the node's own sources are visited, only the node itself may still miss some.
        have partly : ∀ (nodes : List Node) (state after : List Node),
            nodes.foldlM (fun marked source => visit enter sources exhausted fuel source marked)
              state = .ok after →
            (∀ item ∈ state, item ∉ seen → item ≠ node → ∀ source ∈ sources item, source ∈ state) →
            (∀ item ∈ after, item ∉ seen → item ≠ node → ∀ source ∈ sources item, source ∈ after) ∧
              ∀ source ∈ nodes, source ∈ after := by
          intro nodes
          induction nodes with
          | nil =>
              intro state after folded kept
              have same : state = after := by simpa [pure, Except.pure] using folded
              exact ⟨same ▸ kept, by simp⟩
          | cons first rest rest_ih =>
              intro state after folded kept
              obtain ⟨middle, stepped, folded⟩ :=
                (foldlM_cons_ok_iff _ first rest state after).mp folded
              have grown := visit_grows fuel first state middle stepped
              have still : ∀ item ∈ middle, item ∉ seen → item ≠ node →
                  ∀ source ∈ sources item, source ∈ middle := by
                intro item member fresh other source sourced
                by_cases earlier : item ∈ state
                · exact grown.1 (kept item earlier fresh other source sourced)
                · exact ih first state middle stepped item member earlier source sourced
              obtain ⟨closed, rest_marked⟩ := rest_ih middle after folded still
              refine ⟨closed, fun source member => ?_⟩
              rcases List.mem_cons.mp member with same | later
              · exact fold_grows fuel rest middle after folded (same ▸ grown.2)
              · exact rest_marked source later
        obtain ⟨closed, own⟩ := partly (sources node) (seen ++ [node]) marked folded (by
          intro item member fresh other
          rcases List.mem_append.mp member with before | here
          · exact absurd before fresh
          · exact absurd (List.mem_singleton.mp here) other)
        intro item member fresh source sourced
        by_cases same : item = node
        · exact own source (same ▸ sourced)
        · exact closed item member fresh same source sourced

-- The frame rule for one list of sources, given the rule for a single visit.
theorem fold_frame (fuel fuel' : Nat)
    (single : ∀ node seen marked, visit enter sources exhausted fuel node seen = .ok marked →
      (∀ item ∈ marked, enter item = .ok () → enter' item = .ok ()) →
      (∀ item ∈ marked, sources' item = sources item) →
      visit enter' sources' exhausted fuel' node seen = .ok marked)
    (nodes seen marked : List Node)
    (folded : nodes.foldlM (fun marked source => visit enter sources exhausted fuel source marked)
      seen = .ok marked)
    (same_entry : ∀ item ∈ marked, enter item = .ok () → enter' item = .ok ())
    (same_sources : ∀ item ∈ marked, sources' item = sources item) :
    nodes.foldlM (fun marked source => visit enter' sources' exhausted fuel' source marked)
      seen = .ok marked := by
  induction nodes generalizing seen with
  | nil => exact folded
  | cons first rest ih =>
      obtain ⟨middle, stepped, later⟩ := (foldlM_cons_ok_iff _ first rest seen marked).mp folded
      -- Marks only grow, so what holds of the final marks holds of the earlier ones.
      have grown := fold_grows fuel rest middle marked later
      have head := single first seen middle stepped
        (fun item member => same_entry item (grown member))
        (fun item member => same_sources item (grown member))
      exact (foldlM_cons_ok_iff _ first rest seen marked).mpr ⟨middle, head, ih middle later⟩

/-- The frame rule: a graph that agrees on every marked node is marked the same
way, and more fuel changes nothing. -/
theorem visit_frame (fuel fuel' : Nat) (node : Node) (seen marked : List Node)
    (more : fuel ≤ fuel')
    (visited : visit enter sources exhausted fuel node seen = .ok marked)
    (same_entry : ∀ item ∈ marked, enter item = .ok () → enter' item = .ok ())
    (same_sources : ∀ item ∈ marked, sources' item = sources item) :
    visit enter' sources' exhausted fuel' node seen = .ok marked := by
  induction fuel generalizing fuel' node seen marked with
  | zero => simp [visit] at visited
  | succ fuel ih =>
      obtain ⟨less, rfl⟩ : ∃ less, fuel' = less + 1 := ⟨fuel' - 1, by omega⟩
      by_cases old : node ∈ seen
      · simpa [visit, old] using visited
      · have member := (visit_grows _ node seen marked visited).2
        obtain ⟨entered, folded⟩ := (visit_fresh_iff old).mp visited
        refine (visit_fresh_iff old).mpr ⟨same_entry node member entered, ?_⟩
        rw [same_sources node member]
        exact fold_frame fuel less
          (fun node seen marked visited => ih less node seen marked (by omega) visited)
          (sources node) _ marked folded same_entry same_sources

end Horseness.DepthFirst
