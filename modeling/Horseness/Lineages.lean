import Mathlib.Data.List.Nodup
import Mathlib.Data.List.Infix
import Mathlib.Logic.Relation
import Mathlib.Tactic.Common

/-!
Records in a list that name a parent by its key. Where every parent was stored before its
child, each record is a finite number of steps below a root, and a walk upwards that carries
the keys it has met never meets one again.
-/

namespace Horseness.Lineages

variable {Node Key : Type}

section Order

def Founded (key : Node → Key) (parent : Node → Option Key) (nodes : List Node) : Prop :=
  ∀ front node rest, nodes = front ++ node :: rest → ∀ name ∈ parent node, name ∈ front.map key

variable {key : Node → Key} {parent : Node → Option Key} {nodes : List Node}

theorem founded_root {node : Node} (root : parent node = none) : Founded key parent [node] := by
  intro front other rest split name named
  obtain ⟨rfl, rfl, -⟩ : front = [] ∧ node = other ∧ rest = [] := by
    cases front <;> simp_all
  simp [root] at named

theorem founded_append (founded : Founded key parent nodes) {last : Node}
    (stored : ∀ name ∈ parent last, name ∈ nodes.map key) : Founded key parent (nodes ++ [last]) := by
  intro front node rest split name named
  rcases List.eq_nil_or_concat rest with rfl | ⟨before, final, rfl⟩
  · obtain ⟨rfl, same⟩ := List.append_inj' split rfl
    obtain rfl : last = node := by simpa using same
    exact stored name named
  · have shorter : nodes = front ++ node :: before := by
      have ends : nodes ++ [last] = (front ++ node :: before) ++ [final] := by simp [split]
      exact (List.append_inj' ends rfl).1
    exact founded front node before shorter name named

-- Changing records in place keeps the order if they keep their keys and parents.
theorem founded_map (founded : Founded key parent nodes) {change : Node → Node}
    (keys : ∀ node, key (change node) = key node)
    (parents : ∀ node, parent (change node) = parent node) :
    Founded key parent (nodes.map change) := by
  intro front node rest split name named
  obtain ⟨before, later, rfl, rfl, tail⟩ := List.map_eq_append_iff.mp split
  obtain ⟨old, after, rfl, rfl, rfl⟩ := List.map_eq_cons_iff.mp tail
  have known := founded before old after rfl name (parents old ▸ named)
  simpa [List.map_map, Function.comp_def, keys] using known

end Order

variable [DecidableEq Key] (key : Node → Key) (parent : Node → Option Key)

def lookup (nodes : List Node) (name : Key) : Option Node :=
  nodes.find? fun node => key node = name

def parentOf (nodes : List Node) (name : Key) : Option Key :=
  (lookup key nodes name).bind parent

def Ancestor (nodes : List Node) : Key → Key → Prop :=
  Relation.ReflTransGen fun child above => parentOf key parent nodes child = some above

def walk (good : Node → Bool) (nodes : List Node) : Nat → List Key → Node → Bool
  | 0, _, _ => false
  | steps + 1, seen, node =>
      if good node = false ∨ key node ∈ seen then false
      else match parent node with
        | none => true
        | some above => match lookup key nodes above with
            | none => false
            | some next => walk good nodes steps (key node :: seen) next

variable {key parent} {nodes : List Node}

section Lookup

theorem lookup_key {name : Key} {node : Node} (found : lookup key nodes name = some node) :
    key node = name := by
  simpa using List.find?_some found

theorem lookup_mem {name : Key} {node : Node} (found : lookup key nodes name = some node) :
    node ∈ nodes :=
  List.mem_of_find?_eq_some found

theorem lookup_exists_iff {name : Key} :
    (∃ node, lookup key nodes name = some node) ↔ name ∈ nodes.map key := by
  rw [← Option.isSome_iff_exists, lookup, List.find?_isSome]
  simp

theorem lookup_unique (unique : (nodes.map key).Nodup) {node : Node} (member : node ∈ nodes) :
    lookup key nodes (key node) = some node := by
  have present : key node ∈ nodes.map key := List.mem_map_of_mem member
  obtain ⟨found, same⟩ := lookup_exists_iff.mpr present
  have equal := List.inj_on_of_nodup_map unique (lookup_mem same) member (lookup_key same)
  rw [same, equal]

theorem lookup_map {change : Node → Node} (keys : ∀ node, key (change node) = key node)
    (name : Key) : lookup key (nodes.map change) name = (lookup key nodes name).map change := by
  simp [lookup, List.find?_map, Function.comp_def, keys]

end Lookup

section Ancestors

def place (key : Node → Key) (nodes : List Node) (name : Key) : Nat := (nodes.map key).idxOf name

theorem parent_earlier (founded : Founded key parent nodes) {child above : Key}
    (up : parentOf key parent nodes child = some above) :
    above ∈ nodes.map key ∧ place key nodes above < place key nodes child := by
  obtain ⟨node, found, named⟩ := Option.bind_eq_some_iff.mp up
  obtain ⟨same, front, rest, rfl, earlier⟩ := List.find?_eq_some_iff_append.mp found
  have known := founded front node rest rfl above named
  have skipped : child ∉ front.map key := by
    intro member
    obtain ⟨other, there, hit⟩ := List.mem_map.mp member
    simpa [hit] using earlier other there
  have own : place key (front ++ node :: rest) child = front.length := by
    rw [place, List.map_append, List.idxOf_append_of_notMem skipped]
    simp [of_decide_eq_true same]
  constructor
  · rw [List.map_append]
    exact List.mem_append_left _ known
  · rw [own, place, List.map_append, List.idxOf_append_of_mem known]
    simpa using List.idxOf_lt_length_iff.mpr known

theorem ancestor_place (founded : Founded key parent nodes) {child above : Key}
    (up : Ancestor key parent nodes child above) :
    place key nodes above ≤ place key nodes child := by
  induction up with
  | refl => exact le_rfl
  | tail _ step ih => exact (parent_earlier founded step).2.le.trans ih

theorem ancestor_acyclic (founded : Founded key parent nodes) {child above : Key}
    (up : parentOf key parent nodes child = some above) : ¬ Ancestor key parent nodes above child := by
  intro back
  have lower := (parent_earlier founded up).2
  have higher := ancestor_place founded back
  omega

-- What is above a record stays above it as long as the parents stay.
theorem ancestor_mono {later : List Node} (kept : ∀ child above,
    parentOf key parent nodes child = some above → parentOf key parent later child = some above)
    {child above : Key} (up : Ancestor key parent nodes child above) :
    Ancestor key parent later child above :=
  Relation.ReflTransGen.mono kept _ _ up

end Ancestors

section Walks

/-- With one step for each record the walk reaches the root: it succeeds exactly if the
record and all above it are good. -/
theorem walk_iff (founded : Founded key parent nodes) (good : Node → Bool) {steps : Nat}
    {seen : List Key} {node : Node} (stored : lookup key nodes (key node) = some node)
    (ahead : ∀ name ∈ seen, place key nodes (key node) < place key nodes name)
    (enough : place key nodes (key node) < steps) :
    walk key parent good nodes steps seen node = true ↔
      ∀ above other, Ancestor key parent nodes (key node) above →
        lookup key nodes above = some other → good other = true := by
  induction steps generalizing seen node with
  | zero => omega
  | succ steps ih =>
      have unseen : key node ∉ seen := fun member => lt_irrefl _ (ahead _ member)
      have own : parentOf key parent nodes (key node) = parent node := by simp [parentOf, stored]
      rw [walk]
      cases bad : good node with
      | false =>
          simp only [true_or, if_true, Bool.false_eq_true, false_iff]
          intro all
          exact absurd (all _ node .refl stored) (by simp [bad])
      | true =>
          rw [if_neg (by simpa using unseen)]
          cases named : parent node with
          | none =>
              simp only [true_iff]
              intro above other up found
              rcases Relation.ReflTransGen.cases_head up with rfl | ⟨next, step, -⟩
              · exact Option.some.inj (stored.symm.trans found) ▸ bad
              · simp [own, named] at step
          | some above =>
              rw [named] at own
              obtain ⟨known, lower⟩ := parent_earlier founded own
              obtain ⟨next, found⟩ := lookup_exists_iff.mpr known
              have same := lookup_key found
              simp only [found]
              rw [ih (same ▸ found) ?_ (by rw [same]; omega), same]
              · constructor
                · intro all top other up there
                  rcases Relation.ReflTransGen.cases_head up with rfl | ⟨middle, step, rest⟩
                  · exact Option.some.inj (stored.symm.trans there) ▸ bad
                  · obtain rfl := Option.some.inj (own.symm.trans step)
                    exact all top other rest there
                · intro all top other up there
                  exact all top other (.head own up) there
              · intro name member
                rw [same]
                rcases List.mem_cons.mp member with rfl | earlier
                · exact lower
                · exact lower.trans (ahead name earlier)

theorem walk_whole (founded : Founded key parent nodes) (good : Node → Bool) {name : Key}
    {node : Node} (found : lookup key nodes name = some node) :
    walk key parent good nodes (nodes.length + 1) [] node = true ↔
      ∀ above other, Ancestor key parent nodes name above →
        lookup key nodes above = some other → good other = true := by
  have same := lookup_key found
  have bound : place key nodes (key node) ≤ nodes.length := by
    simpa [place] using List.idxOf_le_length (a := key node) (l := nodes.map key)
  rw [walk_iff founded good (same ▸ found) (by simp) (by omega), same]

end Walks

end Horseness.Lineages
