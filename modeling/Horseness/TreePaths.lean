import Mathlib.Data.Option.Basic
import Mathlib.Tactic.Common

/-!
Trees whose children have names, and editing one node below a path. A node that a
path does not reach is not edited. Two paths either extend each other or part at a
first differing name, and each case has its own law.
-/

namespace Horseness.TreePaths

/-- The children of nodes, and the replacement of one child. Writing back the child
that is there changes nothing, and a write is seen under its own name only. -/
structure Branching (Token Node : Type) where
  child : Token → Node → Option Node
  put : Token → Node → Node → Node
  child_put : ∀ {token node old} new, child token node = some old →
    child token (put token new node) = some new
  child_put_other : ∀ {token other} new node, token ≠ other →
    child other (put token new node) = child other node
  put_put : ∀ token first second node,
    put token second (put token first node) = put token second node
  put_child : ∀ {token node old}, child token node = some old → put token old node = node

variable {Token Node Other : Type}

def nodeAt (tree : Branching Token Node) : List Token → Node → Option Node
  | [], node => some node
  | token :: rest, node => (tree.child token node).bind (nodeAt tree rest)

def editAt (tree : Branching Token Node) (edit : Node → Node) : List Token → Node → Node
  | [], node => edit node
  | token :: rest, node =>
      match tree.child token node with
      | some inner => tree.put token (editAt tree edit rest inner) node
      | none => node

section Laws

variable (tree : Branching Token Node)

@[simp] theorem node_single (token : Token) (node : Node) :
    nodeAt tree [token] node = tree.child token node := by
  simp [nodeAt]

theorem node_append (front back : List Token) (node : Node) :
    nodeAt tree (front ++ back) node = (nodeAt tree front node).bind (nodeAt tree back) := by
  induction front generalizing node with
  | nil => rfl
  | cons token rest ih =>
      simp only [List.cons_append, nodeAt, Option.bind_assoc]
      exact Option.bind_congr (fun inner _ => ih inner)

theorem edit_append (edit : Node → Node) (front back : List Token) (node : Node) :
    editAt tree edit (front ++ back) node = editAt tree (editAt tree edit back) front node := by
  induction front generalizing node with
  | nil => rfl
  | cons token rest ih => simp only [List.cons_append, editAt, ih]

-- What is read at or below the edited path is read from the edited node.
theorem node_edit (edit : Node → Node) (path back : List Token) (node : Node) :
    nodeAt tree (path ++ back) (editAt tree edit path node) =
      (nodeAt tree path node).bind (fun inner => nodeAt tree back (edit inner)) := by
  induction path generalizing node with
  | nil => rfl
  | cons token rest ih =>
      simp only [List.cons_append, nodeAt, editAt]
      cases found : tree.child token node with
      | none => simp [found]
      | some inner =>
          simp only [tree.child_put _ found, Option.bind_some]
          exact ih inner

theorem node_edit_here (edit : Node → Node) (path : List Token) (node : Node) :
    nodeAt tree path (editAt tree edit path node) = (nodeAt tree path node).map edit := by
  have edited := node_edit tree edit path [] node
  rw [List.append_nil] at edited
  rw [edited, Option.map_eq_bind]
  rfl

theorem node_edit_above (edit : Node → Node) (path back : List Token) (node : Node) :
    nodeAt tree path (editAt tree edit (path ++ back) node) =
      (nodeAt tree path node).map (editAt tree edit back) := by
  induction path generalizing node with
  | nil => rfl
  | cons token rest ih =>
      simp only [List.cons_append, nodeAt, editAt]
      cases found : tree.child token node with
      | none => simp [found]
      | some inner =>
          simp only [tree.child_put _ found, Option.bind_some]
          exact ih inner

theorem node_edit_apart (edit : Node → Node) (front rest other : List Token)
    {token different : Token} (apart : token ≠ different) (node : Node) :
    nodeAt tree (front ++ different :: other) (editAt tree edit (front ++ token :: rest) node) =
      nodeAt tree (front ++ different :: other) node := by
  rw [node_append, node_edit_above, node_append]
  cases nodeAt tree front node with
  | none => rfl
  | some inner =>
      simp only [Option.map_some, Option.bind_some, nodeAt, editAt]
      cases tree.child token inner with
      | none => rfl
      | some old => simp only [tree.child_put_other _ _ apart]

theorem edit_edit (first second : Node → Node) (path : List Token) (node : Node) :
    editAt tree second path (editAt tree first path node) =
      editAt tree (fun inner => second (first inner)) path node := by
  induction path generalizing node with
  | nil => rfl
  | cons token rest ih =>
      simp only [editAt]
      cases found : tree.child token node with
      | none => simp [found]
      | some inner => simp only [tree.child_put _ found, tree.put_put, ih]

theorem edit_congr {first second : Node → Node} (path : List Token) (node : Node)
    (agree : ∀ inner, nodeAt tree path node = some inner → first inner = second inner) :
    editAt tree first path node = editAt tree second path node := by
  induction path generalizing node with
  | nil => exact agree node rfl
  | cons token rest ih =>
      simp only [editAt]
      cases found : tree.child token node with
      | none => rfl
      | some inner =>
          have below := ih inner (fun item reached => agree item (by simpa [nodeAt, found] using reached))
          simp only [below]

theorem edit_id (path : List Token) (node : Node) : editAt tree id path node = node := by
  induction path generalizing node with
  | nil => rfl
  | cons token rest ih =>
      simp only [editAt]
      cases found : tree.child token node with
      | none => rfl
      | some inner =>
          simp only [ih]
          exact tree.put_child found

theorem restore (edit : Node → Node) {path : List Token} {node old : Node}
    (reached : nodeAt tree path node = some old) :
    editAt tree (fun _ => old) path (editAt tree edit path node) = node := by
  rw [edit_edit]
  refine (edit_congr tree path node fun inner found => ?_).trans (edit_id tree path node)
  exact Option.some.inj (reached.symm.trans found)

-- Two nodes that read alike at a path and are alike after edits there were alike.
theorem edit_cancel (first second : Node → Node) {path : List Token} {left right old : Node}
    (leftReads : nodeAt tree path left = some old) (rightReads : nodeAt tree path right = some old)
    (same : editAt tree first path left = editAt tree second path right) : left = right := by
  rw [← restore tree first leftReads, same, restore tree second rightReads]

/-- A property of nodes that children inherit and that replacing a child keeps. -/
structure Hereditary (holds : Node → Prop) : Prop where
  child : ∀ {token node inner}, holds node → tree.child token node = some inner → holds inner
  put : ∀ {token node old new}, holds node → tree.child token node = some old → holds new →
    holds (tree.put token new node)

variable {tree} {holds : Node → Prop}

theorem hereditary_node (law : Hereditary tree holds) (path : List Token) (node inner : Node)
    (outer : holds node) (reached : nodeAt tree path node = some inner) : holds inner := by
  induction path generalizing node with
  | nil => exact Option.some.inj reached ▸ outer
  | cons token rest ih =>
      obtain ⟨next, found, later⟩ := Option.bind_eq_some_iff.mp reached
      exact ih next (law.child outer found) later

theorem hereditary_edit (law : Hereditary tree holds) (edit : Node → Node) (path : List Token)
    (node : Node) (outer : holds node)
    (edited : ∀ inner, nodeAt tree path node = some inner → holds (edit inner)) :
    holds (editAt tree edit path node) := by
  induction path generalizing node with
  | nil => exact edited node rfl
  | cons token rest ih =>
      simp only [editAt]
      cases found : tree.child token node with
      | none => exact outer
      | some inner =>
          apply law.put outer found
          apply ih inner (law.child outer found)
          exact fun item reached => edited item (by simpa [nodeAt, found] using reached)

-- A node that has the property after an edit of a part that had it, had it before.
theorem hereditary_restore (law : Hereditary tree holds) (edit : Node → Node) {path : List Token}
    {node old : Node} (reached : nodeAt tree path node = some old) (part : holds old)
    (after : holds (editAt tree edit path node)) : holds node := by
  rw [← restore tree edit reached]
  exact hereditary_edit law _ path _ after (fun _ _ => part)

end Laws

section Morphisms

variable {source : Branching Token Node} {target : Branching Token Other}

/-- A translation of nodes that respects children and their replacement. -/
structure Morphism (source : Branching Token Node) (target : Branching Token Other)
    (image : Node → Other) : Prop where
  child : ∀ token node, target.child token (image node) = (source.child token node).map image
  put : ∀ token new node, (source.child token node).isSome →
    image (source.put token new node) = target.put token (image new) (image node)

variable {image : Node → Other}

theorem image_node (child : ∀ token node,
    target.child token (image node) = (source.child token node).map image)
    (path : List Token) (node : Node) :
    nodeAt target path (image node) = (nodeAt source path node).map image := by
  induction path generalizing node with
  | nil => rfl
  | cons token rest ih =>
      simp only [nodeAt, child]
      cases source.child token node with
      | none => rfl
      | some inner => exact ih inner

theorem image_edit (law : Morphism source target image) {edit : Node → Node}
    {other : Other → Other} (path : List Token) (node : Node)
    (agree : ∀ inner, nodeAt source path node = some inner → image (edit inner) = other (image inner)) :
    image (editAt source edit path node) = editAt target other path (image node) := by
  induction path generalizing node with
  | nil => exact agree node rfl
  | cons token rest ih =>
      simp only [editAt, law.child]
      cases found : source.child token node with
      | none => rfl
      | some inner =>
          have below := ih inner (fun item reached => agree item (by simpa [nodeAt, found] using reached))
          rw [law.put token _ node (Option.isSome_of_eq_some found), below]
          rfl

end Morphisms

end Horseness.TreePaths
