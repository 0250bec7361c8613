import Mathlib.Data.List.Perm.Subperm
import DocHarvest.Proofs.Source.Within

/-!
# All nodes of a tree

`Node.nodes` lists the nodes of a tree, each before its children. The walk for nodes of some kinds
finds those of the list that are of these kinds (`ofKinds_eq`), and every node but the root is the
child of exactly one other (`nodes_perm`). A `Subperm` of the list takes no node more often than the
tree has it; so where the nodes have distinct places, it takes none twice.

`IsNumbered` : the nodes of a tree have distinct places, as those of every tree that is built from a
list have (`isNumbered_of_ofPreorder?`).
-/

namespace DocHarvest

namespace Node

mutual

/-- The nodes of a tree, each before its children. -/
def nodes : Node → List Node
  | mk label children => mk label children :: nodesOf children

/-- The nodes of several trees. -/
def nodesOf : List Node → List Node
  | [] => []
  | n :: ns => nodes n ++ nodesOf ns

end

theorem nodesOf_eq (ns : List Node) : nodesOf ns = ns.flatMap nodes := by
  induction ns with
  | nil => rfl
  | cons n ns ih => rw [nodesOf, ih, List.flatMap_cons]

theorem nodes_eq (n : Node) : n.nodes = n :: n.children.flatMap nodes := by
  cases n
  rw [nodes, nodesOf_eq, children]

/-- What holds of a tree if it holds of the trees of its children holds of every tree. -/
@[elab_as_elim]
theorem childInduction {motive : Node → Prop}
    (step : ∀ n, (∀ c ∈ n.children, motive c) → motive n) (n : Node) : motive n := by
  apply step
  intro c mem
  exact childInduction step c
termination_by sizeOf n
decreasing_by
  cases n with
  | mk label children =>
    have := List.sizeOf_lt_of_mem mem
    simp only [Node.children] at this
    simp only [Node.mk.sizeOf_spec]
    omega

/-! ## Membership -/

theorem self_mem_nodes (n : Node) : n ∈ n.nodes := by
  rw [nodes_eq]
  exact List.mem_cons_self

theorem sublist_flatMap_nodes (ns : List Node) : ns.Sublist (ns.flatMap nodes) := by
  induction ns with
  | nil => exact List.Sublist.refl _
  | cons n ns ih =>
    rw [List.flatMap_cons]
    exact (List.singleton_sublist.2 n.self_mem_nodes).append ih

/-- The nodes of a child are nodes of the tree. -/
theorem sublist_nodes_of_mem_children {n c : Node} (h : c ∈ n.children) :
    c.nodes.Sublist n.nodes := by
  rw [nodes_eq n, List.flatMap_def]
  exact (List.sublist_flatten_of_mem (List.mem_map_of_mem h)).cons n

theorem IsIn.nodes_sublist {n root : Node} (h : n.IsIn root) : n.nodes.Sublist root.nodes := by
  induction h with
  | refl => exact List.Sublist.refl _
  | child _ mem ih => exact (sublist_nodes_of_mem_children mem).trans ih

theorem mem_nodes {n root : Node} : n ∈ root.nodes ↔ n.IsIn root := by
  constructor
  · intro h
    induction root using childInduction with
    | step root ih =>
      rw [nodes_eq] at h
      rcases List.mem_cons.1 h with rfl | h
      · exact .refl n
      · obtain ⟨c, mem, h⟩ := List.mem_flatMap.1 h
        exact (ih c mem h).trans (isIn_of_mem_children mem)
  · intro h
    exact h.nodes_sublist.subset n.self_mem_nodes

/-! ## The walk for kinds -/

/-- A walk finds the nodes of these kinds in the trees that it still has to visit. -/
theorem findKinds_eq (kinds : List String) (pending : List Node) :
    findKinds kinds pending = (pending.flatMap nodes).filter (·.isNamedOf kinds) := by
  fun_induction findKinds kinds pending with
  | case1 => rfl
  | case2 n pending named ih =>
    rw [ih, List.flatMap_cons, nodes_eq, List.flatMap_append, List.cons_append,
      List.filter_cons_of_pos named]
  | case3 n pending other ih =>
    rw [ih, List.flatMap_cons, nodes_eq, List.flatMap_append, List.cons_append,
      List.filter_cons_of_neg (by simpa using other)]

theorem ofKinds_eq (n : Node) (kinds : List String) :
    n.ofKinds kinds = n.nodes.filter (·.isNamedOf kinds) := by
  rw [ofKinds, findKinds_eq, List.flatMap_singleton]

/-! ## Children of nodes -/

/-- Every node of a tree is its root or the child of exactly one node. -/
theorem nodes_perm (n : Node) : n.nodes.Perm (n :: n.nodes.flatMap children) := by
  induction n using childInduction with
  | step n ih =>
    have below : (n.children.flatMap nodes).Perm
        (n.children.flatMap fun c => c :: c.nodes.flatMap children) :=
      List.Perm.flatMap_left _ ih
    have apart : (n.children.flatMap fun c => c :: c.nodes.flatMap children).Perm
        (n.children ++ n.children.flatMap fun c => c.nodes.flatMap children) := by
      have perm := List.map_append_flatMap_perm n.children id fun c => c.nodes.flatMap children
      rw [List.map_id] at perm
      exact perm.symm
    rw [nodes_eq, List.flatMap_cons, List.flatMap_assoc]
    exact (below.trans apart).cons n

/-- The children of the root and the grandchildren of all nodes are nodes of the tree, each taken
once. -/
theorem subperm_children_append (n : Node) :
    (n.children ++ n.nodes.flatMap fun m => m.children.flatMap children).Subperm n.nodes := by
  have perm : (n.nodes.flatMap children).Perm
      (n.children ++ n.nodes.flatMap fun m => m.children.flatMap children) := by
    have twice := (nodes_perm n).flatMap_right children
    rwa [List.flatMap_cons, List.flatMap_assoc] at twice
  have rest : (n.nodes.flatMap children).Subperm n.nodes :=
    (List.sublist_cons_self n _).subperm.trans (nodes_perm n).symm.subperm
  exact perm.symm.subperm.trans rest

/-! ## Places -/

/-- The nodes of a tree have distinct places. -/
def IsNumbered (root : Node) : Prop := (root.nodes.map (·.label.place)).Nodup

/-- Trees that are built from a list have its labels, in its order. -/
theorem labels_forest (labels : List (Nat × NodeLabel)) :
    ((forest labels).flatMap fun tree => tree.2.nodes.map label) = labels.map Prod.snd := by
  induction labels with
  | nil => rfl
  | cons entry rest ih =>
    obtain ⟨depth, here⟩ := entry
    rw [forest, List.flatMap_cons, nodes_eq, List.map_cons, List.map_flatMap, List.map_cons, ← ih]
    simp only [children, label, List.flatMap_map, List.cons_append]
    rw [← List.flatMap_append, List.takeWhile_append_dropWhile]

theorem isNumbered_of_ofPreorder? {labels : List (Nat × NodeLabel)} {root : Node}
    (h : ofPreorder? labels = some root) (distinct : (labels.map (·.2.place)).Nodup) :
    root.IsNumbered := by
  obtain ⟨tree, first, rfl⟩ := Option.map_eq_some_iff.1 h
  obtain ⟨rest, trees⟩ := List.head?_eq_some_iff.1 first
  have all := labels_forest labels
  rw [trees, List.flatMap_cons] at all
  have front : (tree.2.nodes.map label).Sublist (labels.map Prod.snd) := by
    rw [← all]
    exact List.sublist_append_left _ _
  have places := front.map NodeLabel.place
  rw [List.map_map, List.map_map] at places
  exact distinct.sublist places

end Node

end DocHarvest
