import DocHarvest.Source.Span

/-!
# Syntax trees

A `Node` of a syntax tree has a kind, a stretch of the source, perhaps the name of a field of its
parent, and children in order. Trees are given as the list of their nodes, each before its children;
`Node.ofPreorder?` builds the tree, and the place of a node in that list is its identity.

`Node.leaves` and `Node.ofKinds` walk a tree with a list of the nodes still to visit;
`Node.leavesBelow` and `Node.ofKindsBelow` say by recursion on the tree what they find.
-/

namespace DocHarvest

open Text

/-- What is known of a node apart from its children. -/
structure NodeLabel where
  kind : String
  /-- Whether the grammar names this kind of node; other nodes are keywords and punctuation. -/
  named : Bool
  startByte : Nat
  endByte : Nat
  start : Point
  stop : Point
  /-- The field of the parent that the node fills. -/
  field : Option String
  /-- The place of the node in the list of all nodes. -/
  place : Nat
deriving DecidableEq

/-- A node of a syntax tree. -/
inductive Node where
  | mk (label : NodeLabel) (children : List Node)

namespace Node

/-- What is known of the node apart from its children. -/
def label : Node → NodeLabel
  | mk label _ => label

/-- The children, in order. -/
def children : Node → List Node
  | mk _ children => children

def kind (n : Node) : String := n.label.kind

def named (n : Node) : Bool := n.label.named

/-- The stretch of the source that the node covers. -/
def span (n : Node) : Span := ⟨n.label.start, n.label.stop⟩

def isOf (n : Node) (kinds : List String) : Bool := kinds.contains n.kind

/-- The child that fills a field. -/
def child? (n : Node) (field : String) : Option Node :=
  n.children.find? fun child => child.label.field = some field

/-- The first child of one of these kinds. -/
def childOf? (n : Node) (kinds : List String) : Option Node := n.children.find? (·.isOf kinds)

/-- The children whose kind the grammar names. -/
def namedChildren (n : Node) : List Node := n.children.filter named

/-- The text that the node covers. -/
def text (n : Node) (source : SourceLines) : Text := source.resolve n.span

/-- The text of the child that fills a field; empty if there is none. -/
def fieldText (n : Node) (field : String) (source : SourceLines) : Text :=
  ((n.child? field).map (·.text source)).getD []

/-! ## Trees from lists of nodes -/

/-- The trees in a list of nodes in preorder, each with its depth. The children of a node are the
trees that follow it at a greater depth. -/
def forest : List (Nat × NodeLabel) → List (Nat × Node)
  | [] => []
  | (depth, label) :: rest =>
    let trees := forest rest
    let isBelow := fun (tree : Nat × Node) => decide (depth < tree.1)
    (depth, mk label ((trees.takeWhile isBelow).map Prod.snd)) :: trees.dropWhile isBelow

/-- The tree that a list of nodes in preorder describes. -/
def ofPreorder? (labels : List (Nat × NodeLabel)) : Option Node :=
  (forest labels).head?.map Prod.snd

/-! ## Walks -/

mutual

/-- The number of nodes of a tree. -/
def size : Node → Nat
  | mk _ children => sizeAll children + 1

/-- The number of nodes of several trees. -/
def sizeAll : List Node → Nat
  | [] => 0
  | n :: ns => n.size + sizeAll ns

end

theorem sizeAll_append (a b : List Node) : sizeAll (a ++ b) = sizeAll a + sizeAll b := by
  induction a with
  | nil => simp [sizeAll]
  | cons n a ih => simp [sizeAll, ih, Nat.add_assoc]

theorem size_eq (n : Node) : n.size = sizeAll n.children + 1 := by
  cases n
  simp [size, children]

/-- Whether a walk over leaves stops at the node: it has no children or is of an atomic kind. -/
def isLeaf (atomic : List String) (n : Node) : Bool := n.isOf atomic || n.children.isEmpty

def leavesOf (atomic : List String) : List Node → List Node
  | [] => []
  | n :: pending =>
    if n.isLeaf atomic then n :: leavesOf atomic pending
    else leavesOf atomic (n.children ++ pending)
termination_by pending => sizeAll pending
decreasing_by
  · rw [sizeAll, size_eq]; omega
  · rw [sizeAll_append, sizeAll, size_eq]; omega

/-- The leaves of a tree in order, where nodes of the atomic kinds count as leaves. -/
def leaves (n : Node) (atomic : List String) : List Node := leavesOf atomic [n]

/-- Whether the node is one that the grammar names, of one of these kinds. -/
def isNamedOf (kinds : List String) (n : Node) : Bool := n.named && n.isOf kinds

/-- The named nodes of these kinds below the nodes still to visit. -/
def findKinds (kinds : List String) : List Node → List Node
  | [] => []
  | n :: pending =>
    if n.isNamedOf kinds then n :: findKinds kinds (n.children ++ pending)
    else findKinds kinds (n.children ++ pending)
termination_by pending => sizeAll pending
decreasing_by
  all_goals rw [sizeAll_append, sizeAll, size_eq]; omega

/-- The named nodes of a tree, itself included, that are of one of these kinds. A node may lie inside
another one. -/
def ofKinds (n : Node) (kinds : List String) : List Node := findKinds kinds [n]

mutual

/-- The leaves of a tree, by recursion. -/
def leavesBelow (atomic : List String) : Node → List Node
  | mk label children =>
    if (mk label children).isLeaf atomic then [mk label children]
    else leavesBelowAll atomic children

/-- The leaves of several trees, by recursion. -/
def leavesBelowAll (atomic : List String) : List Node → List Node
  | [] => []
  | n :: ns => leavesBelow atomic n ++ leavesBelowAll atomic ns

end

mutual

/-- The named nodes of these kinds in a tree, by recursion. -/
def ofKindsBelow (kinds : List String) : Node → List Node
  | mk label children =>
    if (mk label children).isNamedOf kinds then
      mk label children :: ofKindsBelowAll kinds children
    else ofKindsBelowAll kinds children

/-- The named nodes of these kinds in several trees, by recursion. -/
def ofKindsBelowAll (kinds : List String) : List Node → List Node
  | [] => []
  | n :: ns => ofKindsBelow kinds n ++ ofKindsBelowAll kinds ns

end

/-- The texts of the leaves of a tree, without the excluded nodes. -/
def tokens (n : Node) (source : SourceLines) (atomic : List String) (excluded : List Node) :
    List Text :=
  ((n.leaves atomic).filter fun leaf =>
    !excluded.any (·.label.place = leaf.label.place)).map (·.text source)

end Node

end DocHarvest
