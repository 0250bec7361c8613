import DocHarvest.Proofs.Source.Leaves

/-!
# What the walks find, and where

A path leads from the root of a tree to one of its nodes (`Node.at?`): it holds the numbers of the
children to go to. In the lexicographic order of paths a node comes before the nodes below it, and
these come child by child; that is the order of a walk in preorder.

`Node.AreAllAt` : nodes are those at all paths with some property, each once and in this order
`areAllAt_leaves_and_ofKinds` : the walk for leaves and the walk for kinds give what the recursions
over the tree give, which is all that they look for. Both walks end on every tree, since the trees
that are still to visit have fewer nodes after each step.
-/

namespace DocHarvest

namespace Node

variable {root c n : Node} {i : Nat} {path : List Nat}

/-! ## Paths -/

/-- The node that a path leads to, from the numbers of the children on the way. -/
def at? (n : Node) : List Nat → Option Node
  | [] => some n
  | i :: path => n.children[i]?.bind (·.at? path)

/-- All nodes that a path goes through before its end have a property. -/
def AllAbove (root : Node) (p : Node → Prop) (path : List Nat) : Prop :=
  ∀ above i below n, path = above ++ i :: below → root.at? above = some n → p n

/-- The nodes stand at the paths with a property, each once, and the paths are in order. -/
def AreAllAt (root : Node) (p : List Nat → Node → Prop) (ns : List Node) : Prop :=
  ∃ paths : List (List Nat), paths.Pairwise (List.Lex (· < ·)) ∧
    paths.map root.at? = ns.map some ∧
    ∀ path, path ∈ paths ↔ ∃ n, root.at? path = some n ∧ p path n

theorem at?_cons (child : root.children[i]? = some c) (path : List Nat) :
    root.at? (i :: path) = c.at? path := by
  rw [at?, child, Option.bind_some]

theorem at?_cons_eq_some :
    root.at? (i :: path) = some n ↔ ∃ c, root.children[i]? = some c ∧ c.at? path = some n := by
  rw [at?, Option.bind_eq_some_iff]

theorem allAbove_nil (root : Node) (p : Node → Prop) : root.AllAbove p [] := by
  intro above i below n split
  exact absurd split (by simp)

theorem allAbove_cons {p : Node → Prop} (child : root.children[i]? = some c) :
    root.AllAbove p (i :: path) ↔ p root ∧ c.AllAbove p path := by
  constructor
  · intro h
    refine ⟨h [] i path root rfl rfl, fun above j below n split found => ?_⟩
    exact h (i :: above) j below n (by rw [split]; rfl) ((at?_cons child above).trans found)
  · rintro ⟨here, rest⟩ above j below n split found
    cases above with
    | nil => exact Option.some.inj found ▸ here
    | cons k above =>
      obtain ⟨rfl, tails⟩ := List.cons.inj split
      exact rest above j below n tails ((at?_cons child above).symm.trans found)

/-! ## The paths of a walk -/

/-- The paths to the nodes below several children, from the paths within each child. -/
def pathsBelow (paths : Node → List (List Nat)) (ns : List Node) : List (List Nat) :=
  ns.zipIdx.flatMap fun child => (paths child.1).map (child.2 :: ·)

theorem nil_not_mem_pathsBelow {paths : Node → List (List Nat)} {ns : List Node} :
    [] ∉ pathsBelow paths ns := by
  simp [pathsBelow]

theorem cons_mem_pathsBelow {paths : Node → List (List Nat)} {ns : List Node} :
    i :: path ∈ pathsBelow paths ns ↔ ∃ c, ns[i]? = some c ∧ path ∈ paths c := by
  simp only [pathsBelow, List.mem_flatMap, List.mem_map, Prod.exists,
    List.mem_zipIdx_iff_getElem?, List.cons.injEq]
  constructor
  · rintro ⟨c, j, child, rest, mem, rfl, rfl⟩
    exact ⟨c, child, mem⟩
  · rintro ⟨c, child, mem⟩
    exact ⟨c, i, child, path, mem, rfl, rfl⟩

/-- The paths are in order within each child, and by the numbers of the children. -/
theorem pairwise_pathsBelow {paths : Node → List (List Nat)} {ns : List Node}
    (each : ∀ c ∈ ns, (paths c).Pairwise (List.Lex (· < ·))) :
    (pathsBelow paths ns).Pairwise (List.Lex (· < ·)) := by
  refine List.pairwise_flatMap.2 ⟨fun child mem => ?_, ?_⟩
  · have inside := each child.1 (List.fst_mem_of_mem_zipIdx mem)
    exact List.pairwise_map.2 (inside.imp .cons)
  · have numbers : (ns.zipIdx.map Prod.snd).Pairwise (· < ·) := by
      rw [List.zipIdx_map_snd]
      exact List.pairwise_lt_range'
    refine (List.pairwise_map.1 numbers).imp fun {a b} lt p hp q hq => ?_
    obtain ⟨p, -, rfl⟩ := List.mem_map.1 hp
    obtain ⟨q, -, rfl⟩ := List.mem_map.1 hq
    exact .rel lt

theorem map_at?_pathsBelow {paths : Node → List (List Nat)} {walk : Node → List Node}
    (each : ∀ c ∈ root.children, (paths c).map c.at? = (walk c).map some) :
    (pathsBelow paths root.children).map root.at? = (root.children.flatMap walk).map some := by
  have child : ∀ a ∈ root.children.zipIdx,
      ((paths a.1).map (a.2 :: ·)).map root.at? = (walk a.1).map some := by
    intro a mem
    rw [List.map_map, ← each a.1 (List.fst_mem_of_mem_zipIdx mem)]
    exact List.map_congr_left fun path _ => at?_cons (List.mem_zipIdx_iff_getElem?.1 mem) path
  rw [pathsBelow, List.map_flatMap, List.flatMap_congr child, List.map_flatMap]
  conv => rhs; rw [← List.zipIdx_map_fst 0 root.children, List.flatMap_map]

/-- The paths to what a walk finds at a node and below it. -/
def walkPaths (taken on : Bool) (below : List (List Nat)) : List (List Nat) :=
  (if taken then [[]] else []) ++ if on then below else []

section

variable {taken on : Bool} {below : List (List Nat)}

theorem nil_mem_walkPaths (h : [] ∉ below) : [] ∈ walkPaths taken on below ↔ taken = true := by
  cases taken <;> cases on <;> simp [walkPaths, h]

theorem cons_mem_walkPaths :
    i :: path ∈ walkPaths taken on below ↔ on = true ∧ i :: path ∈ below := by
  cases taken <;> cases on <;> simp [walkPaths]

theorem pairwise_walkPaths (h : [] ∉ below) (sorted : below.Pairwise (List.Lex (· < ·))) :
    (walkPaths taken on below).Pairwise (List.Lex (· < ·)) := by
  refine List.pairwise_append.2 ⟨by split <;> simp, ?_, fun p hp q hq => ?_⟩
  · split
    · exact sorted
    · exact .nil
  · -- the path to the node itself leads every path below it
    cases p with
    | cons i p => simp at hp
    | nil =>
      cases q with
      | nil => cases on <;> simp_all
      | cons i q => exact .nil

end

/-- A walk that takes a node or not, and then walks its children or not, finds all nodes that it
takes if it walks on at every node above. -/
theorem areAllAt_of_walk {takes descends : Node → Bool} {walk : Node → List Node}
    (step : ∀ n, walk n = (if takes n then [n] else []) ++
      if descends n then n.children.flatMap walk else []) (root : Node) :
    root.AreAllAt (fun path n => takes n = true ∧ root.AllAbove (descends · = true) path)
      (walk root) := by
  induction root using childInduction with
  | step root ih =>
    choose! paths sorted found mem using ih
    refine ⟨walkPaths (takes root) (descends root) (pathsBelow paths root.children),
      pairwise_walkPaths nil_not_mem_pathsBelow (pairwise_pathsBelow sorted), ?_, fun path => ?_⟩
    · rw [step, walkPaths, List.map_append, List.map_append]
      congr 1
      · split <;> rfl
      · split
        · exact map_at?_pathsBelow found
        · rfl
    · cases path with
      | nil =>
        rw [nil_mem_walkPaths nil_not_mem_pathsBelow]
        constructor
        · exact fun taken => ⟨root, rfl, taken, allAbove_nil root _⟩
        · rintro ⟨n, here, taken, -⟩
          exact Option.some.inj here ▸ taken
      | cons i path =>
        rw [cons_mem_walkPaths, cons_mem_pathsBelow]
        constructor
        · rintro ⟨on, c, child, inside⟩
          obtain ⟨n, leads, taken, above⟩ := (mem c (List.mem_of_getElem? child) path).1 inside
          exact ⟨n, (at?_cons child path).trans leads, taken, (allAbove_cons child).2 ⟨on, above⟩⟩
        · rintro ⟨n, leads, taken, above⟩
          obtain ⟨c, child, leads⟩ := at?_cons_eq_some.1 leads
          obtain ⟨on, above⟩ := (allAbove_cons child).1 above
          exact ⟨on, c, child, (mem c (List.mem_of_getElem? child) path).2 ⟨n, leads, taken, above⟩⟩

theorem AreAllAt.congr {p q : List Nat → Node → Prop} {ns : List Node} (h : root.AreAllAt p ns)
    (same : ∀ path n, root.at? path = some n → (p path n ↔ q path n)) : root.AreAllAt q ns := by
  obtain ⟨paths, sorted, found, mem⟩ := h
  refine ⟨paths, sorted, found, fun path => (mem path).trans ?_⟩
  exact exists_congr fun n => and_congr_right fun leads => same path n leads

/-! ## Leaves -/

/-- A node above another one has children. -/
theorem children_ne_nil_of_at? (leads : root.at? path = some n) :
    root.AllAbove (·.children ≠ []) path := by
  induction path generalizing root with
  | nil => exact allAbove_nil root _
  | cons i path ih =>
    obtain ⟨c, child, leads⟩ := at?_cons_eq_some.1 leads
    refine (allAbove_cons child).2 ⟨?_, ih leads⟩
    exact List.ne_nil_of_mem (List.mem_of_getElem? child)

theorem leaves_eq_leavesBelow (n : Node) (atomic : List String) :
    n.leaves atomic = leavesBelow atomic n := by
  rw [leaves, leavesOf_eq, List.flatMap_singleton]

theorem isOf_iff {kinds : List String} : n.isOf kinds = true ↔ n.kind ∈ kinds :=
  List.contains_iff_mem

/-- The leaves stand where a node is of an atomic kind or has no children, and no node above it is of
an atomic kind. -/
theorem areAllAt_leaves (root : Node) (atomic : List String) :
    root.AreAllAt (fun path n => (n.kind ∈ atomic ∨ n.children = []) ∧
      root.AllAbove (·.kind ∉ atomic) path) (root.leaves atomic) := by
  have step : ∀ n : Node, n.leaves atomic = (if n.isLeaf atomic then [n] else []) ++
      if !n.isLeaf atomic then n.children.flatMap (·.leaves atomic) else [] := by
    intro n
    rw [leaves_eq]
    cases n.isLeaf atomic <;> simp
  have ends : ∀ n : Node, n.isLeaf atomic = true ↔ n.kind ∈ atomic ∨ n.children = [] := fun n => by
    rw [isLeaf_iff, isOf_iff]
  have on : ∀ n : Node, (!n.isLeaf atomic) = true ↔ n.kind ∉ atomic ∧ n.children ≠ [] := fun n => by
    rw [Bool.not_eq_true', ← Bool.not_eq_true, ends, not_or]
  refine (areAllAt_of_walk step root).congr fun path n leads => and_congr (ends n) ?_
  constructor
  · intro h above i below m split here
    exact ((on m).1 (h above i below m split here)).1
  · intro h above i below m split here
    refine (on m).2 ⟨h above i below m split here, ?_⟩
    exact children_ne_nil_of_at? leads above i below m split here

/-! ## Nodes of some kinds -/

theorem ofKindsBelowAll_eq (kinds : List String) (ns : List Node) :
    ofKindsBelowAll kinds ns = ns.flatMap (ofKindsBelow kinds) := by
  induction ns with
  | nil => rfl
  | cons n ns ih => rw [ofKindsBelowAll, ih, List.flatMap_cons]

/-- The node itself, if it is of the kinds, and then those below its children. -/
theorem ofKindsBelow_eq (kinds : List String) (n : Node) :
    ofKindsBelow kinds n = (if n.isNamedOf kinds then [n] else []) ++
      n.children.flatMap (ofKindsBelow kinds) := by
  cases n
  rw [ofKindsBelow, ofKindsBelowAll_eq, children]
  split <;> rfl

theorem ofKinds_eq_ofKindsBelow (n : Node) (kinds : List String) :
    n.ofKinds kinds = ofKindsBelow kinds n := by
  rw [ofKinds_eq]
  induction n using childInduction with
  | step n ih =>
    rw [ofKindsBelow_eq, nodes_eq, List.filter_cons, List.filter_flatMap, List.flatMap_congr ih]
    split <;> rfl

theorem areAllAt_ofKinds (root : Node) (kinds : List String) :
    root.AreAllAt (fun _ n => n.named = true ∧ n.kind ∈ kinds) (root.ofKinds kinds) := by
  have step : ∀ n : Node, n.ofKinds kinds = (if n.isNamedOf kinds then [n] else []) ++
      if true then n.children.flatMap (·.ofKinds kinds) else [] := by
    intro n
    simp only [ofKinds_eq_ofKindsBelow]
    exact ofKindsBelow_eq kinds n
  have found := @areAllAt_of_walk (·.isNamedOf kinds) (fun _ => true) (·.ofKinds kinds) step root
  refine found.congr fun path n _ => ?_
  rw [isNamedOf, Bool.and_eq_true, isOf_iff]
  exact and_iff_left fun _ _ _ _ _ _ => rfl

/-! ## Both walks -/

/-- The walk for leaves finds what the recursion over the tree does: each once and in order, the
nodes that are of an atomic kind or have no children and lie below no node of an atomic kind. So
does the walk for kinds with the named nodes of these kinds, wherever they lie. -/
theorem areAllAt_leaves_and_ofKinds (root : Node) (atomic kinds : List String) :
    (root.leaves atomic = leavesBelow atomic root ∧
      root.AreAllAt (fun path n => (n.kind ∈ atomic ∨ n.children = []) ∧
        root.AllAbove (·.kind ∉ atomic) path) (root.leaves atomic)) ∧
    root.ofKinds kinds = ofKindsBelow kinds root ∧
      root.AreAllAt (fun _ n => n.named = true ∧ n.kind ∈ kinds) (root.ofKinds kinds) :=
  ⟨⟨leaves_eq_leavesBelow root atomic, areAllAt_leaves root atomic⟩,
    ofKinds_eq_ofKindsBelow root kinds, areAllAt_ofKinds root kinds⟩

end Node

end DocHarvest
