import DocHarvest.Proofs.Source.Nodes
import Mathlib.Data.List.Flatten
import Mathlib.Data.List.Nodup
import Mathlib.Data.List.Pairwise

/-!
# Leaves of a tree

A leaf is a node without children or of an atomic kind that does not lie inside another node of an
atomic kind (`Node.IsLeafIn`). The walk over a tree finds the leaves (`mem_leaves`), each once, and
every node without children lies in exactly one of them (`existsUnique_leaf`).

`Node.IsNested` is what is known of the trees of a source apart from their points: children lie in
their parent and follow one another. Then the leaves follow one another too (`pairwise_leaves`), and
a piece of the source is cut into the texts of nodes that do (`isCutInto_of_pairwise`).
-/

namespace DocHarvest

open Text

namespace Node

/-- The node is in the tree, has no children or is of an atomic kind, and lies inside no other node
of the tree that is of an atomic kind. -/
structure IsLeafIn (leaf root : Node) (atomic : List String) : Prop where
  isIn : leaf.IsIn root
  ends : leaf.isOf atomic = true ∨ leaf.children = []
  topmost : ∀ above : Node, above.IsIn root → leaf.IsIn above → above.isOf atomic = true →
    above = leaf

/-! ## The walk over leaves -/

theorem leavesBelowAll_eq (atomic : List String) (ns : List Node) :
    leavesBelowAll atomic ns = ns.flatMap (leavesBelow atomic) := by
  induction ns with
  | nil => rfl
  | cons n ns ih => rw [leavesBelowAll, ih, List.flatMap_cons]

theorem leavesBelow_eq (atomic : List String) (n : Node) :
    leavesBelow atomic n =
      if n.isLeaf atomic then [n] else n.children.flatMap (leavesBelow atomic) := by
  cases n
  rw [leavesBelow, leavesBelowAll_eq, children]

/-- The walk finds the leaves of the trees that it still has to visit. -/
theorem leavesOf_eq (atomic : List String) (pending : List Node) :
    leavesOf atomic pending = pending.flatMap (leavesBelow atomic) := by
  fun_induction leavesOf atomic pending with
  | case1 => rfl
  | case2 n pending leaf ih => rw [ih, List.flatMap_cons, leavesBelow_eq, if_pos leaf]; rfl
  | case3 n pending inner ih =>
    rw [ih, List.flatMap_append, List.flatMap_cons, leavesBelow_eq, if_neg inner]

theorem leaves_eq (n : Node) (atomic : List String) :
    n.leaves atomic =
      if n.isLeaf atomic then [n] else n.children.flatMap (·.leaves atomic) := by
  have below : ∀ n : Node, n.leaves atomic = leavesBelow atomic n := fun n => by
    rw [leaves, leavesOf_eq, List.flatMap_singleton]
  simp only [below]
  exact leavesBelow_eq atomic n

theorem isLeaf_iff {atomic : List String} {n : Node} :
    n.isLeaf atomic = true ↔ n.isOf atomic = true ∨ n.children = [] := by
  rw [isLeaf, Bool.or_eq_true, List.isEmpty_iff]

theorem isLeaf_of_mem_leaves {atomic : List String} {root leaf : Node}
    (h : leaf ∈ root.leaves atomic) : leaf.isLeaf atomic = true := by
  induction root using childInduction with
  | step root ih =>
    rw [leaves_eq] at h
    split at h
    · next ends =>
      obtain rfl := List.mem_singleton.1 h
      exact ends
    · obtain ⟨c, mem, h⟩ := List.mem_flatMap.1 h
      exact ih c mem h

/-- No two leaves share a node. -/
theorem flatMap_leaves_sublist (root : Node) (atomic : List String) :
    ((root.leaves atomic).flatMap nodes).Sublist root.nodes := by
  induction root using childInduction with
  | step root ih =>
    rw [leaves_eq]
    split
    · rw [List.flatMap_singleton]
    · rw [List.flatMap_assoc, nodes_eq root]
      exact (List.Sublist.flatMap_right _ ih).cons root

theorem leaves_sublist (root : Node) (atomic : List String) :
    (root.leaves atomic).Sublist root.nodes :=
  (sublist_flatMap_nodes _).trans (flatMap_leaves_sublist root atomic)

/-- Every node without children lies in a leaf. -/
theorem exists_leaf (atomic : List String) {root n : Node} (h : n.IsIn root)
    (childless : n.children = []) : ∃ leaf ∈ root.leaves atomic, n.IsIn leaf := by
  induction root using childInduction with
  | step root ih =>
    rw [leaves_eq]
    split
    · exact ⟨root, List.mem_singleton_self root, h⟩
    · next inner =>
      rcases h.cases with rfl | ⟨c, mem, below⟩
      · exact absurd (isLeaf_iff.2 (.inr childless)) inner
      · obtain ⟨leaf, hl, inside⟩ := ih c mem below
        exact ⟨leaf, List.mem_flatMap.2 ⟨c, mem, hl⟩, inside⟩

/-! ## Trees with distinct nodes -/

theorem IsIn.antisymm {a b : Node} (h : a.IsIn b) (h' : b.IsIn a) : a = b := by
  have same := h.nodes_sublist.antisymm h'.nodes_sublist
  rw [nodes_eq a, nodes_eq b] at same
  exact (List.cons.inj same).1

/-- Of trees that share no node, a node is in one alone. -/
theorem eq_of_isIn {ns : List Node} (distinct : (ns.flatMap nodes).Nodup) {a b n : Node}
    (ha : a ∈ ns) (hb : b ∈ ns) (na : n.IsIn a) (nb : n.IsIn b) : a = b := by
  by_contra ne
  have symm : Std.Symm (Function.onFun List.Disjoint nodes) := ⟨fun _ _ h _ hb ha => h ha hb⟩
  exact (List.nodup_flatMap.1 distinct).2.forall ha hb ne (mem_nodes.2 na) (mem_nodes.2 nb)

namespace IsNumbered

variable {root n m : Node}

theorem nodup_nodes (numbered : root.IsNumbered) : root.nodes.Nodup :=
  List.Nodup.of_map _ numbered

theorem of_isIn (numbered : root.IsNumbered) (h : n.IsIn root) : n.IsNumbered :=
  (h.nodes_sublist.map _).nodup numbered

/-- A node above one that lies in a child is the parent or lies in that child too. -/
theorem cases_above (numbered : n.IsNumbered) {c above : Node} (mem : c ∈ n.children)
    (hm : m.IsIn c) (inside : above.IsIn n) (covers : m.IsIn above) : above = n ∨ above.IsIn c := by
  rcases inside.cases with rfl | ⟨d, mem', inside⟩
  · exact .inl rfl
  · have distinct := numbered.nodup_nodes
    rw [nodes_eq, List.nodup_cons] at distinct
    obtain rfl := eq_of_isIn distinct.2 mem mem' hm (covers.trans inside)
    exact .inr inside

/-- The place of a node says which node of the tree it is. -/
theorem eq_of_place_eq (numbered : root.IsNumbered) (hn : n.IsIn root) (hm : m.IsIn root)
    (same : n.label.place = m.label.place) : n = m :=
  List.inj_on_of_nodup_map numbered (mem_nodes.2 hn) (mem_nodes.2 hm) same

end IsNumbered

theorem mem_leaves {atomic : List String} {root leaf : Node} (numbered : root.IsNumbered) :
    leaf ∈ root.leaves atomic ↔ leaf.IsLeafIn root atomic := by
  constructor
  · intro h
    refine ⟨mem_nodes.1 ((leaves_sublist root atomic).subset h),
      isLeaf_iff.1 (isLeaf_of_mem_leaves h), fun above inside covers kind => ?_⟩
    induction root using childInduction with
    | step root ih =>
      rw [leaves_eq] at h
      split at h
      · obtain rfl := List.mem_singleton.1 h
        exact inside.antisymm covers
      · next inner =>
        obtain ⟨c, mem, h⟩ := List.mem_flatMap.1 h
        have below : leaf.IsIn c := mem_nodes.1 ((leaves_sublist c atomic).subset h)
        rcases numbered.cases_above mem below inside covers with rfl | inside
        · exact absurd (isLeaf_iff.2 (.inl kind)) inner
        · exact ih c mem (numbered.of_isIn (isIn_of_mem_children mem)) h inside
  · intro h
    induction root using childInduction with
    | step root ih =>
      rw [leaves_eq]
      split
      · next ends =>
        rcases isLeaf_iff.1 ends with kind | childless
        · exact List.mem_singleton.2 (h.topmost root (.refl root) h.isIn kind).symm
        · rcases h.isIn.cases with rfl | ⟨c, mem, -⟩
          · exact List.mem_singleton_self leaf
          · rw [childless] at mem
            exact absurd mem List.not_mem_nil
      · next inner =>
        rcases h.isIn.cases with rfl | ⟨c, mem, below⟩
        · exact absurd (isLeaf_iff.2 h.ends) inner
        · refine List.mem_flatMap.2 ⟨c, mem, ih c mem
            (numbered.of_isIn (isIn_of_mem_children mem)) ⟨below, h.ends, ?_⟩⟩
          exact fun above inside => h.topmost above (inside.trans (isIn_of_mem_children mem))

/-- Every node without children lies in exactly one leaf. -/
theorem existsUnique_leaf (atomic : List String) {root n : Node} (numbered : root.IsNumbered)
    (h : n.IsIn root) (childless : n.children = []) :
    ∃! leaf : Node, leaf.IsLeafIn root atomic ∧ n.IsIn leaf := by
  obtain ⟨leaf, mem, inside⟩ := exists_leaf atomic h childless
  refine ⟨leaf, ⟨(mem_leaves numbered).1 mem, inside⟩, fun other ⟨top, inside'⟩ => ?_⟩
  have distinct := (flatMap_leaves_sublist root atomic).nodup numbered.nodup_nodes
  exact eq_of_isIn distinct ((mem_leaves numbered).2 top) mem inside' inside

/-! ## Trees of a source -/

/-- The tree is placed in the source with all offsets between characters, and the children of a node
lie inside it, one behind the other. -/
structure IsNested (source : Text) (root : Node) : Prop extends root.IsPlaced source where
  between : ∀ {n : Node}, n.IsIn root → (byteTake? source n.label.startByte).isSome = true ∧
    (byteTake? source n.label.endByte).isSome = true
  inside : ∀ {n c : Node}, n.IsIn root → c ∈ n.children →
    n.label.startByte ≤ c.label.startByte ∧ c.label.endByte ≤ n.label.endByte
  apart : ∀ {n : Node}, n.IsIn root →
    n.children.Pairwise fun a b => a.label.endByte ≤ b.label.startByte

theorem IsNested.of_every {source : Text} {root : Node} (placed : root.IsPlaced source)
    (h : root.every (fun n => (byteTake? source n.label.startByte).isSome &&
      (byteTake? source n.label.endByte).isSome &&
      (n.children.all fun c => decide (n.label.startByte ≤ c.label.startByte) &&
        decide (c.label.endByte ≤ n.label.endByte)) &&
      decide (n.children.Pairwise fun a b => a.label.endByte ≤ b.label.startByte)) = true) :
    root.IsNested source := by
  have each {n : Node} (hn : n.IsIn root) := Node.of_every h hn
  simp only [Bool.and_eq_true, decide_eq_true_eq, List.all_eq_true] at each
  exact {
    toIsPlaced := placed
    between := fun hn => (each hn).1.1
    inside := fun hn hc => (each hn).1.2 _ hc
    apart := fun hn => (each hn).2 }

namespace IsNested

variable {source : Text} {root n m : Node}

theorem inside_of_isIn (nested : root.IsNested source) (hm : m.IsIn root) (h : n.IsIn m) :
    m.label.startByte ≤ n.label.startByte ∧ n.label.endByte ≤ m.label.endByte := by
  induction h with
  | refl => exact ⟨Nat.le_refl _, Nat.le_refl _⟩
  | child inner mem ih =>
    have step := nested.inside (inner.trans hm) mem
    exact ⟨Nat.le_trans (ih hm).1 step.1, Nat.le_trans step.2 (ih hm).2⟩

/-- The leaves of a node follow one another in the source. -/
theorem pairwise_leaves (nested : root.IsNested source) (atomic : List String)
    (hn : n.IsIn root) :
    (n.leaves atomic).Pairwise fun a b => a.label.endByte ≤ b.label.startByte := by
  induction n using childInduction with
  | step n ih =>
    rw [leaves_eq]
    split
    · exact List.pairwise_singleton _ _
    · have child : ∀ {c}, c ∈ n.children → c.IsIn root := fun mem => .child hn mem
      have within : ∀ {c leaf : Node}, c ∈ n.children → leaf ∈ c.leaves atomic →
          c.label.startByte ≤ leaf.label.startByte ∧ leaf.label.endByte ≤ c.label.endByte :=
        fun mem hl => nested.inside_of_isIn (child mem)
          (mem_nodes.1 ((leaves_sublist _ atomic).subset hl))
      refine List.pairwise_flatMap.2 ⟨fun c mem => ih c mem (child mem), ?_⟩
      refine (nested.apart hn).imp_of_mem fun {a b} ha hb le x hx y hy => ?_
      have front := (within ha hx).2
      have behind := (within hb hy).1
      omega

/-- The text of a node is the piece of the source between its offsets. -/
theorem byteSlice?_text (nested : root.IsNested source) (hn : n.IsIn root) :
    byteSlice? source n.label.startByte n.label.endByte = some (n.text (.ofText source)) := by
  obtain ⟨piece, slice, resolved⟩ := SourceLines.resolve?_eq_byteSlice? (nested.ordered hn)
    (Point.at?_eq_ofOffset (nested.between hn).1) (Point.at?_eq_ofOffset (nested.between hn).2)
  rw [← nested.start hn, ← nested.stop hn] at resolved
  rw [slice, text, span, SourceLines.resolve, resolved, Option.getD_some]

end IsNested

end Node

/-! ## Pieces of a source -/

/-- A slice inside another one, and what follows it there. -/
theorem Text.byteSlice?_inside {source piece inner : Text} {start stop a b : Nat}
    (h : byteSlice? source start stop = some piece) (h' : byteSlice? source a b = some inner)
    (le : start ≤ a) (le' : b ≤ stop) :
    ∃ gap rest, piece = gap ++ inner ++ rest ∧ byteLength gap = a - start ∧
      byteSlice? source b stop = some rest := by
  obtain ⟨lead, behind, rfl, rfl, rfl⟩ := byteSlice?_eq_some.1 h
  obtain ⟨lead', behind', e, rfl, rfl⟩ := byteSlice?_eq_some.1 h'
  have take : ∀ {x y : Text}, byteTake? (x ++ y) (byteLength x) = some x :=
    fun {x y} => byteTake?_eq_some.2 ⟨y, rfl, rfl⟩
  have whole : byteTake? (lead ++ piece ++ behind) (byteLength (lead ++ piece)) =
      some (lead ++ piece) := take
  have upTo : byteTake? (lead ++ piece ++ behind) (byteLength lead) = some lead := by
    rw [List.append_assoc]
    exact take
  have start' : byteTake? (lead ++ piece ++ behind) (byteLength lead') = some lead' := by
    rw [e, List.append_assoc]
    exact take
  have stop' : byteTake? (lead ++ piece ++ behind) (byteLength (lead' ++ inner)) =
      some (lead' ++ inner) := by
    rw [e]
    exact take
  obtain ⟨gap, -, -, rfl, -⟩ := byteSlice?_of_le upTo start' le
  obtain ⟨rest, -, -, last, slice⟩ := byteSlice?_of_le stop' whole le'
  refine ⟨gap, rest, ?_, by simp, slice⟩
  simpa using last

/-- A slice inside another one is a slice of it. -/
theorem Text.byteSlice?_relative {source piece inner : Text} {start stop a b : Nat}
    (h : byteSlice? source start stop = some piece) (h' : byteSlice? source a b = some inner)
    (le : start ≤ a) (le' : b ≤ stop) : byteSlice? piece (a - start) (b - start) = some inner := by
  obtain ⟨gap, rest, rfl, length, -⟩ := byteSlice?_inside h h' le le'
  obtain ⟨lead, -, -, rfl, rfl⟩ := byteSlice?_eq_some.1 h'
  refine byteSlice?_eq_some.2 ⟨gap, rest, rfl, length, ?_⟩
  rw [byteLength_append, byteLength_append, length]
  omega

/-- The text is these pieces in their order, with other text before, between and behind them. -/
def Text.IsCutInto (t : Text) (pieces : List Text) : Prop :=
  ∃ gap gaps, gaps.length = pieces.length ∧
    t = gap ++ (List.zipWith (· ++ ·) pieces gaps).flatten

/-- A slice is cut into the texts of nodes that lie in it one behind the other. -/
theorem Text.isCutInto_of_pairwise {source piece : Text} {start stop : Nat} {text : Node → Text}
    {ns : List Node} (h : byteSlice? source start stop = some piece)
    (texts : ∀ n ∈ ns, byteSlice? source n.label.startByte n.label.endByte = some (text n))
    (inside : ∀ n ∈ ns, start ≤ n.label.startByte ∧ n.label.endByte ≤ stop)
    (apart : ns.Pairwise fun a b => a.label.endByte ≤ b.label.startByte) :
    IsCutInto piece (ns.map text) := by
  induction ns generalizing start piece with
  | nil => exact ⟨piece, [], rfl, by simp⟩
  | cons n ns ih =>
    obtain ⟨before, apart⟩ := List.pairwise_cons.1 apart
    simp only [List.forall_mem_cons] at texts inside
    obtain ⟨gap, rest, rfl, -, slice⟩ :=
      byteSlice?_inside h texts.1 inside.1.1 inside.1.2
    obtain ⟨next, gaps, length, rfl⟩ := ih slice texts.2
      (fun m hm => ⟨before m hm, (inside.2 m hm).2⟩) apart
    exact ⟨gap, next :: gaps, by simpa using length, by simp⟩

end DocHarvest
