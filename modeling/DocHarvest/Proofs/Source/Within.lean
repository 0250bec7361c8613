import DocHarvest.Source.Site
import DocHarvest.Proofs.Source.Slices

/-!
# Nodes within a tree

`n.IsIn root`: the node `n` is `root`, or a child of a node in it. What the walks and the look-ups
find in a tree is in it, and so are the definitions of its containers
(`isIn_of_mem_ofKinds`, `exists_of_mem_definitionsIn`). `Node.every` tests all nodes of a tree
(`Node.of_every`). `IsPlaced` is what is known of the trees of
a source: a node ends behind its start, and its points are those of its offsets; so its points are
in order too (`IsPlaced.le`).
-/

namespace DocHarvest

open Text

/-- A node is in a tree: its root, or a child of one in it. -/
inductive Node.IsIn : Node → Node → Prop
  | refl (n : Node) : IsIn n n
  | child {n root c : Node} : IsIn n root → c ∈ n.children → IsIn c root

namespace Node

theorem IsIn.trans {a b c : Node} (h : a.IsIn b) (h' : b.IsIn c) : a.IsIn c := by
  induction h with
  | refl => exact h'
  | child _ mem ih => exact .child (ih h') mem

theorem isIn_of_mem_children {n c : Node} (h : c ∈ n.children) : c.IsIn n := .child (.refl n) h

theorem IsIn.cases {n root : Node} (h : n.IsIn root) :
    n = root ∨ ∃ c ∈ root.children, n.IsIn c := by
  induction h with
  | refl => exact .inl rfl
  | child _ mem ih =>
    rcases ih with rfl | ⟨c, hc, inside⟩
    · exact .inr ⟨_, mem, .refl _⟩
    · exact .inr ⟨c, hc, .child inside mem⟩

theorem isIn_of_child? {n c : Node} {field : String} (h : n.child? field = some c) : c.IsIn n :=
  isIn_of_mem_children (List.mem_of_find?_eq_some h)

theorem isIn_of_mem_findKinds {kinds : List String} {pending : List Node} {n : Node}
    (h : n ∈ findKinds kinds pending) : ∃ m ∈ pending, n.IsIn m := by
  -- a node found among the children of a visited node is in that node
  have lift : ∀ {m : Node} {pending : List Node},
      (∃ k ∈ m.children ++ pending, n.IsIn k) → ∃ k ∈ m :: pending, n.IsIn k := by
    rintro m pending ⟨k, hk, hn⟩
    rcases List.mem_append.1 hk with hk | hk
    · exact ⟨m, List.mem_cons_self, hn.trans (isIn_of_mem_children hk)⟩
    · exact ⟨k, List.mem_cons_of_mem _ hk, hn⟩
  fun_induction findKinds kinds pending with
  | case1 => exact absurd h List.not_mem_nil
  | case2 m pending _ ih =>
    rcases List.mem_cons.1 h with rfl | h
    · exact ⟨n, List.mem_cons_self, .refl n⟩
    · exact lift (ih h)
  | case3 m pending _ ih => exact lift (ih h)

theorem isIn_of_mem_ofKinds {kinds : List String} {root n : Node} (h : n ∈ root.ofKinds kinds) :
    n.IsIn root := by
  obtain ⟨m, hm, hn⟩ := isIn_of_mem_findKinds h
  obtain rfl := List.mem_singleton.1 hm
  exact hn

end Node

/-! ## Checks of a whole tree -/

namespace Node

mutual

/-- Whether every node of a tree passes a test. -/
def every (p : Node → Bool) : Node → Bool
  | mk label children => p (mk label children) && everyOf p children

/-- Whether every node of several trees passes a test. -/
def everyOf (p : Node → Bool) : List Node → Bool
  | [] => true
  | n :: ns => every p n && everyOf p ns

end

theorem everyOf_eq (p : Node → Bool) (ns : List Node) : everyOf p ns = ns.all (every p) := by
  induction ns with
  | nil => rfl
  | cons n ns ih => rw [everyOf, ih, List.all_cons]

theorem every_eq (p : Node → Bool) (n : Node) : every p n = (p n && n.children.all (every p)) := by
  cases n
  rw [every, everyOf_eq, children]

/-- Along the way from the root to a node every tree passes. -/
theorem of_every {p : Node → Bool} {root n : Node} (h : every p root = true) (hn : n.IsIn root) :
    p n = true := by
  have below : every p n = true := by
    induction hn with
    | refl => exact h
    | child _ mem ih =>
      have both := ih h
      rw [every_eq, Bool.and_eq_true, List.all_eq_true] at both
      exact both.2 _ mem
  rw [every_eq, Bool.and_eq_true] at below
  exact below.1

end Node

/-! ## Sites -/

theorem Site.mem_of_mem_ofSiblings {site : Site} {before ns : List Node}
    (h : site ∈ Site.ofSiblings before ns) : site.node ∈ ns := by
  induction ns generalizing before with
  | nil => exact absurd h List.not_mem_nil
  | cons n ns ih =>
    rcases List.mem_cons.1 h with rfl | h
    · exact List.mem_cons_self
    · exact List.mem_cons_of_mem _ (ih h)

theorem Site.mem_of_mem_children {site : Site} {n : Node} (h : site ∈ Site.children n) :
    site.node ∈ n.children :=
  mem_of_mem_ofSiblings h

theorem Site.isIn_of_find? {site : Site} {n : Node} {p : Site → Bool}
    (h : (Site.children n).find? p = some site) : site.node.IsIn n :=
  Node.isIn_of_mem_children (mem_of_mem_children (List.mem_of_find?_eq_some h))

theorem exists_of_mem_definitionsIn {container : Site} {select : Node → Option Node}
    {definition : DefinitionSite} (h : definition ∈ definitionsIn container select) :
    ∃ anchor ∈ container.node.children, select anchor = some definition.node := by
  obtain ⟨site, hs, h⟩ := List.mem_filterMap.1 h
  obtain ⟨node, hn, rfl⟩ := Option.map_eq_some_iff.1 h
  exact ⟨site.node, Site.mem_of_mem_children hs, hn⟩

/-- A definition is in its container if the selection looks no further than the anchor. -/
theorem isIn_of_mem_definitionsIn {container : Site} {select : Node → Option Node}
    {definition : DefinitionSite}
    (inside : ∀ {anchor node : Node}, select anchor = some node → node.IsIn anchor)
    (h : definition ∈ definitionsIn container select) :
    definition.node.IsIn container.node := by
  obtain ⟨anchor, ha, hs⟩ := exists_of_mem_definitionsIn h
  exact (inside hs).trans (Node.isIn_of_mem_children ha)

/-! ## Trees of a source -/

/-- Every node of the tree ends behind its start, and its points are those of its offsets. -/
structure Node.IsPlaced (source : Text) (root : Node) : Prop where
  ordered : ∀ {n : Node}, n.IsIn root → n.label.startByte ≤ n.label.endByte
  start : ∀ {n : Node}, n.IsIn root → n.label.start = Point.ofOffset source n.label.startByte
  stop : ∀ {n : Node}, n.IsIn root → n.label.stop = Point.ofOffset source n.label.endByte

theorem Node.IsPlaced.of_every {source : Text} {root : Node}
    (h : root.every (fun n => n.label.startByte ≤ n.label.endByte &&
      n.label.start = Point.ofOffset source n.label.startByte &&
      n.label.stop = Point.ofOffset source n.label.endByte) = true) : root.IsPlaced source := by
  have each {n : Node} (hn : n.IsIn root) : (n.label.startByte ≤ n.label.endByte ∧
      n.label.start = Point.ofOffset source n.label.startByte) ∧
      n.label.stop = Point.ofOffset source n.label.endByte := by
    simpa using Node.of_every h hn
  exact ⟨fun hn => (each hn).1.1, fun hn => (each hn).1.2, fun hn => (each hn).2⟩

namespace Point

theorem le_iff {p q : Point} :
    p.le q = true ↔ p.row < q.row ∨ p.row = q.row ∧ p.column ≤ q.column := by
  simp [le]

theorem le_advance (p : Point) (t : Text) (n : Nat) : p.le (p.advance t n) = true := by
  induction t generalizing p n with
  | nil => simp [advance, le_iff]
  | cons c t ih =>
    unfold advance
    split
    · simp [le_iff]
    · split
      · have := le_iff.1 (ih ⟨p.row + 1, 0⟩ (n - c.utf8Size))
        simp only [le_iff] at this ⊢
        omega
      · have := le_iff.1 (ih ⟨p.row, p.column + c.utf8Size⟩ (n - c.utf8Size))
        simp only [le_iff] at this ⊢
        omega

theorem advance_mono (p : Point) (t : Text) {a b : Nat} (h : a ≤ b) :
    (p.advance t a).le (p.advance t b) = true := by
  induction t generalizing p a b with
  | nil => simp [advance, le_iff, h]
  | cons c t ih =>
    by_cases ha : a < c.utf8Size
    · by_cases hb : b < c.utf8Size
      · simp [advance, ha, hb, le_iff, h]
      · -- the first offset is inside the character, the second one behind it
        simp only [advance, ha, hb, if_true, if_false]
        split
        · have := le_iff.1 (le_advance ⟨p.row + 1, 0⟩ t (b - c.utf8Size))
          simp only [le_iff] at this ⊢
          omega
        · have := le_iff.1 (le_advance ⟨p.row, p.column + c.utf8Size⟩ t (b - c.utf8Size))
          simp only [le_iff] at this ⊢
          omega
    · have hb : ¬b < c.utf8Size := by omega
      simp only [advance, ha, hb, if_false]
      split <;> exact ih _ (by omega)

end Point

theorem Node.IsPlaced.le {source : Text} {root n : Node} (h : root.IsPlaced source)
    (hn : n.IsIn root) : n.label.start.le n.label.stop = true := by
  rw [h.start hn, h.stop hn]
  exact Point.advance_mono _ _ (h.ordered hn)

end DocHarvest
