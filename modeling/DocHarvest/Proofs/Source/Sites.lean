import DocHarvest.Proofs.Source.Within
import Mathlib.Data.List.Basic

/-!
# What stands before a node

The siblings before a site (`Site.exists_children_eq`), and what stands right before a definition:
`DefinitionSite.AnchoredIn` holds of every definition of a container
(`anchoredIn_of_mem_definitionsIn`), and says which children of which node these are
(`DefinitionSite.AnchoredIn.exists_children_eq`).
-/

namespace DocHarvest

/-! ## Sites -/

namespace Site

/-- The earlier siblings of the node and the node, in order. -/
def upTo (site : Site) : List Node := site.before.reverse ++ [site.node]

/-- The site is one of a tree: its root, or a child of a node in it. -/
def StandsIn (site : Site) (root : Node) : Prop :=
  site = { node := root } ∨ ∃ parent : Node, parent.IsIn root ∧ site ∈ children parent

theorem getLast?_upTo (site : Site) : site.upTo.getLast? = some site.node :=
  List.getLast?_concat

/-- Nodes that end where a site does end with its node. -/
theorem getLast?_of_upTo_eq {site : Site} {lead ns : List Node} (h : site.upTo = lead ++ ns)
    (ne : ns ≠ []) : ns.getLast? = some site.node := by
  rw [← List.getLast?_append_of_ne_nil lead ne, ← h, getLast?_upTo]

theorem upTo_of_previous? {site previous : Site} (h : site.previous? = some previous) :
    site.upTo = previous.upTo ++ [site.node] := by
  obtain ⟨node, before⟩ := site
  cases before with
  | nil => exact absurd h nofun
  | cons first before =>
    obtain rfl := Option.some.inj h
    simp [upTo]

theorem previous?_eq_none {site : Site} : site.previous? = none ↔ site.before = [] := by
  unfold previous?
  cases site.before <;> simp

theorem exists_append_of_mem_ofSiblings {site : Site} {before ns : List Node}
    (h : site ∈ ofSiblings before ns) :
    ∃ lead rest, ns = lead ++ site.node :: rest ∧ site.before = lead.reverse ++ before := by
  induction ns generalizing before with
  | nil => exact absurd h List.not_mem_nil
  | cons n ns ih =>
    rcases List.mem_cons.1 h with rfl | h
    · exact ⟨[], ns, rfl, rfl⟩
    · obtain ⟨lead, rest, rfl, hb⟩ := ih h
      exact ⟨n :: lead, rest, rfl, by simp [hb]⟩

/-- The children of a node begin with those up to any of them. -/
theorem exists_children_eq {site : Site} {n : Node} (h : site ∈ children n) :
    ∃ rest, n.children = site.upTo ++ rest := by
  obtain ⟨lead, rest, hn, hb⟩ := exists_append_of_mem_ofSiblings h
  exact ⟨rest, by simp [upTo, hn, hb]⟩

theorem StandsIn.isIn {site : Site} {root : Node} (h : site.StandsIn root) :
    site.node.IsIn root := by
  rcases h with rfl | ⟨parent, inside, mem⟩
  · exact .refl root
  · exact .child inside (mem_of_mem_children mem)

end Site

/-! ## What stands before a definition -/

/-- The anchor of a definition is a child of the container, and what stands before the definition is
the sibling before the anchor. For a first child that starts where the container starts, it is the
sibling before the container, and for any other first child nothing. -/
def DefinitionSite.AnchoredIn (d : DefinitionSite) (container : Site) : Prop :=
  ∃ anchor ∈ Site.children container.node, anchor.node = d.anchor ∧
    anchor.before.length = d.index ∧
    (anchor.before ≠ [] ∧ d.previous = anchor.previous? ∨
      anchor.before = [] ∧ container.node.label.startByte = d.anchor.label.startByte ∧
        d.previous = container.previous? ∨
      anchor.before = [] ∧ container.node.label.startByte ≠ d.anchor.label.startByte ∧
        d.previous = none)

theorem anchoredIn_of_mem_definitionsIn {container : Site} {select : Node → Option Node}
    {d : DefinitionSite} (h : d ∈ definitionsIn container select) : d.AnchoredIn container := by
  obtain ⟨anchor, mem, h⟩ := List.mem_filterMap.1 h
  obtain ⟨node, -, rfl⟩ := Option.map_eq_some_iff.1 h
  refine ⟨anchor, mem, rfl, rfl, ?_⟩
  unfold previousOf
  split
  · next previous hp =>
    have later : anchor.before ≠ [] := fun first =>
      Option.some_ne_none _ (hp.symm.trans (Site.previous?_eq_none.2 first))
    exact .inl ⟨later, hp.symm⟩
  · next hp =>
    have first := Site.previous?_eq_none.1 hp
    split
    · next same => exact .inr (.inl ⟨first, same, rfl⟩)
    · next apart => exact .inr (.inr ⟨first, apart, rfl⟩)

namespace DefinitionSite.AnchoredIn

variable {d : DefinitionSite} {container : Site} {root : Node}

/-- What stands before a definition is a child of a node in the tree, and the next child is the
anchor, or the container that the anchor is the first child of and starts with. -/
theorem exists_children_eq (anchored : d.AnchoredIn container) (stands : container.StandsIn root)
    {last : Site} (h : d.previous = some last) :
    ∃ parent next rest, parent.IsIn root ∧ parent.children = last.upTo ++ next :: rest ∧
      (parent = container.node ∧ next = d.anchor ∨
        next = container.node ∧ container.node.children.head? = some d.anchor ∧
          container.node.label.startByte = d.anchor.label.startByte) := by
  obtain ⟨anchor, mem, same, -, cases⟩ := anchored
  obtain ⟨rest, children⟩ := Site.exists_children_eq mem
  rcases cases with ⟨-, previous⟩ | ⟨first, starts, previous⟩ | ⟨-, -, previous⟩
  · refine ⟨container.node, d.anchor, rest, stands.isIn, ?_, .inl ⟨rfl, rfl⟩⟩
    rw [children, Site.upTo_of_previous? (previous ▸ h), same]
    simp
  · rcases stands with rfl | ⟨parent, inside, mem⟩
    · exact absurd (h.symm.trans previous) (Option.some_ne_none _)
    · obtain ⟨rest', siblings⟩ := Site.exists_children_eq mem
      refine ⟨parent, container.node, rest', inside, ?_, .inr ⟨rfl, ?_, starts⟩⟩
      · rw [siblings, Site.upTo_of_previous? (previous ▸ h)]
        simp
      · rw [children, Site.upTo, first, same]
        rfl
  · exact absurd (h.symm.trans previous) (Option.some_ne_none _)

theorem anchor_isIn (anchored : d.AnchoredIn container) (stands : container.StandsIn root) :
    d.anchor.IsIn root := by
  obtain ⟨anchor, mem, same, -⟩ := anchored
  exact same ▸ .child stands.isIn (Site.mem_of_mem_children mem)

/-- The children of a container before an anchor are those up to what stands before the definition,
if anything does within the container. -/
theorem upTo_eq_take (anchored : d.AnchoredIn container)
    (ne : container.node.children.take d.index ≠ []) :
    ∃ last, d.previous = some last ∧ last.upTo = container.node.children.take d.index := by
  obtain ⟨anchor, mem, -, index, cases⟩ := anchored
  obtain ⟨rest, children⟩ := Site.exists_children_eq mem
  have before : container.node.children.take d.index = anchor.before.reverse := by
    rw [children, ← index, ← List.length_reverse, Site.upTo, List.append_assoc, List.take_left]
  have later : anchor.before ≠ [] := by
    rw [before] at ne
    simpa using ne
  rcases cases with ⟨-, previous⟩ | ⟨first, -⟩ | ⟨first, -⟩
  · obtain ⟨last, hlast⟩ := Option.ne_none_iff_exists'.1 (mt Site.previous?_eq_none.1 later)
    refine ⟨last, previous.trans hlast, ?_⟩
    have upTo := Site.upTo_of_previous? hlast
    rw [before]
    exact (List.append_cancel_right upTo).symm
  · exact absurd first later
  · exact absurd first later

end DefinitionSite.AnchoredIn

end DocHarvest
