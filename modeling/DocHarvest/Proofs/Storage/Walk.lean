import DocHarvest.Proofs.Record.OrderedMap
import DocHarvest.Proofs.Text.Order
import DocHarvest.Storage.Tree

/-!
# Walking through a tree

A walk that takes the entries of every directory in the order of their names goes through all places
of the tree in one order: that of their names, one after another, each by its bytes
(`FileTree.pairwise_walk`). It comes by everything that is in the tree, and by nothing else
(`FileTree.mem_walk`).
-/

namespace DocHarvest

open Text

/-- Whether a place comes before another one: by the first name in which they differ, or because it
leads to the other one. -/
def IsBeforePlace (a b : List Text) : Prop := List.Lex IsBefore a b

instance : Std.Asymm IsBeforePlace :=
  ⟨fun a b => Std.Asymm.asymm (r := List.Lex IsBefore) a b⟩

namespace FileTree

variable {tree sub : FileTree} {entries : List (Text × FileTree)} {name : Text} {place : List Text}

/-- A tree in which no directory has two entries of one name. -/
inductive IsProper : FileTree → Prop
  | file (content : Bytes) : IsProper (.file content)
  | directory {entries : List (Text × FileTree)} (distinct : (entries.map Prod.fst).Nodup)
      (inner : ∀ entry ∈ entries, IsProper entry.2) : IsProper (.directory entries)

/-! ## Entries in order -/

/-- The walks through the entries of a directory, in the order of the names of these. -/
def sortedWalks (entries : List (Text × FileTree)) : List (Text × List (List Text × FileTree)) :=
  (walksOf entries).mergeSort fun a b => isAtMost a.1 b.1

theorem walk_directory (entries : List (Text × FileTree)) : (directory entries).walk =
    ([], directory entries) ::
      (sortedWalks entries).flatMap fun e => e.2.map fun visit => (e.1 :: visit.1, visit.2) := rfl

theorem walksOf_eq (entries : List (Text × FileTree)) :
    walksOf entries = entries.map fun entry => (entry.1, entry.2.walk) := by
  induction entries with
  | nil => rfl
  | cons entry entries ih => rw [walksOf, ih, List.map_cons]

theorem mem_sortedWalks {visits : List (List Text × FileTree)} :
    (name, visits) ∈ sortedWalks entries ↔ ∃ tree, (name, tree) ∈ entries ∧ visits = tree.walk := by
  rw [sortedWalks, (List.mergeSort_perm _ _).mem_iff, walksOf_eq, List.mem_map]
  constructor
  · rintro ⟨⟨n, tree⟩, mem, e⟩
    obtain ⟨rfl, rfl⟩ := Prod.mk.inj e
    exact ⟨tree, mem, rfl⟩
  · rintro ⟨tree, mem, rfl⟩
    exact ⟨(name, tree), mem, rfl⟩

/-- Entries of distinct names stand in the strict order of these. -/
theorem pairwise_sortedWalks (distinct : (entries.map Prod.fst).Nodup) :
    (sortedWalks entries).Pairwise fun a b => IsBefore a.1 b.1 := by
  have ordered : (sortedWalks entries).Pairwise fun a b => isAtMost a.1 b.1 = true :=
    List.pairwise_mergeSort (fun a b c => isAtMost_trans a.1 b.1 c.1)
      (fun a b => isAtMost_total a.1 b.1) _
  have names : ((sortedWalks entries).map Prod.fst).Nodup := by
    rw [sortedWalks, ((List.mergeSort_perm _ _).map Prod.fst).nodup_iff, walksOf_eq, List.map_map]
    exact distinct
  have apart := List.pairwise_map.1 (List.nodup_iff_pairwise_ne.1 names)
  exact ordered.imp₂ (fun _ _ le ne => isBefore_of_isAtMost le ne) apart

/-! ## The whole walk -/

/-- The places of a walk come in order, each once. -/
theorem pairwise_walk (h : tree.IsProper) : tree.walk.Pairwise fun a b => IsBeforePlace a.1 b.1 := by
  induction h with
  | file content => exact List.pairwise_singleton _ _
  | @directory entries distinct _ ih =>
    rw [walk_directory, List.pairwise_cons, List.pairwise_flatMap]
    -- the directory is before all in it; inside one entry by induction; between two by their names
    refine ⟨fun visit mem => ?_, fun e mem => ?_, (pairwise_sortedWalks distinct).imp ?_⟩
    · obtain ⟨e, -, mem⟩ := List.mem_flatMap.1 mem
      obtain ⟨v, -, rfl⟩ := List.mem_map.1 mem
      exact .nil
    · obtain ⟨tree, entry, e'⟩ := mem_sortedWalks.1 mem
      rw [e', List.pairwise_map]
      exact (ih _ entry).imp .cons
    · intro a b lt x hx y hy
      obtain ⟨v, -, rfl⟩ := List.mem_map.1 hx
      obtain ⟨w, -, rfl⟩ := List.mem_map.1 hy
      exact .rel lt

theorem lookup_eq_some_iff (distinct : (entries.map Prod.fst).Nodup) :
    OrderedMap.lookup name entries = some tree ↔ (name, tree) ∈ entries :=
  ⟨fun h => OrderedMap.mem_of_get? (m := ⟨entries⟩) h,
    fun h => OrderedMap.get?_of_mem (m := ⟨entries⟩) distinct h⟩

/-- A walk comes by everything in the tree. -/
theorem mem_walk (h : tree.IsProper) : (place, sub) ∈ tree.walk ↔ tree.at? place = some sub := by
  induction h generalizing place with
  | file content =>
    cases place with
    | nil => simp [walk, at?, eq_comm]
    | cons name place => simp [walk, at?, named?]
  | @directory entries distinct _ ih =>
    rw [walk_directory]
    cases place with
    | nil => simp [at?, eq_comm]
    | cons name place =>
      have entry : (name :: place, sub) ∈ (sortedWalks entries).flatMap
            (fun e => e.2.map fun visit => (e.1 :: visit.1, visit.2)) ↔
          ∃ tree, (name, tree) ∈ entries ∧ (place, sub) ∈ tree.walk := by
        simp only [List.mem_flatMap, List.mem_map, Prod.exists, Prod.mk.injEq, List.cons.injEq]
        constructor
        · rintro ⟨n, visits, mem, p, t, visit, ⟨rfl, rfl⟩, rfl⟩
          obtain ⟨tree, entry, e⟩ := mem_sortedWalks.1 mem
          exact ⟨tree, entry, e ▸ visit⟩
        · rintro ⟨tree, entry, visit⟩
          exact ⟨name, tree.walk, mem_sortedWalks.2 ⟨tree, entry, rfl⟩, place, sub, visit,
            ⟨rfl, rfl⟩, rfl⟩
      have root : (name :: place, sub) ≠ ([], directory entries) := fun e =>
        List.cons_ne_nil _ _ (congrArg Prod.fst e)
      rw [List.mem_cons, or_iff_right root, entry, at?, named?]
      cases found : OrderedMap.lookup name entries with
      | none =>
        refine iff_of_false ?_ (Option.some_ne_none sub ·.symm)
        rintro ⟨tree, mem, -⟩
        rw [(lookup_eq_some_iff distinct).2 mem] at found
        cases found
      | some tree =>
        have mem := (lookup_eq_some_iff distinct).1 found
        rw [← ih _ mem]
        constructor
        · rintro ⟨tree', mem', visit⟩
          rw [(lookup_eq_some_iff distinct).2 mem'] at found
          exact Option.some.inj found ▸ visit
        · exact fun visit => ⟨tree, mem, visit⟩

end FileTree

end DocHarvest
