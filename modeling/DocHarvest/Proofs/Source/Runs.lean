import DocHarvest.Proofs.Source.Sites
import Mathlib.Data.List.Chain

/-!
# Runs of comments

A run of comments, `IsRun`, is a list of comments each of which starts its row and stands on the row
right below the one before it. `commentRun` finds the longest run that ends at a node:

* `isRun_commentRun` : what it finds is a run of siblings that end at the node
* `IsRun.suffix_commentRun` : every other such run is a part of it
* `isLongestRun_commentRun` : so it is the longest one among the siblings up to the node, where a run
  is said by what holds of each comment, `AreOnRows`

`commentRun` goes through the siblings backwards, and so do the proofs, with `IsRunUp` for a run read
upwards.
-/

namespace DocHarvest

/-- The comments stand on rows right below one another, and the first of them starts its row; `lead`
are the siblings before it. -/
structure IsRun (isComment : Node → Bool) (lead run : List Node) : Prop where
  comments : ∀ c ∈ run, isComment c = true
  first : ∀ c ∈ run.head?, startsRow c lead.getLast? = true
  rows : run.IsChain fun a b => b.label.start.row = a.label.stop.row + 1

/-- Every comment of a run starts its row. -/
theorem IsRun.startsRow {isComment : Node → Bool} {lead a b : List Node} {c : Node}
    (h : IsRun isComment lead (a ++ c :: b)) : startsRow c (lead ++ a).getLast? = true := by
  rcases List.eq_nil_or_concat a with rfl | ⟨a, p, rfl⟩
  · simpa using h.first
  · have rows := h.rows
    simp only [List.concat_eq_append, List.append_assoc, List.singleton_append] at rows
    have below := (List.isChain_cons_cons.1 rows.right_of_append).1
    rw [List.concat_eq_append, ← List.append_assoc, List.getLast?_concat]
    simp [DocHarvest.startsRow, below]

/-- A run read backwards, as `commentsUp` finds it: `next` is the comment below, and `rest` are the
nodes above, the nearest first. -/
structure IsRunUp (isComment : Node → Bool) (next : Option Node) (run rest : List Node) : Prop where
  comments : ∀ c ∈ run, isComment c = true
  first : ∀ c ∈ run.getLast?, startsRow c rest.head? = true
  rows : (next.toList ++ run).IsChain fun b a => b.label.start.row = a.label.stop.row + 1

theorem isRunUp_reverse {isComment : Node → Bool} {lead run : List Node} :
    IsRunUp isComment none run.reverse lead.reverse ↔ IsRun isComment lead run := by
  constructor
  · rintro ⟨comments, first, rows⟩
    exact ⟨by simpa using comments, by simpa using first, List.isChain_reverse.1 rows⟩
  · rintro ⟨comments, first, rows⟩
    exact ⟨by simpa using comments, by simpa using first, List.isChain_reverse.2 rows⟩

namespace IsRunUp

variable {isComment : Node → Bool} {next : Option Node} {node : Node} {run rest : List Node}

/-- The step of `commentsUp`: a comment goes in front of the run above it. -/
theorem cons (h : IsRunUp isComment (some node) run rest)
    (starts : startsRow node (run ++ rest).head? = true)
    (qualifies : isComment node = true)
    (above : ∀ n ∈ next, n.label.start.row = node.label.stop.row + 1) :
    IsRunUp isComment next (node :: run) rest where
  comments := List.forall_mem_cons.2 ⟨qualifies, h.comments⟩
  first := by
    cases run with
    | nil => simpa using starts
    | cons a run => simpa using h.first
  rows := by
    cases next with
    | none => exact h.rows
    | some n => exact List.isChain_cons_cons.2 ⟨above n rfl, h.rows⟩

/-- The first comment of a run qualifies for it. -/
theorem uncons (h : IsRunUp isComment next (node :: run) rest) :
    isComment node = true ∧ startsRow node (run ++ rest).head? = true ∧
      ∀ n ∈ next, n.label.start.row = node.label.stop.row + 1 := by
  refine ⟨h.comments node List.mem_cons_self, ?_, ?_⟩
  · cases run with
    | nil => simpa using h.first
    | cons above run =>
      have rows : (node :: above :: run).IsChain
          fun b a => b.label.start.row = a.label.stop.row + 1 := h.rows.right_of_append
      simp [startsRow, (List.isChain_cons_cons.1 rows).1]
  · rintro n ⟨⟩
    exact (List.isChain_cons_cons.1 h.rows).1

theorem tail (h : IsRunUp isComment next (node :: run) rest) :
    IsRunUp isComment (some node) run rest where
  comments := (List.forall_mem_cons.1 h.comments).2
  first := by
    cases run with
    | nil => nofun
    | cons above run => simpa using h.first
  rows := h.rows.right_of_append

end IsRunUp

/-- Given that the comment below starts its row, a node qualifies for a run if it is a comment, starts
its row, and stands on the row right above. -/
theorem qualifies_iff {isComment : Node → Bool} {next previous : Option Node} {node : Node}
    (below : ∀ n ∈ next, startsRow n (some node) = true) :
    commentsUp.qualifies isComment next node previous = true ↔
      isComment node = true ∧ startsRow node previous = true ∧
        ∀ n ∈ next, n.label.start.row = node.label.stop.row + 1 := by
  simp only [commentsUp.qualifies, Bool.and_eq_true, Option.all_eq_true, decide_eq_true_eq,
    and_assoc]
  refine and_congr_right fun _ => and_congr_right fun _ => forall₂_congr fun n hn => ?_
  have lt : node.label.stop.row < n.label.start.row := by simpa [startsRow] using below n hn
  omega

/-- By induction on the nodes above; each step relies on the comment below starting its row. -/
theorem isRunUp_commentsUp {isComment : Node → Bool} {next : Option Node} {node : Node}
    {before : List Node} (below : ∀ n ∈ next, startsRow n (some node) = true) :
    ∃ rest, node :: before = commentsUp isComment next node before ++ rest ∧
      IsRunUp isComment next (commentsUp isComment next node before) rest := by
  have stop : ∀ {next : Option Node} {rest : List Node}, IsRunUp isComment next [] rest :=
    fun {next _} => ⟨nofun, nofun, by cases next <;> simp⟩
  induction before generalizing next node with
  | nil =>
    rw [commentsUp]
    split
    · next qualifies =>
      obtain ⟨comment, first, above⟩ := (qualifies_iff below).1 qualifies
      exact ⟨[], rfl, stop.cons first comment above⟩
    · exact ⟨[node], rfl, stop⟩
  | cons previous before ih =>
    rw [commentsUp]
    split
    · next qualifies =>
      obtain ⟨comment, first, above⟩ := (qualifies_iff below).1 qualifies
      have starts : ∀ n ∈ some node, startsRow n (some previous) = true := by simpa using first
      obtain ⟨rest, eq, run⟩ := ih starts
      refine ⟨rest, by rw [List.cons_append, ← eq], run.cons ?_ comment above⟩
      rw [← eq]
      exact first
    · exact ⟨node :: previous :: before, rfl, stop⟩

theorem IsRunUp.prefix_commentsUp {isComment : Node → Bool} {next : Option Node} {node : Node}
    {before run rest : List Node} (h : IsRunUp isComment next run rest)
    (eq : node :: before = run ++ rest) (below : ∀ n ∈ next, startsRow n (some node) = true) :
    run <+: commentsUp isComment next node before := by
  induction before generalizing next node run with
  | nil =>
    cases run with
    | nil => exact List.nil_prefix
    | cons c run =>
      obtain ⟨rfl, rfl, rfl⟩ : node = c ∧ run = [] ∧ rest = [] := by simpa using eq
      have qualifies : commentsUp.qualifies isComment next node none = true :=
        (qualifies_iff below).2 h.uncons
      have found : commentsUp isComment next node [] = [node] := if_pos qualifies
      exact found.symm ▸ List.prefix_refl [node]
  | cons previous before ih =>
    cases run with
    | nil => exact List.nil_prefix
    | cons c run =>
      obtain ⟨rfl, above⟩ : node = c ∧ previous :: before = run ++ rest := by simpa using eq
      have uncons := h.uncons
      rw [← above, List.head?_cons] at uncons
      rw [commentsUp, if_pos ((qualifies_iff below).2 uncons), List.prefix_cons_inj]
      exact ih h.tail above (by simpa using uncons.2.1)

/-- The run that `commentRun` finds ends at the node. -/
theorem isRun_commentRun (last : Site) (isComment : Node → Bool) :
    ∃ lead, last.upTo = lead ++ commentRun last isComment ∧
      IsRun isComment lead (commentRun last isComment) := by
  have below : ∀ n ∈ (none : Option Node), startsRow n (some last.node) = true := nofun
  obtain ⟨rest, eq, run⟩ : ∃ rest, last.node :: last.before = _ ++ rest ∧
      IsRunUp isComment none _ rest := isRunUp_commentsUp below
  refine ⟨rest.reverse, ?_, ?_⟩
  · rw [commentRun, ← List.reverse_append, ← eq, Site.upTo, List.reverse_cons]
  · rw [← isRunUp_reverse, commentRun, List.reverse_reverse, List.reverse_reverse]
    exact run

/-- Every run that ends at the node is a part of the one that `commentRun` finds. -/
theorem IsRun.suffix_commentRun {last : Site} {isComment : Node → Bool} {lead run : List Node}
    (h : IsRun isComment lead run) (eq : last.upTo = lead ++ run) :
    run <:+ commentRun last isComment := by
  have up : last.node :: last.before = run.reverse ++ lead.reverse := by
    rw [← List.reverse_append, ← eq, Site.upTo]
    simp
  have found := (isRunUp_reverse.2 h).prefix_commentsUp up (by simp)
  rw [commentRun, ← List.reverse_prefix, List.reverse_reverse]
  exact found

/-! ## The longest run -/

/-- Comments each of which begins on a later row than the sibling before it ends, and ends at most one
row above the next one. The sibling before the first comment is the last one of `lead`. -/
structure AreOnRows (isComment : Node → Bool) (lead run : List Node) : Prop where
  comments : ∀ c ∈ run, isComment c = true
  starts : ∀ above c below, run = above ++ c :: below →
    ∀ p ∈ (lead ++ above).getLast?, p.label.stop.row < c.label.start.row
  rows : run.IsChain fun a b => b.label.start.row ≤ a.label.stop.row + 1

/-- The run is the longest one at the end of the siblings. -/
structure IsLongestRun (isComment : Node → Bool) (siblings run : List Node) : Prop where
  isRun : ∃ lead, siblings = lead ++ run ∧ AreOnRows isComment lead run
  longest : ∀ lead' run', siblings = lead' ++ run' → AreOnRows isComment lead' run' →
    run'.length ≤ run.length

/-- The nodes are all those side by side at some place of a tree: its root, or the children of a node
in it. -/
def Node.AreSiblings (root : Node) (ns : List Node) : Prop :=
  ns = [root] ∨ ∃ parent : Node, parent.IsIn root ∧ ns = parent.children

theorem startsRow_iff {node : Node} {previous : Option Node} : startsRow node previous = true ↔
    ∀ p ∈ previous, p.label.stop.row < node.label.start.row := by
  simp [startsRow, Option.all_eq_true]

/-- Behind the first comment it is enough to look at the rows of one comment and the next, as the
sibling before a comment is the comment above it. -/
theorem areOnRows_iff {isComment : Node → Bool} {lead run : List Node} :
    AreOnRows isComment lead run ↔ IsRun isComment lead run := by
  constructor
  · rintro ⟨comments, starts, rows⟩
    refine ⟨comments, fun c hc => ?_, ?_⟩
    · obtain ⟨below, rfl⟩ := List.head?_eq_some_iff.1 hc
      simpa [startsRow_iff] using starts [] c below rfl
    · rw [List.isChain_iff_forall_rel_of_append_cons_cons] at rows ⊢
      intro a b above below split
      have lt := starts (above ++ [a]) b below (by simp [split]) a (by simp)
      have le := rows split
      omega
  · intro run
    refine ⟨run.comments, ?_, run.rows.imp fun _ _ => Nat.le_of_eq⟩
    rintro above c below rfl
    exact startsRow_iff.1 run.startsRow

theorem isLongestRun_iff_eq_commentRun {isComment : Node → Bool} {last : Site} {run : List Node} :
    IsLongestRun isComment last.upTo run ↔ run = commentRun last isComment := by
  obtain ⟨lead, eq, found⟩ := isRun_commentRun last isComment
  constructor
  · rintro ⟨⟨lead', eq', isRun⟩, longest⟩
    have part := (areOnRows_iff.1 isRun).suffix_commentRun eq'
    exact part.eq_of_length_le (longest lead _ eq (areOnRows_iff.2 found))
  · rintro rfl
    refine ⟨⟨lead, eq, areOnRows_iff.2 found⟩, fun lead' run' eq' isRun => ?_⟩
    exact ((areOnRows_iff.1 isRun).suffix_commentRun eq').length_le

/-- A node that qualifies by itself is a run of one comment. -/
theorem commentRun_eq_nil_iff {isComment : Node → Bool} {last : Site} :
    commentRun last isComment = [] ↔ ¬(isComment last.node = true ∧
      ∀ p ∈ last.before.head?, p.label.stop.row < last.node.label.start.row) := by
  constructor
  · rintro empty ⟨comment, starts⟩
    have single : IsRun isComment last.before.reverse [last.node] :=
      ⟨by simpa using comment, by simpa [startsRow_iff] using starts, .singleton _⟩
    have part := single.suffix_commentRun rfl
    rw [empty] at part
    exact absurd part.length_le (by simp)
  · intro fails
    obtain ⟨lead, eq, run⟩ := isRun_commentRun last isComment
    rcases List.eq_nil_or_concat (commentRun last isComment) with empty | ⟨above, c, e⟩
    · exact empty
    · rw [List.concat_eq_append] at e
      rw [e] at eq run
      obtain ⟨before, rfl⟩ : last.before.reverse = lead ++ above ∧ last.node = c := by
        rw [← List.append_assoc] at eq
        simpa using List.append_inj' eq rfl
      have starts := startsRow_iff.1 run.startsRow
      rw [← before, List.getLast?_reverse] at starts
      exact absurd ⟨run.comments _ (by simp), starts⟩ fails

theorem Site.StandsIn.exists_areSiblings {site : Site} {root : Node} (h : site.StandsIn root) :
    ∃ later, root.AreSiblings (site.upTo ++ later) := by
  rcases h with rfl | ⟨parent, inside, mem⟩
  · exact ⟨[], .inl rfl⟩
  · obtain ⟨later, children⟩ := exists_children_eq mem
    exact ⟨later, .inr ⟨parent, inside, children.symm⟩⟩

/-- The run that ends at a node of a tree is the longest one of its siblings, and of no others. It is
empty if the node is no comment, or the sibling before it ends on its row. -/
theorem isLongestRun_commentRun {root : Node} {last : Site} (stands : last.StandsIn root)
    (isComment : Node → Bool) :
    (∃ later, root.AreSiblings (last.upTo ++ later)) ∧
      (∀ run, IsLongestRun isComment last.upTo run ↔ run = commentRun last isComment) ∧
      (commentRun last isComment = [] ↔ ¬(isComment last.node = true ∧
        ∀ p ∈ last.before.head?, p.label.stop.row < last.node.label.start.row)) :=
  ⟨stands.exists_areSiblings, fun _ => isLongestRun_iff_eq_commentRun, commentRun_eq_nil_iff⟩

def partedStatement : Node := .mk ⟨"assignment", true, 0, 5, ⟨0, 0⟩, ⟨0, 5⟩, none, 1⟩ []

def partedTrailing : Node := .mk ⟨"comment", true, 6, 10, ⟨0, 6⟩, ⟨0, 10⟩, none, 2⟩ []

def partedFirst : Node := .mk ⟨"comment", true, 11, 14, ⟨1, 0⟩, ⟨1, 3⟩, none, 3⟩ []

def partedSecond : Node := .mk ⟨"comment", true, 15, 18, ⟨2, 0⟩, ⟨2, 3⟩, none, 4⟩ []

def partedThird : Node := .mk ⟨"comment", true, 20, 23, ⟨4, 0⟩, ⟨4, 3⟩, none, 5⟩ []

/-- A comment behind a statement, two comments below it, and one more below an empty row. -/
def partedTree : Node :=
  .mk ⟨"program", true, 0, 24, ⟨0, 0⟩, ⟨5, 0⟩, none, 0⟩
    [partedStatement, partedTrailing, partedFirst, partedSecond, partedThird]

theorem isLongestRun_partedTree :
    ∃ trailing second third : Site,
      (trailing.StandsIn partedTree ∧ second.StandsIn partedTree ∧ third.StandsIn partedTree) ∧
      commentRun trailing (·.isOf ["comment"]) = [] ∧
      IsLongestRun (·.isOf ["comment"]) second.upTo [partedFirst, partedSecond] ∧
      IsLongestRun (·.isOf ["comment"]) third.upTo [partedThird] := by
  have stands : ∀ (i : Nat) (site : Site), (Site.children partedTree)[i]? = some site →
      site.StandsIn partedTree :=
    fun _ _ child => .inr ⟨partedTree, .refl _, List.mem_of_getElem? child⟩
  have trailing := stands 1 ⟨partedTrailing, [partedStatement]⟩ rfl
  have second := stands 3 ⟨partedSecond, [partedFirst, partedTrailing, partedStatement]⟩ rfl
  have third :=
    stands 4 ⟨partedThird, [partedSecond, partedFirst, partedTrailing, partedStatement]⟩ rfl
  exact ⟨_, _, _, ⟨trailing, second, third⟩,
    (isLongestRun_commentRun trailing _).2.2.2 (by decide),
    ((isLongestRun_commentRun second _).2.1 _).2 rfl,
    ((isLongestRun_commentRun third _).2.1 _).2 rfl⟩

end DocHarvest
