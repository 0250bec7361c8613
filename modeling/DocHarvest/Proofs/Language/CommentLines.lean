import DocHarvest.Proofs.Language.DocComments

/-!
# What stands before comments on their lines

Whether a comment starts its line is decided by where the sibling before it ends. `CommentForm.Spaces`
says what that relies on: before a line comment there is only white space, back to the sibling before
it or to the start of its line. Then a line comment that starts its row opens its line
(`CommentForm.Spaces.opensLine_of_startsRow`).

* `Language.not_startsLine_first_iff` : the first comment of a definition starts its line unless it
  stands behind a byte order mark or is a block comment behind something else
-/

namespace DocHarvest

open Text Doc

theorem Text.isBlankText_lastLine {t : Text} (h : isBlankText t = true) :
    isBlankText (lastLine t) = true := by
  rw [isBlankText, List.all_eq_true] at h ⊢
  intro c hc
  exact h c (List.mem_reverse.1 ((List.takeWhile_sublist _).mem (List.mem_reverse.1 hc)))

namespace CommentForm

/-- The tree is placed, and before its line comments there is only white space: between the sibling
before the comment and the comment, as far as it is on the line of the comment, and before a comment
that is the first child of a node from the start of the source, apart from a byte order mark. -/
structure Spaces (form : CommentForm) (source : Text) (root : Node) : Prop
    extends root.IsPlaced source where
  between : ∀ {n : Node}, n.IsIn root → n.children.IsChain fun p c =>
    form.isLine (.ofText source) c = true →
      (byteSlice? source p.label.endByte c.label.startByte).any (isBlankText ∘ lastLine) = true
  opening : ∀ {n : Node}, n.IsIn root → ∀ c ∈ n.children.head?,
    form.isLine (.ofText source) c = true →
      (byteTake? source c.label.startByte).any (isBlankText ∘ dropMark) = true

theorem Spaces.of_every {form : CommentForm} {source : Text} {root : Node}
    (placed : root.IsPlaced source)
    (h : root.every (fun n =>
      decide (n.children.IsChain fun p c => form.isLine (.ofText source) c = true →
        (byteSlice? source p.label.endByte c.label.startByte).any (isBlankText ∘ lastLine) = true) &&
      n.children.head?.all fun c => !form.isLine (.ofText source) c ||
        (byteTake? source c.label.startByte).any (isBlankText ∘ dropMark)) = true) :
    form.Spaces source root where
  toIsPlaced := placed
  between hn := by
    have test := Node.of_every h hn
    rw [Bool.and_eq_true, decide_eq_true_eq] at test
    exact test.1
  opening hn c hc line := by
    have test := Node.of_every h hn
    rw [Bool.and_eq_true, Option.all_eq_true] at test
    simpa [line] using test.2 c hc

theorem Spaces.opensLine_of_startsRow {form : CommentForm} {source : Text} {root n c : Node}
    {lead rest : List Node} (spaces : form.Spaces source root) (hn : n.IsIn root)
    (children : n.children = lead ++ c :: rest) (line : form.isLine (.ofText source) c = true)
    (starts : startsRow c lead.getLast? = true) : c.opensLine source = true := by
  rcases List.eq_nil_or_concat lead with rfl | ⟨lead, p, rfl⟩
  · have first : n.children.head? = some c := by rw [children]; rfl
    obtain ⟨text, taken, blank⟩ := (Option.any_eq_true _ _).1 (spaces.opening hn c first line)
    rw [Node.opensLine, taken]
    exact isBlankText_lastLine blank
  · rw [List.concat_eq_append] at children starts
    have hp : p.IsIn root := .child hn (by simp [children])
    have hc : c.IsIn root := .child hn (by simp [children])
    have pair := spaces.between hn
    rw [children, List.append_assoc] at pair
    obtain ⟨gap, slice, blank⟩ := (Option.any_eq_true _ _).1
      ((List.isChain_cons_cons.1 pair.right_of_append).1 line)
    have above : p.label.stop.row < c.label.start.row := by simpa [startsRow] using starts
    exact Node.opensLine_of_gap (spaces.stop hp) (spaces.start hc) slice blank above

theorem Spaces.opensLine_of_isRun {form : CommentForm} {source : Text} {root n : Node}
    {lead run rest : List Node} (spaces : form.Spaces source root) (hn : n.IsIn root)
    (children : n.children = lead ++ run ++ rest) (h : IsRun (form.isLine (.ofText source)) lead run) :
    ∀ c ∈ run, c.opensLine source = true := by
  intro c hc
  obtain ⟨a, b, rfl⟩ := List.append_of_mem hc
  have split : n.children = lead ++ a ++ c :: (b ++ rest) := by simp [children]
  exact spaces.opensLine_of_startsRow hn split (h.comments c hc) h.startsRow

end CommentForm

/-! ## The first comment -/

/-- The first comment that documentation is read from has more than white space before it on its line
if it stands there behind a byte order mark, or is a block comment with something else before it, and
in no other case. -/
theorem Language.not_startsLine_first_iff {l : Language} {form : CommentForm}
    (hform : l.commentForm? = some form) {source : Text} {root : Node}
    (spaces : form.Spaces source root) {container : Site} {d : DefinitionSite}
    (found : l.rules.Finds root container d) (ne : l.rules.docComment d (.ofText source) ≠ []) :
    ∃ first rest, form.comments (.ofText source) d = first :: rest ∧
      l.rules.docComment d (.ofText source) = trim (joinLines
        ((first :: rest).map fun c => l.rules.stripComment (c.text (.ofText source)))) ∧
      (first.startsLine source = false ↔ first.isBehindMark source = true ∨
        form.isBlock (.ofText source) first = true ∧ first.opensLine source = false) := by
  have some := comments_ne_nil hform ne
  obtain ⟨last, lead, reads⟩ := CommentForm.exists_readsFrom some
  obtain ⟨first, rest, comments⟩ := List.exists_cons_of_ne_nil some
  refine ⟨first, rest, comments, by rw [docComment_eq hform, CommentForm.read_eq, comments], ?_⟩
  rw [comments] at reads
  have opens : form.isBlock (.ofText source) first = false → first.opensLine source = true := by
    intro line
    rcases reads.shape with ⟨block, single⟩ | ⟨-, run⟩
    · obtain rfl := (List.cons.inj single).1
      exact absurd (line.symm.trans block) nofun
    · obtain ⟨parent, next, behind, inside, children, -⟩ :=
        found.anchoredIn.exists_children_eq found.standsIn reads.previous
      rw [reads.upTo] at children
      exact spaces.opensLine_of_isRun inside children run first List.mem_cons_self
  rw [← Bool.not_eq_true, Node.startsLine_iff, not_and_or, or_comm]
  constructor
  · rintro (marked | closed)
    · exact .inl (by simpa using marked)
    · rw [Bool.not_eq_true] at closed
      cases block : form.isBlock (.ofText source) first with
      | true => exact .inr ⟨rfl, closed⟩
      | false => exact absurd (closed.symm.trans (opens block)) nofun
  · rintro (marked | ⟨-, closed⟩)
    · exact .inl (by simp [marked])
    · exact .inr (by simp [closed])

theorem Ruby.not_startsLine_paddedMethod :
    commentForm.Spaces paddedCode paddedTree ∧
      ∃ body d first rest, Language.ruby.rules.Finds paddedTree body d ∧ d.node = paddedMethod ∧
        commentForm.comments (.ofText paddedCode) d = first :: rest ∧
        (first.startsLine paddedCode = false ↔ first.isBehindMark paddedCode = true ∨
          commentForm.isBlock (.ofText paddedCode) first = true ∧
            first.opensLine paddedCode = false) := by
  have spaces : commentForm.Spaces paddedCode paddedTree :=
    .of_every isPlaced_paddedTree (by decide +kernel)
  obtain ⟨body, d, found, node, text⟩ := finds_paddedMethod
  have ne : docComment d (.ofText paddedCode) ≠ [] := by
    rw [text]
    decide
  obtain ⟨first, rest, comments, -, starts⟩ :=
    Language.not_startsLine_first_iff (l := .ruby) rfl spaces found ne
  exact ⟨spaces, body, d, first, rest, found, node, comments, starts⟩

/-- A comment behind a statement, and a function on the next line. -/
def JavaScript.trailingCode : Text :=
  "let x = 1; /** Doubles every value of the list. */\nfunction f(a) \x7b\n  return a;\n\x7d\n".toList

def JavaScript.trailingComment : Node :=
  .mk ⟨"comment", true, 11, 50, ⟨0, 11⟩, ⟨0, 50⟩, none, 8⟩ []

def JavaScript.trailingTree : Node :=
  .mk ⟨"program", true, 0, 81, ⟨0, 0⟩, ⟨4, 0⟩, none, 0⟩ [
    .mk ⟨"lexical_declaration", true, 0, 10, ⟨0, 0⟩, ⟨0, 10⟩, none, 1⟩ [
      .mk ⟨"let", false, 0, 3, ⟨0, 0⟩, ⟨0, 3⟩, none, 2⟩ [],
      .mk ⟨"variable_declarator", true, 4, 9, ⟨0, 4⟩, ⟨0, 9⟩, none, 3⟩ [
        .mk ⟨"identifier", true, 4, 5, ⟨0, 4⟩, ⟨0, 5⟩, some "name", 4⟩ [],
        .mk ⟨"=", false, 6, 7, ⟨0, 6⟩, ⟨0, 7⟩, none, 5⟩ [],
        .mk ⟨"number", true, 8, 9, ⟨0, 8⟩, ⟨0, 9⟩, some "value", 6⟩ []],
      .mk ⟨";", false, 9, 10, ⟨0, 9⟩, ⟨0, 10⟩, none, 7⟩ []],
    trailingComment,
    .mk ⟨"function_declaration", true, 51, 80, ⟨1, 0⟩, ⟨3, 1⟩, none, 9⟩ [
      .mk ⟨"function", false, 51, 59, ⟨1, 0⟩, ⟨1, 8⟩, none, 10⟩ [],
      .mk ⟨"identifier", true, 60, 61, ⟨1, 9⟩, ⟨1, 10⟩, some "name", 11⟩ [],
      .mk ⟨"formal_parameters", true, 61, 64, ⟨1, 10⟩, ⟨1, 13⟩, some "parameters", 12⟩ [
        .mk ⟨"(", false, 61, 62, ⟨1, 10⟩, ⟨1, 11⟩, none, 13⟩ [],
        .mk ⟨"identifier", true, 62, 63, ⟨1, 11⟩, ⟨1, 12⟩, none, 14⟩ [],
        .mk ⟨")", false, 63, 64, ⟨1, 12⟩, ⟨1, 13⟩, none, 15⟩ []],
      .mk ⟨"statement_block", true, 65, 80, ⟨1, 14⟩, ⟨3, 1⟩, some "body", 16⟩ [
        .mk ⟨"\x7b", false, 65, 66, ⟨1, 14⟩, ⟨1, 15⟩, none, 17⟩ [],
        .mk ⟨"return_statement", true, 69, 78, ⟨2, 2⟩, ⟨2, 11⟩, none, 18⟩ [
          .mk ⟨"return", false, 69, 75, ⟨2, 2⟩, ⟨2, 8⟩, none, 19⟩ [],
          .mk ⟨"identifier", true, 76, 77, ⟨2, 9⟩, ⟨2, 10⟩, none, 20⟩ [],
          .mk ⟨";", false, 77, 78, ⟨2, 10⟩, ⟨2, 11⟩, none, 21⟩ []],
        .mk ⟨"\x7d", false, 79, 80, ⟨3, 0⟩, ⟨3, 1⟩, none, 22⟩ []]]]

/-- The comment behind the statement documents the function. -/
theorem JavaScript.docComment_trailing :
    trailingTree.IsPlaced trailingCode ∧
      ∃ d ∈ rules.moduleFunctions trailingTree, commentForm.comments (.ofText trailingCode) d =
          [trailingComment] ∧
        docComment d (.ofText trailingCode) = "Doubles every value of the list.".toList ∧
        trailingComment.startsLine trailingCode = false ∧
        trailingComment.isBehindMark trailingCode = false :=
  ⟨.of_every (by decide +kernel), _, List.mem_cons_self, rfl, by decide +kernel, by decide +kernel,
    by decide +kernel⟩

end DocHarvest
