import DocHarvest.Proofs.Language.CommentLines

/-!
# Runs of line comments in Go

The documentation of a Go function is a run of line comments right above it. `IsLongestLineRun` says
which run that should be, by what stands before each comment on its line, while `commentRun` looks at
where the sibling before a comment ends.

* `docComment_eq_of_isLongestLineRun` : a first comment on the row where the sibling before it ends
  is left out
* `docComment_eq_longestLineRun_iff` : so the documentation is the longest run just if the sibling
  before that ends on a row above it and no comment behind a byte order mark goes on with it, as far
  as the comments in question have any text
-/

namespace DocHarvest.Go

open Text Doc

theorem isBlock_of_isLine {source : SourceLines} {n : Node}
    (h : commentForm.isLine source n = true) : commentForm.isBlock source n = false := by
  simp only [CommentForm.isLine, Bool.and_eq_true] at h
  obtain ⟨rest, line⟩ := Option.isSome_iff_exists.1 h.2
  rw [dropLead?_eq_some] at line
  rw [← Bool.not_eq_true]
  intro block
  obtain ⟨rest', other⟩ := Option.isSome_iff_exists.1 block
  rw [dropLead?_eq_some, line] at other
  simp [commentForm] at other

/-- Line comments on rows right below one another, each of which passes a test, above a function. -/
structure IsLineRun (opens : Node → Bool) (source : Text) (function : Node) (cs : List Node) :
    Prop where
  comments : ∀ c ∈ cs, commentForm.isLine (.ofText source) c = true
  opening : ∀ c ∈ cs, opens c = true
  rows : (cs ++ [function]).IsChain fun a b => b.label.start.row = a.label.stop.row + 1

/-- The longest of these runs among siblings; `lead` are the siblings before it. -/
structure IsLongestLineRun (opens : Node → Bool) (source : Text) (function : Node)
    (siblings lead cs : List Node) : Prop extends IsLineRun opens source function cs where
  siblings_eq : siblings = lead ++ cs
  longest : ∀ cs', cs' <:+ siblings → IsLineRun opens source function cs' → cs'.length ≤ cs.length

section

variable {opens : Node → Bool} {source : Text} {function c p : Node} {siblings lead cs : List Node}

/-! ## Longest runs -/

theorem isLineRun_cons_cons : IsLineRun opens source function (p :: c :: cs) ↔
    commentForm.isLine (.ofText source) p = true ∧ opens p = true ∧
      c.label.start.row = p.label.stop.row + 1 ∧ IsLineRun opens source function (c :: cs) := by
  constructor
  · rintro ⟨comments, opening, rows⟩
    obtain ⟨comment, comments⟩ := List.forall_mem_cons.1 comments
    obtain ⟨first, opening⟩ := List.forall_mem_cons.1 opening
    obtain ⟨below, rows⟩ := List.isChain_cons_cons.1 rows
    exact ⟨comment, first, below, comments, opening, rows⟩
  · rintro ⟨comment, first, below, comments, opening, rows⟩
    exact ⟨List.forall_mem_cons.2 ⟨comment, comments⟩, List.forall_mem_cons.2 ⟨first, opening⟩,
      List.isChain_cons_cons.2 ⟨below, rows⟩⟩

theorem IsLineRun.of_suffix {cs' : List Node} (h : IsLineRun opens source function cs')
    (suffix : cs <:+ cs') : IsLineRun opens source function cs where
  comments c hc := h.comments c (suffix.subset hc)
  opening c hc := h.opening c (suffix.subset hc)
  rows := by
    obtain ⟨front, rfl⟩ := suffix
    have rows := h.rows
    rw [List.append_assoc] at rows
    exact rows.right_of_append

/-- A run is the longest one just if the sibling before it does not go on with it. -/
theorem isLongestLineRun_iff : IsLongestLineRun opens source function siblings lead cs ↔
    siblings = lead ++ cs ∧ IsLineRun opens source function cs ∧
      ∀ p ∈ lead.getLast?, ¬IsLineRun opens source function (p :: cs) := by
  constructor
  · intro h
    refine ⟨h.siblings_eq, h.toIsLineRun, fun p hp run => ?_⟩
    obtain ⟨lead, rfl⟩ := List.getLast?_eq_some_iff.1 hp
    have le := h.longest (p :: cs) ⟨lead, by rw [h.siblings_eq]; simp⟩ run
    exact absurd le (by simp)
  · rintro ⟨rfl, run, stop⟩
    refine ⟨run, rfl, fun cs' suffix run' => ?_⟩
    by_contra longer
    rw [Nat.not_le] at longer
    obtain ⟨more, rfl⟩ :=
      List.suffix_of_suffix_length_le (List.suffix_append lead cs) suffix longer.le
    rcases List.eq_nil_or_concat more with rfl | ⟨more, p, rfl⟩
    · exact absurd longer (by simp)
    · obtain ⟨front, eq⟩ := suffix
      rw [← List.append_assoc, List.append_cancel_right_eq] at eq
      have last : p ∈ lead.getLast? := by simp [← eq]
      exact stop p last (run'.of_suffix ⟨more, by simp⟩)

/-! ## The run that is found -/

/-- A run that ends right above a function is a part of the one that `commentRun` finds, but for its
first comment if that does not start its row. -/
theorem suffix_commentRun_of_isLineRun {last : Site}
    (h : IsLineRun opens source function (c :: cs)) (upTo : last.upTo = lead ++ c :: cs) :
    (if startsRow c lead.getLast? then c :: cs else cs) <:+
      commentRun last (commentForm.isLine (.ofText source)) := by
  have rows := h.rows.left_of_append
  split
  · next starts =>
    have run : IsRun (commentForm.isLine (.ofText source)) lead (c :: cs) :=
      ⟨h.comments, by simpa using starts, rows⟩
    exact run.suffix_commentRun upTo
  · have run : IsRun (commentForm.isLine (.ofText source)) (lead ++ [c]) cs := by
      refine ⟨fun n hn => h.comments n (List.mem_cons_of_mem c hn), fun n hn => ?_, rows.tail⟩
      have below := (List.isChain_cons.1 rows).1 n hn
      simp [startsRow, below]
    exact run.suffix_commentRun (by simp [upTo])

theorem commentRun_eq_of_isLongestLineRun {last : Site}
    (h : IsLongestLineRun opens source function last.upTo lead (c :: cs))
    (found : IsLineRun opens source function
      (commentRun last (commentForm.isLine (.ofText source)))) :
    commentRun last (commentForm.isLine (.ofText source)) =
      if startsRow c lead.getLast? then c :: cs else cs := by
  obtain ⟨lead', upTo, run⟩ := isRun_commentRun last (commentForm.isLine (.ofText source))
  have le := h.longest _ ⟨lead', upTo.symm⟩ found
  have suffix := suffix_commentRun_of_isLineRun h.toIsLineRun h.siblings_eq
  refine (suffix.eq_of_length_le ?_).symm
  split
  · exact le
  · next inside =>
    -- a run of the same length would have the same first comment, which starts its row
    by_contra longer
    have same : (commentRun last (commentForm.isLine (.ofText source))).length =
        (c :: cs).length := by
      rw [List.length_cons] at le ⊢
      omega
    obtain ⟨rfl, eq⟩ := List.append_inj' (upTo.symm.trans h.siblings_eq) same
    rw [eq] at run
    exact inside (run.first c rfl)

end

/-- The run that `commentRun` finds right above a function is one of comments that open their
lines. -/
theorem isLineRun_commentRun {source : Text} {root parent function : Node} {last : Site}
    {rest : List Node} (spaces : commentForm.Spaces source root) (inside : parent.IsIn root)
    (children : parent.children = last.upTo ++ rest)
    (below : function.label.start.row = last.node.label.stop.row + 1) :
    IsLineRun (·.opensLine source) source function
      (commentRun last (commentForm.isLine (.ofText source))) := by
  obtain ⟨lead, upTo, run⟩ := isRun_commentRun last (commentForm.isLine (.ofText source))
  refine ⟨run.comments, spaces.opensLine_of_isRun inside (upTo ▸ children) run,
    List.isChain_append.2 ⟨run.rows, List.isChain_singleton _, ?_⟩⟩
  rintro n hn _ ⟨⟩
  rw [Site.getLast?_of_upTo_eq upTo (List.ne_nil_of_mem (List.mem_of_getLast? hn))] at hn
  obtain rfl := Option.some.inj hn
  exact below

/-! ## Documentation -/

/-- What a comment says. -/
def commentText (source : Text) (comment : Node) : Text :=
  stripSlashMarkers (comment.text (.ofText source))

/-- The documentation of a function is the longest run of comments that open their lines right above
it, without the first of them if that starts on the row where the sibling before it ends. -/
theorem docComment_eq_of_isLongestLineRun {source : Text} {root : Node}
    (spaces : commentForm.Spaces source root) {d : DefinitionSite}
    (hd : d ∈ rules.moduleFunctions root) {lead cs : List Node} {c : Node}
    (h : IsLongestLineRun (·.opensLine source) source d.anchor (root.children.take d.index) lead
      (c :: cs)) :
    docComment d (.ofText source) = trim (joinLines
      ((if startsRow c lead.getLast? then c :: cs else cs).map (commentText source))) := by
  have anchored : d.AnchoredIn { node := root } := anchoredIn_of_mem_functions hd
  obtain ⟨last, previous, upTo⟩ := anchored.upTo_eq_take (by simp [h.siblings_eq])
  rw [← upTo] at h
  have isLast : (c :: cs).getLast? = some last.node :=
    Site.getLast?_of_upTo_eq h.siblings_eq (List.cons_ne_nil c cs)
  have line := h.comments _ (List.mem_of_getLast? isLast)
  have below : d.anchor.label.start.row = last.node.label.stop.row + 1 :=
    (List.isChain_append.1 h.rows).2.2 _ isLast _ rfl
  obtain ⟨parent, next, rest, inside, children, -⟩ :=
    anchored.exists_children_eq (.inl rfl) previous
  have lastIn : last.node.IsIn root :=
    .child inside (children ▸ List.mem_append_left _ (List.mem_of_getLast? last.getLast?_upTo))
  have adjacent : isAdjacent last.node d.anchor = true := by
    have apart := spaces.endByte_le_of_row_lt lastIn (anchored.anchor_isIn (.inl rfl)) (by omega)
    simp [isAdjacent, below, apart]
  have docComment_eq : docComment d (.ofText source) =
    commentForm.read (.ofText source) stripSlashMarkers d := rfl
  rw [docComment_eq, CommentForm.read_eq, CommentForm.comments_eq_commentRun previous adjacent line
    (isBlock_of_isLine line),
    commentRun_eq_of_isLongestLineRun h (isLineRun_commentRun spaces inside children below)]
  rfl

/-! ## Lines behind a byte order mark -/

/-- A comment behind a byte order mark that stands on the line above another one. -/
structure IsMarkedAbove (source : Text) (c p : Node) : Prop where
  comment : commentForm.isLine (.ofText source) p = true
  opens : p.opensLine source = true
  marked : p.isBehindMark source = true
  below : c.label.start.row = p.label.stop.row + 1

/-- Where a byte order mark is left aside, the longest run is the same or has one comment more. -/
theorem IsLongestLineRun.opensLine_cases {source : Text} {function c : Node}
    {siblings lead cs : List Node}
    (start : ∀ p ∈ siblings, p.label.start = Point.ofOffset source p.label.startByte)
    (h : IsLongestLineRun (·.startsLine source) source function siblings lead (c :: cs)) :
    (∀ p ∈ lead.getLast?, ¬IsMarkedAbove source c p) ∧
        IsLongestLineRun (·.opensLine source) source function siblings lead (c :: cs) ∨
      ∃ front p, lead = front ++ [p] ∧ IsMarkedAbove source c p ∧ p.label.start.row = 0 ∧
        IsLongestLineRun (·.opensLine source) source function siblings front (p :: c :: cs) := by
  obtain ⟨eq, run, stop⟩ := isLongestLineRun_iff.1 h
  have opened : IsLineRun (·.opensLine source) source function (c :: cs) :=
    ⟨run.comments, fun c hc => (Node.startsLine_iff.1 (run.opening c hc)).1, run.rows⟩
  by_cases above : ∃ p ∈ lead.getLast?, IsMarkedAbove source c p
  · obtain ⟨p, hp, above⟩ := above
    obtain ⟨front, rfl⟩ := List.getLast?_eq_some_iff.1 hp
    have first : p.label.start.row = 0 :=
      Node.row_eq_zero_of_isBehindMark (start p (by simp [eq])) above.opens above.marked
    have more : IsLineRun (·.opensLine source) source function (p :: c :: cs) :=
      isLineRun_cons_cons.2 ⟨above.comment, above.opens, above.below, opened⟩
    refine .inr ⟨front, p, rfl, above, first,
      isLongestLineRun_iff.2 ⟨by simp [eq], more, fun q hq run' => ?_⟩⟩
    obtain ⟨-, -, below, -⟩ := isLineRun_cons_cons.1 run'
    omega
  · refine .inl ⟨fun p hp marked => above ⟨p, hp, marked⟩,
      isLongestLineRun_iff.2 ⟨eq, opened, fun p hp run' => ?_⟩⟩
    obtain ⟨comment, opens, below, -⟩ := isLineRun_cons_cons.1 run'
    cases marked : p.isBehindMark source with
    | true => exact above ⟨p, hp, comment, opens, marked, below⟩
    | false =>
      have starts : p.startsLine source = true := Node.startsLine_iff.2 ⟨opens, marked⟩
      exact stop p hp (isLineRun_cons_cons.2 ⟨comment, starts, below, run⟩)

/-- The documentation of a function is the longest run of comments right above it with only white
space before each of them on its line, unless the sibling before the run ends on the row of its first
comment, which is then left out, or the first line of the source is a comment behind a byte order mark
right above the run, which is then taken in. A comment that says nothing makes no difference. -/
theorem docComment_eq_longestLineRun_iff {source : Text} {root : Node}
    (spaces : commentForm.Spaces source root) {d : DefinitionSite}
    (hd : d ∈ rules.moduleFunctions root) {lead cs : List Node} {c : Node}
    (h : IsLongestLineRun (·.startsLine source) source d.anchor (root.children.take d.index) lead
      (c :: cs)) :
    docComment d (.ofText source) = trim (joinLines ((c :: cs).map (commentText source))) ↔
      (startsRow c lead.getLast? = true ∨ IsBlank (commentText source c)) ∧
        ∀ p, lead = [p] → IsMarkedAbove source c p → IsBlank (commentText source p) := by
  have start : ∀ p ∈ root.children.take d.index,
      p.label.start = Point.ofOffset source p.label.startByte := fun p hp =>
    spaces.start (.child (.refl root) (List.mem_of_mem_take hp))
  rcases h.opensLine_cases start with ⟨none, longest⟩ | ⟨front, p, rfl, above, first, longest⟩
  · have unmarked : ∀ p, lead = [p] → IsMarkedAbove source c p → IsBlank (commentText source p) := by
      rintro p rfl above
      exact absurd above (none p rfl)
    rw [docComment_eq_of_isLongestLineRun spaces hd longest, and_iff_left unmarked]
    split
    · next starts => simp [starts]
    · next inside =>
      rw [eq_comm, List.map_cons, trim_joinLines_cons_eq_iff, or_iff_right inside]
  · have starts : startsRow c (front ++ [p]).getLast? = true := by
      simp [startsRow, above.below]
    rw [docComment_eq_of_isLongestLineRun spaces hd longest, and_iff_right (.inl starts)]
    split
    · next opening =>
      -- on the first row nothing can end above
      obtain rfl : front = [] := by
        rcases List.eq_nil_or_concat front with rfl | ⟨front, q, rfl⟩
        · rfl
        · simp [startsRow, first] at opening
      rw [List.map_cons, trim_joinLines_cons_eq_iff]
      constructor
      · rintro blank _ ⟨⟩ -
        exact blank
      · exact fun blank => blank p rfl above
    · next inside =>
      simp only [true_iff]
      intro q single
      have alone : front = [] := by simpa using congrArg List.length single
      exact absurd rfl (alone ▸ inside)

/-- A comment above a function, below a declaration. -/
def declaredCode : Text := "var x int\n// f does nothing.\nfunc f() \x7b\x7d\n".toList

def declaration : Node := .mk ⟨"var_declaration", true, 0, 9, ⟨0, 0⟩, ⟨0, 9⟩, none, 1⟩ []

/-- A node for the line feed behind the declaration. -/
def lineFeed : Node := .mk ⟨"\n", false, 9, 10, ⟨0, 9⟩, ⟨1, 0⟩, none, 2⟩ []

def declaredComment : Node := .mk ⟨"comment", true, 10, 28, ⟨1, 0⟩, ⟨1, 18⟩, none, 3⟩ []

def declaredFunction : Node :=
  .mk ⟨"function_declaration", true, 29, 40, ⟨2, 0⟩, ⟨2, 11⟩, none, 4⟩ []

/-- The tree of `declaredCode`, with what there is between the declaration and the comment. -/
def declaredTree (between : List Node) : Node :=
  .mk ⟨"source_file", true, 0, 41, ⟨0, 0⟩, ⟨3, 0⟩, none, 0⟩
    (declaration :: between ++ [declaredComment, declaredFunction])

theorem isLongestLineRun_declared (lead : List Node)
    (h : ∀ p ∈ lead.getLast?, commentForm.isLine (.ofText declaredCode) p = false) :
    IsLongestLineRun (·.startsLine declaredCode) declaredCode declaredFunction
      (lead ++ [declaredComment]) lead [declaredComment] := by
  have run : IsLineRun (·.startsLine declaredCode) declaredCode declaredFunction
      [declaredComment] := ⟨by decide +kernel, by decide +kernel, by decide +kernel⟩
  refine isLongestLineRun_iff.2 ⟨rfl, run, fun p hp more => ?_⟩
  have comment := more.comments p List.mem_cons_self
  rw [h p hp] at comment
  exact absurd comment Bool.false_ne_true

theorem docComment_declared :
    commentForm.Spaces declaredCode (declaredTree []) ∧
      ∃ d ∈ rules.moduleFunctions (declaredTree []),
        IsLongestLineRun (·.startsLine declaredCode) declaredCode d.anchor
          ((declaredTree []).children.take d.index) [declaration] [declaredComment] ∧
        docComment d (.ofText declaredCode) = "f does nothing.".toList := by
  have spaces : commentForm.Spaces declaredCode (declaredTree []) :=
    .of_every (.of_every (by decide +kernel)) (by decide +kernel)
  have longest := isLongestLineRun_declared [declaration] (by decide +kernel)
  refine ⟨spaces, _, List.mem_cons_self, longest, ?_⟩
  rw [(docComment_eq_longestLineRun_iff spaces List.mem_cons_self longest).2 ⟨.inl rfl, ?_⟩]
  · decide +kernel
  · rintro _ ⟨⟩ above
    exact absurd above.comment (by decide +kernel)

/-- With a node for the line feed behind the declaration, the comment is still the longest run above
the function, but the function has no documentation. -/
theorem docComment_ne_of_lineFeed :
    commentForm.Spaces declaredCode (declaredTree [lineFeed]) ∧
      ∃ d ∈ rules.moduleFunctions (declaredTree [lineFeed]),
        IsLongestLineRun (·.startsLine declaredCode) declaredCode d.anchor
          ((declaredTree [lineFeed]).children.take d.index) [declaration, lineFeed]
          [declaredComment] ∧
        trim (joinLines ([declaredComment].map (commentText declaredCode))) =
          "f does nothing.".toList ∧
        docComment d (.ofText declaredCode) = [] := by
  have longest := isLongestLineRun_declared [declaration, lineFeed] (by decide +kernel)
  exact ⟨.of_every (.of_every (by decide +kernel)) (by decide +kernel), _, List.mem_cons_self,
    longest, by decide +kernel, by decide +kernel⟩

/-- Two comments above a function, the first of them behind a byte order mark. -/
def markedCode : Text :=
  "\ufeff// F does some useful work here.\n".toList ++
    "// It works on all the rows.\nfunc F() \x7b\n\treturn\n\x7d\n".toList

def markedTree : Node :=
  .mk ⟨"source_file", true, 3, 86, ⟨0, 3⟩, ⟨5, 0⟩, none, 0⟩ [
    .mk ⟨"comment", true, 3, 35, ⟨0, 3⟩, ⟨0, 35⟩, none, 1⟩ [],
    .mk ⟨"comment", true, 36, 64, ⟨1, 0⟩, ⟨1, 28⟩, none, 2⟩ [],
    .mk ⟨"function_declaration", true, 65, 85, ⟨2, 0⟩, ⟨4, 1⟩, none, 3⟩ []]

/-- Of the comments only the second starts its line; both are taken. -/
example :
    markedTree.children.map (·.startsLine markedCode) = [false, true, true] ∧
      (rules.moduleFunctions markedTree).map (docComment · (.ofText markedCode)) =
        ["F does some useful work here.\nIt works on all the rows.".toList] := by
  decide +kernel

end DocHarvest.Go
