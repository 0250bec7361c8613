import DocHarvest.Doc.Marker
import DocHarvest.Proofs.Text.Lines
import Mathlib.Data.List.Forall2

/-!
# Comments without their markers

What `blockComment`, `lineComment` and `hashComment` put around lines of text, `stripSlashMarkers` and
`stripHashMarkers` take off again, however far each line is indented. From a line behind a star or two
slashes no more is taken than the end of a block comment, if the line ends with one
(`stripSlashLine_marked`): in a block comment that ends the comment, but in a comment of slashes it is
text, which is lost (`stripSlashMarkers_lineComment_eq_iff`). From a line behind a hash nothing is
taken (`stripHashLine_hash`), not even if it begins with more hashes or like a fence.
-/

namespace DocHarvest.Doc

open Text

variable {l line marker : Text} {ls written : List Text}

/-! ## Writing comments -/

/-- The lines of a block comment around lines of text. -/
def blockComment (ls : List Text) : List Text :=
  "/**".toList :: ls.map (" * ".toList ++ ·) ++ [" */".toList]

/-- The lines of a comment with two slashes before each line of text. -/
def lineComment (ls : List Text) : List Text := ls.map ("// ".toList ++ ·)

/-- The lines of a comment with a hash before each line of text. -/
def hashComment (ls : List Text) : List Text := ls.map ("# ".toList ++ ·)

/-- The line, with white space before it on the same line. -/
def IsIndented (line written : Text) : Prop :=
  ∃ indent, IsBlank indent ∧ '\n' ∉ indent ∧ written = indent ++ line

theorem map_trim_of_indented (h : List.Forall₂ IsIndented ls written) :
    written.map trim = ls.map trim := by
  induction h with
  | nil => rfl
  | cons indented _ ih =>
    obtain ⟨indent, blank, -, rfl⟩ := indented
    rw [List.map_cons, List.map_cons, trim_append_left blank, ih]

theorem newline_not_mem_of_indented (h : List.Forall₂ IsIndented ls written)
    (newline : ∀ l ∈ ls, '\n' ∉ l) : ∀ l ∈ written, '\n' ∉ l := by
  induction h with
  | nil => exact List.forall_mem_nil _
  | cons indented _ ih =>
    obtain ⟨indent, -, single, rfl⟩ := indented
    obtain ⟨first, newline⟩ := List.forall_mem_cons.1 newline
    refine List.forall_mem_cons.2 ⟨fun mem => ?_, ih newline⟩
    exact (List.mem_append.1 mem).elim single first

/-- What is done to lines without regard to the white space at their ends does not depend on how far
they are indented. -/
theorem map_of_indented {α : Type} {f : Text → α} (h : List.Forall₂ IsIndented ls written)
    (congr : ∀ l, f (trim l) = f l) : written.map f = ls.map f := by
  have through : ∀ ls : List Text, ls.map f = (ls.map trim).map f := fun ls => by
    rw [List.map_map]
    exact List.map_congr_left fun l _ => (congr l).symm
  rw [through written, through ls, map_trim_of_indented h]

theorem newline_not_mem_map {lead : Text} (h : '\n' ∉ lead) (newline : ∀ l ∈ ls, '\n' ∉ l) :
    ∀ line ∈ ls.map (lead ++ ·), '\n' ∉ line := by
  intro line mem
  obtain ⟨l, hl, rfl⟩ := List.mem_map.1 mem
  exact fun mem => (List.mem_append.1 mem).elim h (newline l hl)

/-- A marker and a space before a trimmed text. -/
theorem trim_append_space (hm : IsLine marker) (h : IsTrimmed l) :
    trim (marker ++ ' ' :: l) = if l = [] then marker else marker ++ ' ' :: l := by
  split
  · next e =>
    rw [e]
    exact (trim_append marker (by decide : IsBlank [' '])).trans hm.trim_eq
  · next ne =>
    obtain ⟨x, l, rfl⟩ := List.exists_cons_of_ne_nil ne
    refine IsTrimmed.trim_eq ⟨fun d hd => hm.head d ?_, fun d hd => h.last d ?_⟩
    · obtain ⟨c, marker, rfl⟩ := List.exists_cons_of_ne_nil hm.ne
      exact hd
    · simpa [List.getLast?_cons] using hd

/-! ## Lines behind a marker -/

/-- A text without the end of a block comment that it ends with. -/
def dropEnd (t : Text) : Text := trim ((dropTail? blockEnd t).getD t)

/-- A trimmed text stays as it is if it does not end a block comment. -/
theorem dropEnd_eq_self_iff (h : IsTrimmed l) : dropEnd l = l ↔ ¬blockEnd <:+ l := by
  unfold dropEnd
  cases e : dropTail? blockEnd l with
  | none => simp [h.trim_eq, dropTail?_eq_none.1 e]
  | some rest =>
    obtain rfl := dropTail?_eq_some.1 e
    refine iff_of_false (fun same => ?_) (not_not_intro (List.suffix_append _ _))
    have short := length_trim_le rest
    have := congrArg List.length same
    simp only [Option.getD_some, List.length_append, blockEnd] at this
    simp at this
    omega

theorem mem_of_mem_dropEnd {c : Char} (h : c ∈ dropEnd l) : c ∈ l := by
  have mem := mem_of_mem_trim h
  cases e : dropTail? blockEnd l with
  | none => rwa [e] at mem
  | some rest =>
    rw [e] at mem
    rw [dropTail?_eq_some.1 e]
    exact List.mem_append_left _ mem

theorem newline_not_mem_map_dropEnd (newline : ∀ l ∈ ls, '\n' ∉ l) :
    ∀ line ∈ ls.map dropEnd, '\n' ∉ line := by
  intro line mem
  obtain ⟨l, hl, rfl⟩ := List.mem_map.1 mem
  exact fun mem => newline l hl (mem_of_mem_dropEnd mem)

theorem map_dropEnd_eq_self_iff (trimmed : ∀ l ∈ ls, IsTrimmed l) :
    ls.map dropEnd = ls ↔ ∀ l ∈ ls, ¬blockEnd <:+ l := by
  conv => lhs; rhs; rw [← List.map_id ls]
  rw [List.map_inj_left]
  exact forall₂_congr fun l hl => dropEnd_eq_self_iff (trimmed l hl)

/-- The end of a comment has no space, so none begins before the space that a line stands behind. -/
theorem dropTail?_blockEnd_append (lead l : Text) :
    dropTail? blockEnd (lead ++ ' ' :: l) =
      (dropTail? blockEnd l).map (lead ++ ' ' :: ·) := by
  have solid : ' ' ∉ blockEnd := by decide
  cases e : dropTail? blockEnd l with
  | some rest =>
    obtain rfl := dropTail?_eq_some.1 e
    exact dropTail?_eq_some.2 (List.append_assoc lead (' ' :: rest) blockEnd).symm
  | none =>
    refine dropTail?_eq_none.2 fun ended => ?_
    rcases List.suffix_or_suffix_of_suffix ended (List.suffix_append lead (' ' :: l)) with s | s
    · rcases List.suffix_cons_iff.1 s with e' | s
      · exact solid (e' ▸ List.mem_cons_self)
      · exact dropTail?_eq_none.1 e s
    · exact solid (s.subset List.mem_cons_self)

/-- A marker of a comment that is taken off a line with nothing but the space behind it. -/
structure IsLineMarker (marker : Text) : Prop extends IsLine marker where
  taken : ∀ t, dropMarker? slashMarkers (marker ++ ' ' :: t) = some (' ' :: t)
  alone : stripSlashLine marker = []

theorem isLineMarker_star : IsLineMarker ['*'] := ⟨by decide, fun _ => rfl, by decide⟩

theorem isLineMarker_slashes : IsLineMarker ['/', '/'] := ⟨by decide, fun _ => rfl, by decide⟩

theorem stripSlashLine_trim (l : Text) : stripSlashLine (trim l) = stripSlashLine l := by
  simp only [stripSlashLine, trim_trim]

/-- Of a line behind a marker nothing is lost but the end of a block comment. -/
theorem stripSlashLine_marked (hm : IsLineMarker marker) (h : IsTrimmed l) :
    stripSlashLine (marker ++ ' ' :: l) = dropEnd l := by
  have start := trim_append_space hm.toIsLine h
  by_cases empty : l = []
  · subst empty
    rw [if_pos rfl] at start
    rw [← stripSlashLine_trim, start, hm.alone]
    decide
  · rw [if_neg empty] at start
    calc
      _ = trim ((dropMarker? slashMarkers ((dropTail? blockEnd (marker ++ ' ' :: l)).getD
            (marker ++ ' ' :: l))).getD ((dropTail? blockEnd (marker ++ ' ' :: l)).getD
            (marker ++ ' ' :: l))) := by simp only [stripSlashLine, start]
      _ = trim (' ' :: (dropTail? blockEnd l).getD l) := by
        rw [dropTail?_blockEnd_append, Option.getD_map (marker ++ ' ' :: ·), hm.taken,
          Option.getD_some]
      _ = _ := trim_append_left (by decide : IsBlank [' ']) _

/-! ## Block comments -/

theorem stripSlashLine_gutter (h : IsTrimmed l) :
    stripSlashLine (" * ".toList ++ l) = dropEnd l := by
  have start : trim (" * ".toList ++ l) = trim (['*'] ++ ' ' :: l) :=
    trim_append_left (by decide : IsBlank [' ']) _
  rw [← stripSlashLine_trim, start, stripSlashLine_trim, stripSlashLine_marked isLineMarker_star h]

theorem newline_not_mem_blockComment (newline : ∀ l ∈ ls, '\n' ∉ l) :
    ∀ l ∈ blockComment ls, '\n' ∉ l := by
  have gutter : '\n' ∉ " * ".toList := by decide
  have edges : '\n' ∉ "/**".toList ∧ '\n' ∉ " */".toList := by decide
  intro line mem
  simp only [blockComment, List.cons_append, List.mem_cons, List.mem_append, List.not_mem_nil,
    or_false] at mem
  rcases mem with rfl | mem | rfl
  · exact edges.1
  · exact newline_not_mem_map gutter newline line mem
  · exact edges.2

/-- The lines of a block comment come back if and only if none of them ends the comment. -/
theorem stripSlashMarkers_eq_iff (trimmed : ∀ l ∈ ls, IsTrimmed l) (newline : ∀ l ∈ ls, '\n' ∉ l)
    (h : List.Forall₂ IsIndented (blockComment ls) written) :
    stripSlashMarkers (joinLines written) = joinLines ([] :: ls ++ [[]]) ↔
      ∀ l ∈ ls, ¬blockEnd <:+ l := by
  have ne : written ≠ [] := by
    rintro rfl
    cases h
  have stripped : written.map stripSlashLine = [] :: ls.map dropEnd ++ [[]] := by
    have edges : stripSlashLine "/**".toList = [] ∧ stripSlashLine " */".toList = [] := by decide
    have inner : (ls.map (" * ".toList ++ ·)).map stripSlashLine = ls.map dropEnd := by
      rw [List.map_map]
      exact List.map_congr_left fun l hl => stripSlashLine_gutter (trimmed l hl)
    rw [map_of_indented h stripSlashLine_trim, blockComment, List.map_append, List.map_cons,
      List.map_singleton, edges.1, edges.2, inner]
  rw [stripSlashMarkers, splitLines_joinLines ne
    (newline_not_mem_of_indented h (newline_not_mem_blockComment newline)), stripped,
    ← map_dropEnd_eq_self_iff trimmed]
  refine ⟨fun same => ?_, fun same => by rw [same]⟩
  have framed : ∀ {ls : List Text}, (∀ l ∈ ls, '\n' ∉ l) →
      splitLines (joinLines ([] :: ls ++ [[]])) = [] :: ls ++ [[]] := by
    intro ls newline
    refine splitLines_joinLines (by simp) ?_
    simpa [or_imp, forall_and] using newline
  have same := congrArg splitLines same
  rw [framed newline, framed (newline_not_mem_map_dropEnd newline)] at same
  simpa using same

/-! ## Comments of slashes -/

theorem stripSlashLine_slashes (h : IsTrimmed l) :
    stripSlashLine ("// ".toList ++ l) = dropEnd l := by
  have slashes : "// ".toList ++ l = ['/', '/'] ++ ' ' :: l := rfl
  rw [slashes, stripSlashLine_marked isLineMarker_slashes h]

theorem stripSlashMarkers_lineComment (trimmed : ∀ l ∈ ls, IsTrimmed l)
    (newline : ∀ l ∈ ls, '\n' ∉ l) (h : List.Forall₂ IsIndented (lineComment ls) written) :
    stripSlashMarkers (joinLines written) = joinLines (ls.map dropEnd) := by
  have stripped : written.map stripSlashLine = ls.map dropEnd := by
    rw [map_of_indented h stripSlashLine_trim, lineComment, List.map_map]
    exact List.map_congr_left fun l hl => stripSlashLine_slashes (trimmed l hl)
  by_cases ne : written = []
  · -- no line at all is read as one empty line
    subst ne
    rw [← stripped]
    decide
  · have slashes : '\n' ∉ "// ".toList := by decide
    have lines := newline_not_mem_of_indented h (newline_not_mem_map slashes newline)
    rw [stripSlashMarkers, splitLines_joinLines ne lines, stripped]

/-- What stands behind two slashes comes back, line by line, without the end of a block comment that a
line ends with; so all of it comes back if and only if no line ends with one. -/
theorem stripSlashMarkers_lineComment_eq_iff (trimmed : ∀ l ∈ ls, IsTrimmed l)
    (newline : ∀ l ∈ ls, '\n' ∉ l) (h : List.Forall₂ IsIndented (lineComment ls) written) :
    stripSlashMarkers (joinLines written) = joinLines (ls.map dropEnd) ∧
    (stripSlashMarkers (joinLines written) = joinLines ls ↔ ∀ l ∈ ls, ¬blockEnd <:+ l) := by
  have stripped := stripSlashMarkers_lineComment trimmed newline h
  refine ⟨stripped, ?_⟩
  rw [stripped, ← map_dropEnd_eq_self_iff trimmed]
  refine ⟨fun same => ?_, fun same => by rw [same]⟩
  by_cases ne : ls = []
  · rw [ne, List.map_nil]
  · have same := congrArg splitLines same
    rwa [splitLines_joinLines ne newline, splitLines_joinLines (by simpa using ne)
      (newline_not_mem_map_dropEnd newline)] at same

/-- Lines that begin like markers, hold an end of a block comment or are one without its star, and an
empty one. -/
def slashedLines : List Text := ["/ slash", "", "*/ closes", "/", "** stars *"].map String.toList

/-- The same lines behind slashes, indented by a tab, spaces and a no-break space. -/
def slashedComment : List Text :=
  ["\t// / slash", "// ", "  // */ closes", "\u00a0// /", "// ** stars *"].map String.toList

theorem stripSlashMarkers_slashedLines :
    (∀ l ∈ slashedLines, IsTrimmed l) ∧ (∀ l ∈ slashedLines, '\n' ∉ l) ∧
    List.Forall₂ IsIndented (lineComment slashedLines) slashedComment ∧
    (∀ l ∈ slashedLines, ¬blockEnd <:+ l) ∧
    stripSlashMarkers (joinLines slashedComment) = joinLines slashedLines := by
  have trimmed : ∀ l ∈ slashedLines, IsTrimmed l := by decide
  have newline : ∀ l ∈ slashedLines, '\n' ∉ l := by decide
  have unended : ∀ l ∈ slashedLines, ¬blockEnd <:+ l := by decide
  have indented : ∀ indent line : Text, IsBlank indent → '\n' ∉ indent →
      IsIndented line (indent ++ line) := fun indent _ blank single => ⟨indent, blank, single, rfl⟩
  have comment : List.Forall₂ IsIndented (lineComment slashedLines) slashedComment :=
    .cons (indented ['\t'] _ (by decide) (by decide)) <|
    .cons (indented [] _ (by decide) (by decide)) <|
    .cons (indented [' ', ' '] _ (by decide) (by decide)) <|
    .cons (indented ['\u00a0'] _ (by decide) (by decide)) <|
    .cons (indented [] _ (by decide) (by decide)) .nil
  have ⟨_, back⟩ := stripSlashMarkers_lineComment_eq_iff trimmed newline comment
  exact ⟨trimmed, newline, comment, unended, back.2 unended⟩

/-- A pattern for directories at the end of a line loses its last two characters, as if they ended a
block comment. -/
theorem stripSlashMarkers_globPattern :
    IsTrimmed "Keeps the files under docs/*/".toList ∧
    '\n' ∉ "Keeps the files under docs/*/".toList ∧
    List.Forall₂ IsIndented (lineComment ["Keeps the files under docs/*/".toList])
      ["// Keeps the files under docs/*/".toList] ∧
    stripSlashMarkers (joinLines ["// Keeps the files under docs/*/".toList]) =
      "Keeps the files under docs/".toList ∧
    stripSlashMarkers (joinLines ["// Keeps the files under docs/*/".toList]) ≠
      joinLines ["Keeps the files under docs/*/".toList] := by
  have result : stripSlashMarkers (joinLines ["// Keeps the files under docs/*/".toList]) =
      "Keeps the files under docs/".toList := by decide +kernel
  refine ⟨by decide, by decide, .cons ⟨[], by decide, by decide, rfl⟩ .nil, result, ?_⟩
  rw [result]
  decide

/-! ## Comments of hashes -/

theorem stripHashLine_trim (l : Text) : stripHashLine (trim l) = stripHashLine l := by
  rw [stripHashLine, trim_trim, stripHashLine]

theorem isFence_trim (l : Text) : isFence (trim l) = isFence l := by
  rw [isFence, trim_trim, isFence]

theorem stripHashLine_hash (h : IsTrimmed l) : stripHashLine ("# ".toList ++ l) = l := by
  have start : trim ("# ".toList ++ l) = if l = [] then ['#'] else '#' :: ' ' :: l :=
    trim_append_space (by decide : IsLine ['#']) h
  rw [stripHashLine, start]
  split
  · next e => rw [e]; decide
  · exact (trim_append_left (by decide : IsBlank [' ']) l).trans h.trim_eq

theorem isFence_hash (h : IsTrimmed l) : isFence ("# ".toList ++ l) = false := by
  have start : trim ("# ".toList ++ l) = if l = [] then ['#'] else '#' :: ' ' :: l :=
    trim_append_space (by decide : IsLine ['#']) h
  rw [isFence, start]
  split <;> rfl

/-- Each line of text comes back, and none is taken for a fence. -/
theorem stripHashMarkers_eq (trimmed : ∀ l ∈ ls, IsTrimmed l) (newline : ∀ l ∈ ls, '\n' ∉ l)
    (h : List.Forall₂ IsIndented (hashComment ls) written) :
    (∀ line ∈ written, isFence line = false) ∧
    stripHashMarkers (joinLines written) = joinLines ls := by
  have unfenced : written.map isFence = ls.map fun _ => false := by
    rw [map_of_indented h isFence_trim, hashComment, List.map_map]
    exact List.map_congr_left fun l hl => isFence_hash (trimmed l hl)
  have stripped : written.map stripHashLine = ls := by
    rw [map_of_indented h stripHashLine_trim, hashComment, List.map_map]
    exact (List.map_congr_left fun l hl => stripHashLine_hash (trimmed l hl)).trans (List.map_id ls)
  have fence : ∀ line ∈ written, isFence line = false := by
    intro line mem
    have mem := List.mem_map_of_mem (f := isFence) mem
    rw [unfenced] at mem
    obtain ⟨-, -, e⟩ := List.mem_map.1 mem
    exact e.symm
  refine ⟨fence, ?_⟩
  by_cases ne : written = []
  · -- no line at all is read as one empty line
    subst ne
    obtain rfl : ls = [] := stripped.symm
    decide
  have hash : '\n' ∉ "# ".toList := by decide
  have line := newline_not_mem_of_indented h (newline_not_mem_map hash newline)
  have kept : written.filter (!isFence ·) = written :=
    List.filter_eq_self.2 fun line mem => by simp [fence line mem]
  rw [stripHashMarkers, splitLines_joinLines ne line, kept, stripped]

/-! ## Comments of both kinds -/

/-- Trimmed lines come back from a comment that they are written as, however its lines are indented:
from a block comment, between two empty lines, if and only if none of them ends the comment, and from
a comment of hashes always. -/
theorem stripMarkers_of_indented (trimmed : ∀ l ∈ ls, IsTrimmed l) (newline : ∀ l ∈ ls, '\n' ∉ l) :
    (∀ written, List.Forall₂ IsIndented (blockComment ls) written →
      (stripSlashMarkers (joinLines written) = joinLines ([] :: ls ++ [[]]) ↔
        ∀ l ∈ ls, ¬blockEnd <:+ l)) ∧
    ∀ written, List.Forall₂ IsIndented (hashComment ls) written →
      (∀ line ∈ written, isFence line = false) ∧
      stripHashMarkers (joinLines written) = joinLines ls :=
  ⟨fun _ h => stripSlashMarkers_eq_iff trimmed newline h,
    fun _ h => stripHashMarkers_eq trimmed newline h⟩

/-- Lines that begin like the end or the start of a comment, like a fence or with hashes, and an empty
one. -/
def awkwardLines : List Text := ["*/ opens", "", "/** =begin", "## =end"].map String.toList

/-- The same lines in a block comment, indented by a tab, spaces and a no-break space. -/
def awkwardBlock : List Text :=
  ["/**", "\t * */ opens", "  * ", " * /** =begin", "\u00a0 * ## =end", "  */"].map String.toList

/-- The same lines behind hashes. -/
def awkwardHashes : List Text :=
  ["# */ opens", "\t# ", "# /** =begin", "  # ## =end"].map String.toList

theorem stripMarkers_awkwardLines :
    (∀ l ∈ awkwardLines, IsTrimmed l) ∧ (∀ l ∈ awkwardLines, '\n' ∉ l) ∧
    (∀ l ∈ awkwardLines, ¬blockEnd <:+ l) ∧
    List.Forall₂ IsIndented (blockComment awkwardLines) awkwardBlock ∧
    stripSlashMarkers (joinLines awkwardBlock) = joinLines ([] :: awkwardLines ++ [[]]) ∧
    List.Forall₂ IsIndented (hashComment awkwardLines) awkwardHashes ∧
    (∀ line ∈ awkwardHashes, isFence line = false) ∧
    stripHashMarkers (joinLines awkwardHashes) = joinLines awkwardLines := by
  have trimmed : ∀ l ∈ awkwardLines, IsTrimmed l := by decide
  have newline : ∀ l ∈ awkwardLines, '\n' ∉ l := by decide
  have unended : ∀ l ∈ awkwardLines, ¬blockEnd <:+ l := by decide
  have indented : ∀ indent line : Text, IsBlank indent → '\n' ∉ indent →
      IsIndented line (indent ++ line) := fun indent _ blank single => ⟨indent, blank, single, rfl⟩
  have block : List.Forall₂ IsIndented (blockComment awkwardLines) awkwardBlock :=
    .cons (indented [] _ (by decide) (by decide)) <|
    .cons (indented ['\t'] _ (by decide) (by decide)) <|
    .cons (indented [' '] _ (by decide) (by decide)) <|
    .cons (indented [] _ (by decide) (by decide)) <|
    .cons (indented ['\u00a0'] _ (by decide) (by decide)) <|
    .cons (indented [' '] _ (by decide) (by decide)) .nil
  have hashes : List.Forall₂ IsIndented (hashComment awkwardLines) awkwardHashes :=
    .cons (indented [] _ (by decide) (by decide)) <|
    .cons (indented ['\t'] _ (by decide) (by decide)) <|
    .cons (indented [] _ (by decide) (by decide)) <|
    .cons (indented [' ', ' '] _ (by decide) (by decide)) .nil
  have ⟨slashes, hash⟩ := stripMarkers_of_indented trimmed newline
  exact ⟨trimmed, newline, unended, block, (slashes _ block).2 unended, hashes, hash _ hashes⟩

end DocHarvest.Doc
