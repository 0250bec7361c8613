import DocHarvest.Doc.Block
import DocHarvest.Proofs.Doc.TextLines
import DocHarvest.Proofs.Text.Trim
import DocHarvest.Proofs.Traversal

/-!
# Comments and the blocks behind them

`readBlocks_append` : a comment with one more block behind it reads as the comment does, with the tag
of the block as its last one; `readBlocks_joinLines` says so of any number of blocks. How the lines
end and how they are indented does not matter to the blocks, as `gatherBlocks` looks at trimmed lines
only (`gatherBlocks_lines`).
-/

namespace DocHarvest.Doc

open Text

variable {t : Text}

/-- A text in which no line starts a block. -/
def IsPlain (t : Text) : Prop := ∀ l ∈ splitLines t, startsBlock l = false

instance (t : Text) : Decidable (IsPlain t) :=
  inferInstanceAs (Decidable (∀ l ∈ splitLines t, startsBlock l = false))

/-- Trimmed lines that are not empty, of which none behind the first starts a block. -/
structure IsBody (t : Text) : Prop where
  trimmed : ∀ l ∈ splitLines t, IsTrimmed l
  ne : ∀ l ∈ splitLines t, l ≠ []
  inner : ∀ l ∈ (splitLines t).tail, startsBlock l = false

instance (t : Text) : Decidable (IsBody t) :=
  decidable_of_iff ((∀ l ∈ splitLines t, IsTrimmed l) ∧ (∀ l ∈ splitLines t, l ≠ []) ∧
      ∀ l ∈ (splitLines t).tail, startsBlock l = false)
    ⟨fun h => ⟨h.1, h.2.1, h.2.2⟩, fun h => ⟨h.trimmed, h.ne, h.inner⟩⟩

/-- A block as it is read. -/
structure IsBlock (t : Text) : Prop extends IsBody t where
  starts : ∀ l ∈ (splitLines t).head?, startsBlock l = true

/-! ## Gathering blocks -/

theorem startsBlock_congr {l l' : Text} (h : trim l = trim l') : startsBlock l = startsBlock l' := by
  unfold startsBlock
  rw [h]

theorem gatherBlocks_cons (l : Text) (ls : List Text) : gatherBlocks (l :: ls) =
    if startsBlock l then ([], (trim l :: (gatherBlocks ls).1) :: (gatherBlocks ls).2)
    else if isBlankText l then gatherBlocks ls
    else (trim l :: (gatherBlocks ls).1, (gatherBlocks ls).2) := rfl

/-- Only what a line is without white space at its ends counts. -/
theorem gatherBlocks_cons_congr {l l' : Text} {ls ls' : List Text} (h : trim l = trim l')
    (tail : gatherBlocks ls = gatherBlocks ls') :
    gatherBlocks (l :: ls) = gatherBlocks (l' :: ls') := by
  rw [gatherBlocks_cons, gatherBlocks_cons, startsBlock_congr h, isBlankText_congr h, h, tail]

theorem isBlankText_of_startsBlock {l : Text} (h : startsBlock l = true) : isBlankText l = false := by
  rw [Bool.eq_false_iff, ne_eq, isBlankText_iff, ← trim_eq_nil_iff]
  intro empty
  rw [startsBlock, empty] at h
  cases h

/-- Blank lines, and white space at the ends of lines, do not count. -/
theorem gatherBlocks_textLines (ls : List Text) : gatherBlocks (textLines ls) = gatherBlocks ls := by
  induction ls with
  | nil => rfl
  | cons l ls ih =>
    rw [textLines_cons]
    cases blank : isBlankText l with
    | true =>
      have plain : startsBlock l = false := Bool.eq_false_iff.2 fun starts => by
        rw [isBlankText_of_startsBlock starts] at blank
        cases blank
      rw [if_pos rfl, ih, gatherBlocks_cons, plain, blank, if_neg Bool.false_ne_true, if_pos rfl]
    | false => exact gatherBlocks_cons_congr (trim_trim l) ih

theorem gatherBlocks_lines (t : Text) : gatherBlocks (lines t) = gatherBlocks (splitLines t) := by
  rw [← gatherBlocks_textLines, textLines_lines, gatherBlocks_textLines]

/-- Blocks that begin where `rest` begins stand behind the blocks before it. -/
theorem gatherBlocks_append (ls : List Text) {rest : List Text} {blocks : List (List Text)}
    (h : gatherBlocks rest = ([], blocks)) :
    gatherBlocks (ls ++ rest) = ((gatherBlocks ls).1, (gatherBlocks ls).2 ++ blocks) := by
  induction ls with
  | nil => exact h
  | cons l ls ih =>
    rw [List.cons_append, gatherBlocks_cons, gatherBlocks_cons, ih]
    split
    · rfl
    · split <;> rfl

/-- Lines without a start of a block are gathered as they are. -/
theorem gatherBlocks_of_body {ls : List Text} (plain : ∀ l ∈ ls, startsBlock l = false)
    (trimmed : ∀ l ∈ ls, IsTrimmed l) (ne : ∀ l ∈ ls, l ≠ []) : gatherBlocks ls = (ls, []) := by
  induction ls with
  | nil => rfl
  | cons l ls ih =>
    have full : isBlankText l = false := by
      rw [Bool.eq_false_iff, ne_eq, isBlankText_iff, ← trim_eq_nil_iff,
        (trimmed l List.mem_cons_self).trim_eq]
      exact ne l List.mem_cons_self
    rw [gatherBlocks_cons, ih (fun x hx => plain x (List.mem_cons_of_mem _ hx))
      (fun x hx => trimmed x (List.mem_cons_of_mem _ hx))
      (fun x hx => ne x (List.mem_cons_of_mem _ hx))]
    simp [plain l List.mem_cons_self, full, (trimmed l List.mem_cons_self).trim_eq]

theorem IsBlock.gatherBlocks_splitLines (h : IsBlock t) :
    gatherBlocks (splitLines t) = ([], [splitLines t]) := by
  obtain ⟨first, rest, e⟩ := List.exists_cons_of_ne_nil (splitLines_ne_nil t)
  obtain ⟨⟨trimmed, ne, inner⟩, starts⟩ := h
  rw [e] at *
  have body := gatherBlocks_of_body inner (fun l hl => trimmed l (List.mem_cons_of_mem _ hl))
    fun l hl => ne l (List.mem_cons_of_mem _ hl)
  rw [List.tail_cons] at body
  rw [gatherBlocks_cons, body]
  simp [starts first rfl, (trimmed first List.mem_cons_self).trim_eq]

theorem IsBlock.blocksOf_append (h : IsBlock t) (summary : Text) :
    blocksOf (summary ++ '\n' :: t) = blocksOf summary ++ [t] := by
  have parted : splitLines (summary ++ '\n' :: t) = splitLines summary ++ splitLines t :=
    splitOn_append '\n' summary t
  simp only [blocksOf, gatherBlocks_lines]
  rw [parted, gatherBlocks_append _ h.gatherBlocks_splitLines]
  simp [joinLines_splitLines]

theorem IsPlain.blocksOf_eq_nil (h : IsPlain t) : blocksOf t = [] := by
  have none : ∀ ls : List Text, (∀ l ∈ ls, startsBlock l = false) → (gatherBlocks ls).2 = [] := by
    intro ls plain
    induction ls with
    | nil => rfl
    | cons l ls ih =>
      have rest := ih fun x hx => plain x (List.mem_cons_of_mem _ hx)
      rw [gatherBlocks_cons, plain l List.mem_cons_self, if_neg Bool.false_ne_true]
      split <;> exact rest
  rw [blocksOf, gatherBlocks_lines, none _ h, List.map_nil]

/-! ## Descriptions -/

theorem ofDescription_congr {t' : Text} (h : trim t = trim t') :
    StructuredDoc.ofDescription t = StructuredDoc.ofDescription t' := by
  simp only [StructuredDoc.ofDescription, h]

/-- A line is a short description and all of it. -/
theorem ofDescription_of_isLine (h : IsLine t) :
    StructuredDoc.ofDescription t = { short := some t } := by
  rw [StructuredDoc.ofDescription, h.trim_eq, splitOnce_of_not_mem h.newline]
  simp only [Option.getD_none, h.nonBlank?_eq]
  rfl

theorem trim_joinLines_concat_nil (ls : List Text) :
    trim (joinLines (ls ++ [[]])) = trim (joinLines ls) := by
  rcases List.eq_nil_or_concat ls with rfl | ⟨ls, l, rfl⟩
  · rfl
  · have blank : IsBlank (joinLines [[], []]) := isBlankText_iff.1 rfl
    have parted := joinLines_append ls l [] [[]]
    rw [List.append_nil] at parted
    rw [List.concat_eq_append, List.append_assoc, List.singleton_append, ← parted,
      trim_append _ blank]

/-- An empty line behind the short description does not count. -/
theorem ofDescription_joinLines_nil (h : IsLine t) :
    StructuredDoc.ofDescription (joinLines [t, []]) = { short := some t } :=
  (ofDescription_congr (trim_joinLines_concat_nil [t])).trans (ofDescription_of_isLine h)

theorem trim_joinLines_concat (ls : List Text) (l : Text) :
    trim (joinLines (ls ++ [dropReturn l])) = trim (joinLines (ls ++ [l])) := by
  obtain ⟨tail, e, blank⟩ := exists_eq_dropReturn l
  have parted := joinLines_append ls (dropReturn l) tail []
  rw [← e] at parted
  rw [← parted]
  exact (trim_append _ blank).symm

/-- Of the lines before the first block only the last one can lose or keep its end. -/
theorem trim_descriptionOf (t : Text) : trim (descriptionOf t) =
    trim (joinLines (((splitLines t).map dropReturn).takeWhile (!startsBlock ·))) := by
  obtain ⟨ls, last, e, e'⟩ := exists_lines_eq t
  rw [descriptionOf, e, e', List.map_append, List.takeWhile_append, List.takeWhile_append]
  split
  · have same := startsBlock_congr (trim_dropReturn last)
    cases h : startsBlock last with
    | true =>
      have ne : last ≠ [] := by
        rintro rfl
        exact absurd h (by decide)
      simp [ne, h, same]
    | false =>
      cases last with
      | nil =>
        have empty : dropReturn [] = [] := rfl
        simpa [h, empty] using (trim_joinLines_concat_nil _).symm
      | cons c last => simpa [h, same] using (trim_joinLines_concat _ (c :: last)).symm
  · rfl

theorem IsBlock.exists_splitLines_eq (h : IsBlock t) :
    ∃ first rest, splitLines t = first :: rest ∧ startsBlock (dropReturn first) = true := by
  obtain ⟨first, rest, e⟩ := List.exists_cons_of_ne_nil (splitLines_ne_nil t)
  refine ⟨first, rest, e, ?_⟩
  rw [startsBlock_congr (trim_dropReturn first)]
  exact h.starts first (by rw [e]; rfl)

/-- A block ends the description of a comment, which is then the one it had without the block. -/
theorem IsBlock.trim_descriptionOf_append (h : IsBlock t) (summary : Text) :
    trim (descriptionOf (summary ++ '\n' :: t)) = trim (descriptionOf summary) := by
  have parted : splitLines (summary ++ '\n' :: t) = splitLines summary ++ splitLines t :=
    splitOn_append '\n' summary t
  obtain ⟨first, rest, e, stops⟩ := h.exists_splitLines_eq
  rw [trim_descriptionOf, trim_descriptionOf, parted, e, List.map_append, List.takeWhile_append]
  split
  · next full =>
    rw [List.map_cons, List.takeWhile_cons_of_neg (by simp [stops]), List.append_nil,
      (List.takeWhile_prefix _).eq_of_length full]
  · rfl

/-! ## Reading -/

section
variable {readBlock : Text → Except DocError DocTag}

/-- With one more block behind it a comment reads as it did, with one more tag. -/
theorem IsBlock.readBlocks_append (h : IsBlock t) (summary : Text) :
    readBlocks readBlock (summary ++ '\n' :: t) = (do
      let doc ← readBlocks readBlock summary
      let tag ← readBlock t
      return { doc with tags := doc.tags ++ [tag] }) := by
  rw [readBlocks, readBlocks, h.blocksOf_append, ofDescription_congr (h.trim_descriptionOf_append _),
    List.mapM_append]
  simp only [List.mapM_cons, List.mapM_nil, bind_assoc, pure_bind]

/-- A comment that is a block has no description. -/
theorem IsBlock.readBlocks_eq (h : IsBlock t) :
    readBlocks readBlock t = (do
      let tag ← readBlock t
      return { tags := [tag] }) := by
  obtain ⟨first, rest, e, stops⟩ := h.exists_splitLines_eq
  have empty : trim (descriptionOf t) = trim [] := by
    rw [trim_descriptionOf, e, List.map_cons, List.takeWhile_cons_of_neg (by simp [stops])]
    rfl
  have alone : blocksOf t = [t] := by
    simp [blocksOf, gatherBlocks_lines, h.gatherBlocks_splitLines, joinLines_splitLines]
  rw [readBlocks, alone, ofDescription_congr empty]
  simp only [List.mapM_cons, List.mapM_nil, bind_assoc, pure_bind]
  rfl

theorem readBlocks_joinLines {blocks : List Text} (h : ∀ block ∈ blocks, IsBlock block)
    (summary : Text) :
    readBlocks readBlock (joinLines (summary :: blocks)) = (do
      let doc ← readBlocks readBlock summary
      let tags ← blocks.mapM readBlock
      return { doc with tags := doc.tags ++ tags }) := by
  induction blocks generalizing summary with
  | nil =>
    simp only [List.mapM_nil, pure_bind, List.append_nil]
    exact (bind_pure _).symm
  | cons block blocks ih =>
    have first := h block List.mem_cons_self
    have parted : joinLines (summary :: block :: blocks) =
        joinLines ((summary ++ '\n' :: block) :: blocks) := by
      cases blocks <;> simp [joinLines, join]
    rw [parted, ih fun b hb => h b (List.mem_cons_of_mem _ hb), first.readBlocks_append]
    simp only [List.mapM_cons, bind_assoc, pure_bind, List.append_assoc, List.singleton_append]

/-- A block on lines of its own behind others, or alone. -/
theorem IsBlock.readBlocks_concat (h : IsBlock t) (before : List Text) :
    readBlocks readBlock (joinLines (before ++ [t])) = (do
      let doc ← readBlocks readBlock (joinLines before)
      let tag ← readBlock t
      return { doc with tags := doc.tags ++ [tag] }) := by
  rcases List.eq_nil_or_concat before with rfl | ⟨ls, l, rfl⟩
  · exact h.readBlocks_eq
  · have parted := joinLines_append ls l [] [t]
    rw [List.append_nil] at parted
    rw [List.concat_eq_append, List.append_assoc, List.singleton_append, ← parted]
    exact h.readBlocks_append _

theorem IsPlain.readBlocks_eq (h : IsPlain t) :
    readBlocks readBlock t = .ok (StructuredDoc.ofDescription (descriptionOf t)) := by
  rw [readBlocks, h.blocksOf_eq_nil]
  rfl

end

/-! ## Tags -/

theorem withType_some {typeName : Text} (ne : typeName ≠ []) (tag : DocTag) :
    tag.withType (some typeName) = { tag with typeName := some typeName } := by
  simp [DocTag.withType, Option.filter, ne]

/-! ## Blocks as they are written -/

theorem isBody_of_isLine (h : IsLine t) : IsBody t := by
  have alone : splitLines t = [t] := splitOn_of_not_mem h.newline
  constructor <;> rw [alone]
  · exact List.forall_mem_singleton.2 h.toIsTrimmed
  · exact List.forall_mem_singleton.2 h.ne
  · exact nofun

theorem IsBody.ne_nil (h : IsBody t) : t ≠ [] := by
  rintro rfl
  exact h.ne [] (by decide) rfl

theorem IsBody.isTrimmed (h : IsBody t) : IsTrimmed t := by
  rw [← joinLines_splitLines t]
  exact isTrimmed_joinLines (splitLines_ne_nil t) h.trimmed (fun l hl => h.ne l (List.mem_of_head? hl))
    fun l hl => h.ne l (List.mem_of_getLast? hl)

/-- Text on the first line, not indented, goes before a body. -/
theorem IsBody.append_left {lead : Text} (h : IsBody t) (head : ∀ c ∈ lead.head?, isBlank c = false)
    (line : '\n' ∉ lead) : IsBody (lead ++ t) := by
  obtain ⟨first, rest, e⟩ := List.exists_cons_of_ne_nil (splitLines_ne_nil t)
  have e' : splitLines (lead ++ t) = (lead ++ first) :: rest := splitOn_append_left line e
  obtain ⟨trimmed, ne, inner⟩ := h
  rw [e] at trimmed ne inner
  obtain ⟨head', last⟩ := trimmed first List.mem_cons_self
  have ne' := ne first List.mem_cons_self
  constructor <;> rw [e']
  · refine List.forall_mem_cons.2 ⟨⟨?_, ?_⟩, fun l hl => trimmed l (List.mem_cons_of_mem _ hl)⟩
    · cases lead with
      | nil => exact head'
      | cons c lead => exact head
    · rw [List.getLast?_append_of_ne_nil _ ne']
      exact last
  · exact List.forall_mem_cons.2
      ⟨List.append_ne_nil_of_right_ne_nil _ ne', fun l hl => ne l (List.mem_cons_of_mem _ hl)⟩
  · exact inner

/-- The keyword of a block: it starts with a letter A to Z and has no white space. -/
structure IsKeyword (keyword : Text) : Prop where
  letter : ∃ c ∈ keyword.head?, c.isAlpha = true
  solid : ∀ c ∈ keyword, isBlank c = false

instance (keyword : Text) : Decidable (IsKeyword keyword) :=
  decidable_of_iff (keyword.head?.any Char.isAlpha = true ∧ keyword.all (!isBlank ·) = true) (by
    simp only [Option.any_eq_true, List.all_eq_true, Bool.not_eq_true']
    exact ⟨fun h => ⟨h.1, h.2⟩, fun h => ⟨h.letter, h.solid⟩⟩)

theorem isKeyword_param : IsKeyword "param".toList := by decide

/-- The block with a keyword and the text behind it. -/
def blockText (keyword t : Text) : Text := '@' :: keyword ++ ' ' :: t

theorem IsKeyword.exists_cons {keyword : Text} (h : IsKeyword keyword) :
    ∃ c rest, keyword = c :: rest ∧ c.isAlpha = true := by
  obtain ⟨c, hc, letter⟩ := h.letter
  obtain ⟨rest, rfl⟩ := List.head?_eq_some_iff.1 hc
  exact ⟨c, rest, rfl, letter⟩

theorem IsBody.isBlock {keyword : Text} (h : IsBody t) (hk : IsKeyword keyword) :
    IsBlock (blockText keyword t) := by
  have line : '\n' ∉ '@' :: keyword ++ [' '] := by
    have newline : '\n' ∉ keyword := fun mem => absurd (hk.solid _ mem) (by decide)
    simp [newline]
  have parted : blockText keyword t = ('@' :: keyword ++ [' ']) ++ t := by simp [blockText]
  have body : IsBody (('@' :: keyword ++ [' ']) ++ t) :=
    h.append_left (fun c hc => by obtain rfl := Option.some.inj hc; decide) line
  obtain ⟨first, rest, e⟩ := List.exists_cons_of_ne_nil (splitLines_ne_nil t)
  have e' := splitOn_append_left line e
  rw [parted]
  refine ⟨body, fun l hl => ?_⟩
  rw [splitLines, e'] at hl
  obtain rfl := Option.some.inj hl
  obtain ⟨c, keyword, rfl, letter⟩ := hk.exists_cons
  have trimmed := body.trimmed _ (by rw [splitLines, e']; exact List.mem_cons_self)
  rw [startsBlock, trimmed.trim_eq]
  exact letter

theorem blockKeyword_blockText {keyword : Text} (h : IsKeyword keyword) (t : Text) :
    blockKeyword (blockText keyword t) = (keyword, ' ' :: t) := by
  have ne : keyword ≠ [] := by
    obtain ⟨c, rest, rfl, -⟩ := h.exists_cons
    exact List.cons_ne_nil _ _
  have space : ∀ c ∈ (' ' :: t).head?, isBlank c = true := by
    intro c hc
    obtain rfl := Option.some.inj hc
    decide
  exact splitFirstWord_append ne h.solid space

end DocHarvest.Doc
