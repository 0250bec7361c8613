import DocHarvest.Proofs.Doc.Blocks

/-!
# Where the lines of a comment go

Each line of a comment that says something stands either in its summary or in one of its blocks, in
the order of the comment (`IsPartedInto`). Which blocks there are does not depend on how they are
read, and the first of them that cannot be read makes the comment unreadable (`readBlocks_parts`).
-/

namespace DocHarvest.Doc

open Text

variable {t : Text} {ls : List Text}

/-- A comment parted into the text before its blocks and the blocks. -/
structure IsPartedInto (t summary : Text) (blocks : List Text) : Prop where
  /-- There is one block for each line that starts one, in order: it begins with that line, trimmed,
  and no other line of it starts a block. -/
  heads : List.Forall₂
    (fun head block => ∃ rest, splitLines block = head :: rest ∧ ∀ l ∈ rest, startsBlock l = false)
    (((lines t).map trim).filter startsBlock) blocks
  /-- No line is lost, repeated or moved. -/
  kept : textLines (lines summary) ++ blocks.flatMap splitLines = textLines (lines t)

/-! ## Lines before and in blocks -/

theorem startsBlock_trim (l : Text) : startsBlock (trim l) = startsBlock l :=
  startsBlock_congr (trim_trim l)

/-- The first part that is gathered are the lines up to the first block. -/
theorem gatherBlocks_fst (ls : List Text) :
    (gatherBlocks ls).1 = textLines (ls.takeWhile (!startsBlock ·)) := by
  induction ls with
  | nil => rfl
  | cons l ls ih =>
    rw [gatherBlocks_cons, List.takeWhile_cons]
    cases starts : startsBlock l with
    | true => rfl
    | false =>
      rw [if_neg Bool.false_ne_true, Bool.not_false, if_pos rfl, textLines_cons]
      split <;> simp only [ih]

theorem startsBlock_of_mem_fst {l : Text} (h : l ∈ (gatherBlocks ls).1) : startsBlock l = false := by
  rw [gatherBlocks_fst, textLines, List.mem_map] at h
  obtain ⟨l, mem, rfl⟩ := h
  rw [startsBlock_trim]
  simpa using List.mem_takeWhile_imp (List.mem_filter.1 mem).1

/-- What is gathered are the lines that are not blank. -/
theorem gatherBlocks_fst_append_flatten (ls : List Text) :
    (gatherBlocks ls).1 ++ (gatherBlocks ls).2.flatten = textLines ls := by
  induction ls with
  | nil => rfl
  | cons l ls ih =>
    rw [gatherBlocks_cons, textLines_cons, ← ih]
    cases starts : startsBlock l with
    | true =>
      rw [if_pos rfl, isBlankText_of_startsBlock starts, if_neg Bool.false_ne_true]
      rfl
    | false =>
      rw [if_neg Bool.false_ne_true]
      split <;> rfl

theorem newline_not_mem_textLines (newline : ∀ l ∈ ls, '\n' ∉ l) : ∀ l ∈ textLines ls, '\n' ∉ l :=
  newline_not_mem_map_trim fun l hl => newline l (List.mem_filter.1 hl).1

theorem nil_not_mem_gatherBlocks (ls : List Text) : [] ∉ (gatherBlocks ls).2 := by
  induction ls with
  | nil => exact List.not_mem_nil
  | cons l ls ih =>
    rw [gatherBlocks_cons]
    split
    · simpa using ih
    · split <;> exact ih

/-- Each line that starts a block is the first line of one, and the only one in it that starts a
block. -/
theorem forall₂_gatherBlocks (newline : ∀ l ∈ ls, '\n' ∉ l) : List.Forall₂
    (fun head block => ∃ rest, splitLines block = head :: rest ∧ ∀ l ∈ rest, startsBlock l = false)
    ((ls.map trim).filter startsBlock) ((gatherBlocks ls).2.map joinLines) := by
  induction ls with
  | nil => exact .nil
  | cons l ls ih =>
    obtain ⟨first, newline⟩ := List.forall_mem_cons.1 newline
    rw [gatherBlocks_cons, List.map_cons, List.filter_cons, startsBlock_trim]
    cases starts : startsBlock l with
    | true =>
      have single : ∀ l' ∈ trim l :: (gatherBlocks ls).1, '\n' ∉ l' := by
        refine List.forall_mem_cons.2 ⟨fun mem => first (mem_of_mem_trim mem), ?_⟩
        rw [gatherBlocks_fst]
        exact newline_not_mem_textLines fun l' hl => newline l' ((List.takeWhile_prefix _).subset hl)
      exact .cons ⟨_, splitLines_joinLines (List.cons_ne_nil _ _) single,
        fun l' => startsBlock_of_mem_fst⟩ (ih newline)
    | false =>
      rw [if_neg Bool.false_ne_true, if_neg Bool.false_ne_true]
      split <;> exact ih newline

/-! ## Summaries -/

theorem textLines_nonBlank? (t : Text) :
    textLines (splitLines ((nonBlank? t).getD [])) = textLines (splitLines t) := by
  rw [← textLines_splitLines_trim t]
  unfold nonBlank?
  dsimp only
  split
  · next empty => rw [List.isEmpty_iff.1 empty, Option.getD_none]
  · rfl

/-- The summary of a description has all its lines. -/
theorem textLines_summary (t : Text) :
    textLines (splitLines (StructuredDoc.ofDescription t).summary) = textLines (splitLines t) := by
  have both : ∀ short long : Text,
      textLines (splitLines
        (StructuredDoc.summary { short := nonBlank? short, long := nonBlank? long })) =
      textLines (splitLines short) ++ textLines (splitLines long) := by
    intro short long
    rw [← textLines_nonBlank? short, ← textLines_nonBlank? long, StructuredDoc.summary]
    have empty : textLines (splitLines []) = [] := rfl
    cases nonBlank? short with
    | none => cases nonBlank? long <;> simp [empty]
    | some short =>
      cases nonBlank? long with
      | none => simp [empty]
      | some long => exact textLines_splitLines_append short long
  rw [StructuredDoc.ofDescription, both, ← textLines_splitLines_trim t]
  cases parts : splitOnce '\n' (trim t) with
  | none => exact List.append_nil _
  | some parts' =>
    rw [eq_append_of_splitOnce parts, textLines_splitLines_append]
    rfl

theorem textLines_descriptionOf (t : Text) :
    textLines (splitLines (descriptionOf t)) = (gatherBlocks (lines t)).1 := by
  rw [gatherBlocks_fst, descriptionOf]
  by_cases none : (lines t).takeWhile (!startsBlock ·) = []
  · rw [none]
    rfl
  · refine congrArg textLines (splitLines_joinLines none fun l hl => ?_)
    exact newline_not_mem_of_mem_lines ((List.takeWhile_prefix _).subset hl)

/-! ## Reading -/

theorem flatMap_splitLines_blocksOf (t : Text) :
    (blocksOf t).flatMap splitLines = (gatherBlocks (lines t)).2.flatten := by
  refine flatMap_splitLines_map_joinLines (nil_not_mem_gatherBlocks _) fun l hl => ?_
  have mem : l ∈ textLines (lines t) :=
    gatherBlocks_fst_append_flatten (lines t) ▸ List.mem_append_right _ hl
  exact newline_not_mem_textLines (fun _ => newline_not_mem_of_mem_lines) l mem

theorem isPartedInto_blocksOf (t : Text) :
    IsPartedInto t (StructuredDoc.ofDescription (descriptionOf t)).summary (blocksOf t) where
  heads := forall₂_gatherBlocks fun _ => newline_not_mem_of_mem_lines
  kept := by
    rw [textLines_lines, textLines_summary, textLines_descriptionOf, flatMap_splitLines_blocksOf,
      gatherBlocks_fst_append_flatten]

/-- A comment is parted into the text before its blocks and the blocks before any block is read. It
can be read if each block can, and gives one tag for each of them, in order; otherwise the first
block that cannot be read says why. -/
theorem readBlocks_parts (t : Text) : ∃ (described : StructuredDoc) (blocks : List Text),
    described.tags = [] ∧ IsPartedInto t described.summary blocks ∧
    ∀ readBlock : Text → Except DocError DocTag,
      (∀ doc, readBlocks readBlock t = .ok doc ↔ ∃ tags,
        List.Forall₂ (fun block tag => readBlock block = .ok tag) blocks tags ∧
        doc = { described with tags }) ∧
      ∀ e, readBlocks readBlock t = .error e ↔ ∃ before block after,
        blocks = before ++ block :: after ∧ (∀ b ∈ before, ∃ tag, readBlock b = .ok tag) ∧
        readBlock block = .error e := by
  refine ⟨StructuredDoc.ofDescription (descriptionOf t), blocksOf t, rfl, isPartedInto_blocksOf t,
    fun readBlock => ⟨fun doc => ?_, fun e => ?_⟩⟩
  · simp only [← mapM_eq_ok_iff, readBlocks]
    cases (blocksOf t).mapM readBlock with
    | error e => simp [bind, Except.bind]
    | ok tags => simp [bind, Except.bind, pure, Except.pure, eq_comm]
  · rw [← mapM_eq_error_iff, readBlocks]
    cases (blocksOf t).mapM readBlock with
    | error e => simp [bind, Except.bind]
    | ok tags => simp [bind, Except.bind, pure, Except.pure]

end DocHarvest.Doc
