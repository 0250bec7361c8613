import DocHarvest.Proofs.Text.Lines

/-!
# The lines of a text that say something

`textLines` are the lines that are not blank, trimmed. How the lines of a text end and what white
space stands around it does not matter to them (`textLines_lines`, `textLines_splitLines_trim`), and
they are found again behind each other when texts are written one below the other
(`textLines_splitLines_append`).
-/

namespace DocHarvest.Doc

open Text

variable {t lead tail : Text} {ls ls' : List Text} {gs : List (List Text)}

/-- The lines that are not blank, trimmed. -/
def textLines (ls : List Text) : List Text := (ls.filter (!isBlankText ·)).map trim

theorem textLines_eq_nil_iff : textLines ls = [] ↔ ∀ l ∈ ls, isBlankText l = true := by
  simp [textLines]

theorem textLines_append (ls ls' : List Text) : textLines (ls ++ ls') = textLines ls ++ textLines ls' := by
  simp [textLines]

theorem textLines_cons (l : Text) (ls : List Text) :
    textLines (l :: ls) = if isBlankText l then textLines ls else trim l :: textLines ls := by
  cases h : isBlankText l <;> simp [textLines, h]

theorem isBlankText_congr {l l' : Text} (h : trim l = trim l') : isBlankText l = isBlankText l' := by
  rw [Bool.eq_iff_iff, isBlankText_iff, isBlankText_iff, ← trim_eq_nil_iff, h, trim_eq_nil_iff]

/-- White space at the ends of lines does not count. -/
theorem textLines_congr (h : ls.map trim = ls'.map trim) : textLines ls = textLines ls' := by
  induction ls generalizing ls' with
  | nil => rw [List.map_eq_nil_iff.1 h.symm]
  | cons l ls ih =>
    obtain ⟨l', ls', rfl, same, rest⟩ := List.map_eq_cons_iff.1 h.symm
    rw [textLines_cons, textLines_cons, isBlankText_congr same, same, ih rest.symm]

theorem newline_not_mem_map_trim (newline : ∀ l ∈ ls, '\n' ∉ l) : ∀ l ∈ ls.map trim, '\n' ∉ l := by
  intro l hl mem
  obtain ⟨l', hl', rfl⟩ := List.mem_map.1 hl
  exact newline l' hl' (mem_of_mem_trim mem)

theorem flatMap_splitLines_map_joinLines (ne : [] ∉ gs) (newline : ∀ l ∈ gs.flatten, '\n' ∉ l) :
    (gs.map joinLines).flatMap splitLines = gs.flatten := by
  induction gs with
  | nil => rfl
  | cons g gs ih =>
    rw [List.mem_cons, not_or] at ne
    rw [List.flatten_cons, List.forall_mem_append] at newline
    rw [List.map_cons, List.flatMap_cons, List.flatten_cons, ih ne.2 newline.2,
      splitLines_joinLines (Ne.symm ne.1) newline.1]

/-! ## Ends of lines -/

/-- A line without the carriage return that ends it. -/
def dropReturn (line : Text) : Text := (dropTail? ['\r'] line).getD line

theorem exists_eq_dropReturn (line : Text) :
    ∃ tail, line = dropReturn line ++ tail ∧ IsBlank tail := by
  unfold dropReturn
  cases h : dropTail? ['\r'] line with
  | none => exact ⟨[], by simp, nofun⟩
  | some rest => exact ⟨['\r'], dropTail?_eq_some.1 h, isBlankText_iff.1 rfl⟩

theorem trim_dropReturn (line : Text) : trim (dropReturn line) = trim line := by
  obtain ⟨tail, e, blank⟩ := exists_eq_dropReturn line
  conv => rhs; rw [e, trim_append _ blank]

theorem lines_go_append (ls : List Text) {rest : List Text} (ne : rest ≠ []) :
    lines.go (ls ++ rest) = ls.map dropReturn ++ lines.go rest := by
  induction ls with
  | nil => rfl
  | cons l ls ih =>
    obtain ⟨first, others, e⟩ := List.exists_cons_of_ne_nil
      (List.append_ne_nil_of_right_ne_nil ls ne)
    rw [List.cons_append, e, lines.go, ← e, ih]
    · rfl
    · exact List.cons_ne_nil _ _

/-- The lines of a text, all but the last one without a carriage return. -/
theorem exists_lines_eq (t : Text) : ∃ ls last, splitLines t = ls ++ [last] ∧
    lines t = ls.map dropReturn ++ if last = [] then [] else [last] := by
  obtain ⟨ls, last, e⟩ := exists_splitLines_eq_concat t
  refine ⟨ls, last, e, ?_⟩
  rw [lines, e, lines_go_append ls (List.cons_ne_nil _ _), lines.go]
  simp only [List.isEmpty_iff]

theorem newline_not_mem_of_mem_lines {l : Text} (h : l ∈ lines t) : '\n' ∉ l := by
  obtain ⟨ls, last, e, e'⟩ := exists_lines_eq t
  have single : ∀ l ∈ ls ++ [last], '\n' ∉ l := fun l hl =>
    not_mem_of_mem_splitLines (t := t) (e ▸ hl)
  rw [e', List.mem_append] at h
  rcases h with h | h
  · obtain ⟨l', hl', rfl⟩ := List.mem_map.1 h
    obtain ⟨tail, parts, -⟩ := exists_eq_dropReturn l'
    have whole := single l' (List.mem_append_left _ hl')
    rw [parts] at whole
    exact fun mem => whole (List.mem_append_left _ mem)
  · split at h
    · exact absurd h List.not_mem_nil
    · exact single l (List.mem_append_right _ h)

/-- How lines end does not count. -/
theorem textLines_lines (t : Text) : textLines (lines t) = textLines (splitLines t) := by
  obtain ⟨ls, last, e, e'⟩ := exists_lines_eq t
  have ended : textLines (ls.map dropReturn) = textLines ls := by
    refine textLines_congr ?_
    rw [List.map_map]
    exact List.map_congr_left fun l _ => trim_dropReturn l
  rw [e, e', textLines_append, textLines_append, ended]
  split
  · next empty =>
    subst empty
    rfl
  · rfl

/-! ## Texts around others -/

/-- The lines of two texts, one below the other. -/
theorem textLines_splitLines_append (a b : Text) :
    textLines (splitLines (a ++ '\n' :: b)) =
      textLines (splitLines a) ++ textLines (splitLines b) := by
  rw [← textLines_append]
  exact congrArg textLines (splitOn_append '\n' a b)

theorem isBlank_of_mem_splitLines {l : Text} (h : IsBlank t) (hl : l ∈ splitLines t) : IsBlank l :=
  fun c hc => h c (mem_of_mem_splitOn hl hc)

theorem textLines_of_isBlank (h : ∀ l ∈ ls, IsBlank l) : textLines ls = [] :=
  textLines_eq_nil_iff.2 fun l hl => isBlankText_iff.2 (h l hl)

theorem textLines_splitLines_append_left (h : IsBlank lead) (t : Text) :
    textLines (splitLines (lead ++ t)) = textLines (splitLines t) := by
  obtain ⟨as, x, y, bs, e, e', parts⟩ := exists_splitLines_append lead t
  have blank : ∀ l ∈ as ++ [x], IsBlank l := fun l hl => isBlank_of_mem_splitLines h (e ▸ hl)
  rw [List.forall_mem_append, List.forall_mem_singleton] at blank
  rw [parts, e', textLines_append, textLines_of_isBlank blank.1, List.nil_append]
  exact textLines_congr (by rw [List.map_cons, List.map_cons, trim_append_left blank.2])

theorem textLines_splitLines_append_right (t : Text) (h : IsBlank tail) :
    textLines (splitLines (t ++ tail)) = textLines (splitLines t) := by
  obtain ⟨as, x, y, bs, e, e', parts⟩ := exists_splitLines_append t tail
  have blank : ∀ l ∈ y :: bs, IsBlank l := fun l hl => isBlank_of_mem_splitLines h (e' ▸ hl)
  rw [List.forall_mem_cons] at blank
  have last : textLines [x ++ y] = textLines [x] := textLines_congr (by
    rw [List.map_singleton, List.map_singleton, trim_append _ blank.1])
  rw [parts, e, List.append_cons, textLines_append, textLines_append, last,
    textLines_of_isBlank blank.2, List.append_nil, textLines_append]

theorem textLines_splitLines_trim (t : Text) :
    textLines (splitLines (trim t)) = textLines (splitLines t) := by
  obtain ⟨lead, tail, e, blank, blank'⟩ := exists_eq_trim t
  conv => rhs; rw [e, textLines_splitLines_append_right _ blank',
    textLines_splitLines_append_left blank]

end DocHarvest.Doc
