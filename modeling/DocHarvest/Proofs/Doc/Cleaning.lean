import DocHarvest.Doc.Cleaning
import DocHarvest.Proofs.Text.Lines
import DocHarvest.Proofs.Text.Replacement
import DocHarvest.Proofs.Unicode.Letters
import Mathlib.Data.List.Chain

/-!
# Cleaned comments are prose

`IsProse` says what a cleaned comment looks like: it holds a letter, is more than one question, and
has evenly spaced lines, none of them mere decoration, with single empty lines between its paragraphs
at most. `clean` gives such a text or none (`clean_eq_nil_or_isProse`), and prose without anything
that `clean` looks for stays as it is (`IsProse.clean_eq`).

The passes of `clean` can undo each other's work, a blank line next to a decoration line that is
dropped for example. What is shown of the result therefore rests on the last pass that touches it:
`evenBlanks` for the blanks in a line, `trim` for its ends, `spaceParagraphs` for the empty lines.
-/

namespace DocHarvest.Doc

open Text

variable {t l : Text} {ls : List Text} {c : Char}

/-! ## Blanks inside a line -/

/-- No tab, no no-break space and no two spaces next to each other. -/
structure IsEven (t : Text) : Prop where
  tab : '\t' ∉ t
  noBreak : '\u00a0' ∉ t
  single : t.IsChain fun c d => ¬(c = ' ' ∧ d = ' ')

instance (t : Text) : Decidable (IsEven t) :=
  decidable_of_iff ('\t' ∉ t ∧ '\u00a0' ∉ t ∧ t.IsChain fun c d => ¬(c = ' ' ∧ d = ' '))
    ⟨fun h => ⟨h.1, h.2.1, h.2.2⟩, fun h => ⟨h.tab, h.noBreak, h.single⟩⟩

theorem isInnerBlank_iff : isInnerBlank c = true ↔ c = ' ' ∨ c = '\t' ∨ c = '\u00a0' := by
  simp [isInnerBlank, or_assoc]

theorem isBlank_of_isInnerBlank (h : isInnerBlank c = true) : isBlank c = true := by
  rcases isInnerBlank_iff.1 h with rfl | rfl | rfl <;> decide

theorem IsEven.eq_space (h : IsEven t) (mem : c ∈ t) (blank : isInnerBlank c = true) : c = ' ' := by
  rcases isInnerBlank_iff.1 blank with rfl | rfl | rfl
  · rfl
  · exact absurd mem h.tab
  · exact absurd mem h.noBreak

theorem isEven_nil : IsEven [] := by decide

theorem IsEven.of_part {s : Text} (h : IsEven t) (part : s <:+: t) : IsEven s where
  tab mem := h.tab (part.subset mem)
  noBreak mem := h.noBreak (part.subset mem)
  single := h.single.infix part

theorem isEven_cons : IsEven (c :: t) ↔
    (isInnerBlank c = true → c = ' ' ∧ t.head? ≠ some ' ') ∧ IsEven t := by
  constructor
  · intro h
    refine ⟨fun blank => ?_, h.of_part (List.suffix_cons c t).isInfix⟩
    have space := h.eq_space List.mem_cons_self blank
    exact ⟨space, fun next => (List.isChain_cons.1 h.single).1 ' ' next ⟨space, rfl⟩⟩
  · rintro ⟨first, tab, noBreak, single⟩
    refine ⟨?_, ?_, List.isChain_cons.2 ⟨?_, single⟩⟩
    · rintro (_ | ⟨_, mem⟩)
      · exact absurd (first rfl).1 (by decide)
      · exact tab mem
    · rintro (_ | ⟨_, mem⟩)
      · exact absurd (first rfl).1 (by decide)
      · exact noBreak mem
    · rintro d hd ⟨rfl, rfl⟩
      exact (first rfl).2 hd

theorem head?_evenBlanks (t : Text) :
    (evenBlanks t).head? = t.head?.map fun c => if isInnerBlank c then ' ' else c := by
  induction t with
  | nil => rfl
  | cons c t ih =>
    rw [evenBlanks]
    split
    · next blank =>
      split
      · next more =>
        cases t with
        | nil => exact absurd more nofun
        | cons d t =>
          have blank' : isInnerBlank d = true := more
          simp [ih, blank, blank']
      · simp [blank]
    · next solid => simp [solid]

theorem isEven_evenBlanks (t : Text) : IsEven (evenBlanks t) := by
  induction t with
  | nil => exact isEven_nil
  | cons c t ih =>
    rw [evenBlanks]
    split
    · split
      · exact ih
      · next last =>
        refine isEven_cons.2 ⟨fun _ => ⟨rfl, ?_⟩, ih⟩
        rw [head?_evenBlanks]
        intro next
        obtain ⟨d, hd, e⟩ := Option.map_eq_some_iff.1 next
        split at e
        · next blank => exact last (by simp [hd, blank])
        · next solid => exact solid (e ▸ rfl)
    · next solid => exact isEven_cons.2 ⟨fun blank => absurd blank solid, ih⟩

theorem IsEven.evenBlanks_eq (h : IsEven t) : evenBlanks t = t := by
  induction t with
  | nil => rfl
  | cons c t ih =>
    obtain ⟨first, rest⟩ := isEven_cons.1 h
    rw [evenBlanks, ih rest]
    split
    · next blank =>
      obtain ⟨rfl, next⟩ := first blank
      cases t with
      | nil => rfl
      | cons d t =>
        have solid : isInnerBlank d = false := by
          by_contra blank
          rw [Bool.not_eq_false] at blank
          exact next (congrArg some (rest.eq_space List.mem_cons_self blank))
        simp [solid]
    · rfl

theorem length_evenBlanks_le (t : Text) : (evenBlanks t).length ≤ t.length := by
  induction t with
  | nil => exact Nat.le_refl _
  | cons c t ih =>
    rw [evenBlanks]
    split
    · split
      · exact Nat.le_succ_of_le ih
      · simpa using ih
    · simpa using ih

/-- Where spaces are the only blanks, a text that does not become shorter stays as it is. -/
theorem evenBlanks_eq_of_length (spaces : ∀ c ∈ t, isInnerBlank c = true → c = ' ')
    (same : (evenBlanks t).length = t.length) : evenBlanks t = t := by
  induction t with
  | nil => rfl
  | cons c t ih =>
    have le := length_evenBlanks_le t
    have rest := ih fun d hd => spaces d (List.mem_cons_of_mem _ hd)
    rw [evenBlanks] at same ⊢
    split at same
    · next blank =>
      split at same
      · rw [List.length_cons] at same
        omega
      · next last =>
        rw [if_pos blank, if_neg last, rest (by simpa using same),
          spaces c List.mem_cons_self blank]
    · next solid => rw [if_neg solid, rest (by simpa using same)]

theorem mem_of_mem_evenBlanks (h : c ∈ evenBlanks t) : c = ' ' ∨ c ∈ t := by
  induction t with
  | nil => exact absurd h List.not_mem_nil
  | cons d t ih =>
    rw [evenBlanks] at h
    split at h
    · split at h
      · exact (ih h).imp_right (List.mem_cons_of_mem d)
      · rcases List.mem_cons.1 h with rfl | h
        · exact .inl rfl
        · exact (ih h).imp_right (List.mem_cons_of_mem d)
    · rcases List.mem_cons.1 h with rfl | h
      · exact .inr List.mem_cons_self
      · exact (ih h).imp_right (List.mem_cons_of_mem d)

theorem evenBlanks_concat (solid : isInnerBlank c = false) (t : Text) :
    evenBlanks (t ++ [c]) = evenBlanks t ++ [c] := by
  induction t with
  | nil => simp [evenBlanks, solid]
  | cons d t ih =>
    have next : (t ++ [c]).head?.any isInnerBlank = t.head?.any isInnerBlank := by
      cases t <;> simp [solid]
    rw [List.cons_append, evenBlanks, evenBlanks, next, ih]
    split
    · split <;> rfl
    · rfl

theorem getLast?_evenBlanks (solid : ∀ c ∈ t.getLast?, isInnerBlank c = false) :
    (evenBlanks t).getLast? = t.getLast? := by
  rcases List.eq_nil_or_concat t with rfl | ⟨t, c, rfl⟩
  · rfl
  · rw [List.concat_eq_append] at solid ⊢
    rw [evenBlanks_concat (solid c List.getLast?_concat), List.getLast?_concat, List.getLast?_concat]

theorem isInnerBlank_of_not_isBlank (h : isBlank c = false) : isInnerBlank c = false := by
  by_contra blank
  rw [Bool.not_eq_false] at blank
  rw [isBlank_of_isInnerBlank blank] at h
  cases h

/-- Evening out the blanks leaves the ends of a trimmed text alone. -/
theorem head?_evenBlanks_of_isTrimmed (h : IsTrimmed t) : (evenBlanks t).head? = t.head? := by
  rw [head?_evenBlanks]
  cases t with
  | nil => rfl
  | cons c t =>
    have solid := isInnerBlank_of_not_isBlank (h.head c rfl)
    simp [solid]

theorem getLast?_evenBlanks_of_isTrimmed (h : IsTrimmed t) :
    (evenBlanks t).getLast? = t.getLast? :=
  getLast?_evenBlanks fun c hc => isInnerBlank_of_not_isBlank (h.last c hc)

theorem isTrimmed_evenBlanks (h : IsTrimmed t) : IsTrimmed (evenBlanks t) where
  head := head?_evenBlanks_of_isTrimmed h ▸ h.head
  last := getLast?_evenBlanks_of_isTrimmed h ▸ h.last

/-! ## Lines -/

/-- A trimmed and evenly spaced line that is empty or holds more than decoration. -/
structure IsProseLine (l : Text) : Prop extends IsTrimmed l, IsEven l where
  content : l ≠ [] → ∃ c ∈ l, isDecoration c = false

instance (l : Text) : Decidable (IsProseLine l) :=
  decidable_of_iff (IsTrimmed l ∧ IsEven l ∧ (l ≠ [] → l.any (!isDecoration ·) = true)) (by
    simp only [List.any_eq_true, Bool.not_eq_true']
    exact ⟨fun h => ⟨h.1, h.2.1, h.2.2⟩, fun h => ⟨h.toIsTrimmed, h.toIsEven, h.content⟩⟩)

theorem isProseLine_nil : IsProseLine [] := by decide

theorem isSeparatorLine_eq_false_iff : isSeparatorLine l = false ↔
    (l ≠ [] → ∃ c ∈ l, isDecoration c = false) := by
  by_cases empty : l = [] <;> simp [isSeparatorLine, empty]

/-- What a line keeps is trimmed and evenly spaced, and it is prose if it is not all decoration. -/
theorem isProseLine_cleanLine (h : isSeparatorLine (cleanLine l) = false) :
    IsProseLine (cleanLine l) where
  toIsTrimmed := isTrimmed_trim _
  toIsEven := (isEven_evenBlanks _).of_part (trim_isInfix _)
  content := isSeparatorLine_eq_false_iff.1 h

theorem mem_of_dropMarker? {markers : List Text} {rest : Text}
    (h : dropMarker? markers l = some rest) (mem : c ∈ rest) : c ∈ l := by
  obtain ⟨marker, -, found⟩ := List.exists_of_findSome?_eq_some h
  rw [dropLead?_eq_some.1 found]
  exact List.mem_append_right _ mem

theorem mem_of_mem_stripLineMarkers (h : c ∈ stripLineMarkers l) : c ∈ l := by
  have closing : c ∈ ((dropTail? blockEnd (trim l)).map trimEnd).getD (trim l) → c ∈ l := by
    intro h
    cases found : dropTail? blockEnd (trim l) with
    | none =>
      rw [found] at h
      exact mem_of_mem_trim h
    | some rest =>
      rw [found] at h
      have e := dropTail?_eq_some.1 found
      exact mem_of_mem_trim (e ▸ List.mem_append_left _ (mem_of_mem_trimEnd h))
  rw [stripLineMarkers] at h
  cases found : dropMarker? lineMarkers (((dropTail? blockEnd (trim l)).map trimEnd).getD (trim l)) with
  | none =>
    rw [found] at h
    exact closing h
  | some rest =>
    rw [found] at h
    exact closing (mem_of_dropMarker? found (mem_of_mem_trimStart h))

theorem newline_not_mem_cleanLine (h : '\n' ∉ l) : '\n' ∉ cleanLine l := by
  intro mem
  rcases mem_of_mem_evenBlanks (mem_of_mem_trim mem) with space | mem
  · exact absurd space (by decide)
  · exact h (mem_of_mem_stripLineMarkers mem)

/-- No comment marker stands at either end of the line. -/
structure IsUnmarked (l : Text) : Prop where
  opening : ∀ marker ∈ ["/*", "//", "*", "#"].map String.toList, ¬marker <+: l
  closing : ¬blockEnd <:+ l

instance (l : Text) : Decidable (IsUnmarked l) :=
  decidable_of_iff ((∀ marker ∈ ["/*", "//", "*", "#"].map String.toList, ¬marker <+: l) ∧
    ¬blockEnd <:+ l) ⟨fun h => ⟨h.1, h.2⟩, fun h => ⟨h.opening, h.closing⟩⟩

/-- Each marker that may stand at the front of a line begins with one of the short ones. -/
theorem dropMarker?_eq_none (h : IsUnmarked l) : dropMarker? lineMarkers l = none := by
  have short : ∀ marker ∈ lineMarkers,
      ∃ opening ∈ ["/*", "//", "*", "#"].map String.toList, opening <+: marker := by decide
  rw [dropMarker?, List.findSome?_eq_none_iff]
  intro marker mem
  obtain ⟨opening, mem', first⟩ := short marker mem
  exact dropLead?_eq_none.2 fun whole => h.opening opening mem' (first.trans whole)

theorem stripLineMarkers_eq_self (trimmed : IsTrimmed l) (h : IsUnmarked l) :
    stripLineMarkers l = l := by
  have closing : dropTail? blockEnd l = none := dropTail?_eq_none.2 h.closing
  simp [stripLineMarkers, trimmed.trim_eq, closing, dropMarker?_eq_none h]

/-- A trimmed line without markers loses no more than surplus blanks. -/
theorem cleanLine_eq_evenBlanks (trimmed : IsTrimmed l) (h : IsUnmarked l) :
    cleanLine l = evenBlanks l := by
  rw [cleanLine, stripLineMarkers_eq_self trimmed h, (isTrimmed_evenBlanks trimmed).trim_eq]

theorem IsProseLine.cleanLine_eq (prose : IsProseLine l) (h : IsUnmarked l) : cleanLine l = l :=
  (cleanLine_eq_evenBlanks prose.toIsTrimmed h).trans prose.toIsEven.evenBlanks_eq

/-! ## Empty lines -/

/-- No line is empty at either end and no two next to each other are. -/
structure IsSpaced (ls : List Text) : Prop where
  first : ∀ l ∈ ls.head?, l ≠ []
  last : ∀ l ∈ ls.getLast?, l ≠ []
  apart : ls.IsChain fun l l' => ¬(l = [] ∧ l' = [])

theorem mem_of_mem_spaceParagraphs_go {gap : Bool} (h : l ∈ spaceParagraphs.go gap ls) :
    l = [] ∨ l ∈ ls := by
  induction ls generalizing gap with
  | nil => exact absurd h List.not_mem_nil
  | cons line ls ih =>
    rw [spaceParagraphs.go] at h
    split at h
    · exact (ih h).imp_right (List.mem_cons_of_mem line)
    · split at h
      · simp only [List.mem_cons] at h ⊢
        rcases h with empty | here | h
        · exact .inl empty
        · exact .inr (.inl here)
        · exact (ih h).imp_right .inr
      · rcases List.mem_cons.1 h with rfl | h
        · exact .inr List.mem_cons_self
        · exact (ih h).imp_right (List.mem_cons_of_mem line)

theorem mem_of_mem_spaceParagraphs (h : l ∈ spaceParagraphs ls) : l = [] ∨ l ∈ ls :=
  (mem_of_mem_spaceParagraphs_go h).imp_right fun mem => (List.dropWhile_suffix _).subset mem

/-- Behind a line that is not empty, the rest is spaced but for its front. -/
theorem spaceParagraphs_go_spaced (gap : Bool) (ls : List Text) :
    (∀ l ∈ (spaceParagraphs.go gap ls).getLast?, l ≠ []) ∧
      (spaceParagraphs.go gap ls).IsChain fun l l' => ¬(l = [] ∧ l' = []) := by
  induction ls generalizing gap with
  | nil => exact ⟨nofun, .nil⟩
  | cons line ls ih =>
    rw [spaceParagraphs.go]
    split
    · exact ih true
    · next full =>
      have full : line ≠ [] := by simpa using full
      obtain ⟨last, apart⟩ := ih false
      have behind : (∀ l ∈ (line :: spaceParagraphs.go false ls).getLast?, l ≠ []) ∧
          (line :: spaceParagraphs.go false ls).IsChain fun l l' => ¬(l = [] ∧ l' = []) := by
        refine ⟨?_, List.isChain_cons.2 ⟨fun _ _ both => full both.1, apart⟩⟩
        cases rest : spaceParagraphs.go false ls with
        | nil => simpa using full
        | cons next more =>
          rw [rest] at last
          exact last
      split
      · exact ⟨behind.1, List.isChain_cons_cons.2 ⟨fun both => full both.2, behind.2⟩⟩
      · exact behind

theorem isSpaced_spaceParagraphs (ls : List Text) : IsSpaced (spaceParagraphs ls) := by
  obtain ⟨last, apart⟩ := spaceParagraphs_go_spaced false (ls.dropWhile List.isEmpty)
  refine ⟨?_, last, apart⟩
  rw [spaceParagraphs]
  cases rest : ls.dropWhile List.isEmpty with
  | nil => exact nofun
  | cons line more =>
    have full := List.head?_dropWhile_not List.isEmpty ls
    rw [rest] at full
    have full : line.isEmpty = false := full
    rw [spaceParagraphs.go, if_neg (by simp [full])]
    exact fun l hl => Option.some.inj hl ▸ (by simpa using full)

/-- An empty line of spaced lines is passed over and put back before the next one. -/
theorem spaceParagraphs_go_eq (last : ∀ l ∈ ls.getLast?, l ≠ [])
    (apart : ls.IsChain fun l l' => ¬(l = [] ∧ l' = [])) :
    spaceParagraphs.go false ls = ls ∧
      ((∀ l ∈ ls.head?, l ≠ []) → ls ≠ [] → spaceParagraphs.go true ls = [] :: ls) := by
  induction ls with
  | nil => exact ⟨rfl, fun _ ne => absurd rfl ne⟩
  | cons line ls ih =>
    obtain ⟨next, apart⟩ := List.isChain_cons.1 apart
    have last' : ∀ l ∈ ls.getLast?, l ≠ [] := by
      cases ls with
      | nil => exact nofun
      | cons l ls => exact last
    obtain ⟨keep, put⟩ := ih last' apart
    by_cases empty : line = []
    · subst empty
      refine ⟨?_, fun full => absurd rfl (full [] rfl)⟩
      have ne : ls ≠ [] := fun e => last [] (by simp [e]) rfl
      simpa [spaceParagraphs.go] using put (fun l hl e => next l hl ⟨rfl, e⟩) ne
    · simp [spaceParagraphs.go, empty, keep]

theorem IsSpaced.spaceParagraphs_eq (h : IsSpaced ls) : spaceParagraphs ls = ls := by
  have start : ls.dropWhile List.isEmpty = ls := by
    cases ls with
    | nil => rfl
    | cons line ls =>
      exact List.dropWhile_cons_of_neg (by simpa using h.first line rfl)
  rw [spaceParagraphs, start]
  exact (spaceParagraphs_go_eq h.last h.apart).1

/-! ## Prose -/

/-- One sentence that ends in a question mark. -/
def IsOneQuestion (t : Text) : Prop :=
  t.getLast? = some '?' ∧ ∀ c ∈ t.dropLast, c ≠ '.' ∧ c ≠ '!' ∧ c ≠ '?' ∧ c ≠ '\n'

instance (t : Text) : Decidable (IsOneQuestion t) :=
  decidable_of_iff (t.getLast? = some '?' ∧
    t.dropLast.all (fun c => decide (c ≠ '.' ∧ c ≠ '!' ∧ c ≠ '?' ∧ c ≠ '\n')) = true) (by
    simp only [List.all_eq_true, decide_eq_true_eq, IsOneQuestion])

theorem isQuestion_iff (h : IsTrimmed t) : isQuestion t = true ↔ IsOneQuestion t := by
  rw [isQuestion, h.trim_eq, IsOneQuestion]
  cases found : dropTail? ['?'] t with
  | none =>
    refine ⟨nofun, fun ⟨last, _⟩ => ?_⟩
    have e : t = t.dropLast ++ ['?'] := (List.dropLast_append_getLast? _ last).symm
    rw [dropTail?_eq_some.2 e] at found
    cases found
  | some sentence =>
    rw [dropTail?_eq_some.1 found]
    simp [and_assoc]

/-- A comment that says something, in even lines and paragraphs. -/
structure IsProse (t : Text) : Prop where
  letter : ∃ c ∈ t, Unicode.isAlphabetic c = true
  question : ¬IsOneQuestion t
  first : ∀ l ∈ (splitLines t).head?, ¬IsBlank l
  last : ∀ l ∈ (splitLines t).getLast?, ¬IsBlank l
  apart : (splitLines t).IsChain fun l l' => ¬(IsBlank l ∧ IsBlank l')
  lines : ∀ l ∈ splitLines t, IsProseLine l

instance (t : Text) : Decidable (IsProse t) :=
  decidable_of_iff (t.any Unicode.isAlphabetic = true ∧ ¬IsOneQuestion t ∧
      (∀ l ∈ (splitLines t).head?, ¬IsBlank l) ∧ (∀ l ∈ (splitLines t).getLast?, ¬IsBlank l) ∧
      ((splitLines t).IsChain fun l l' => ¬(IsBlank l ∧ IsBlank l')) ∧
      ∀ l ∈ splitLines t, IsProseLine l) (by
    rw [List.any_eq_true]
    exact ⟨fun h => ⟨h.1, h.2.1, h.2.2.1, h.2.2.2.1, h.2.2.2.2.1, h.2.2.2.2.2⟩,
      fun h => ⟨h.letter, h.question, h.first, h.last, h.apart, h.lines⟩⟩)

/-- In prose a blank line is an empty one. -/
theorem isSpaced_iff (h : ∀ l ∈ ls, IsProseLine l) : IsSpaced ls ↔
    (∀ l ∈ ls.head?, ¬IsBlank l) ∧ (∀ l ∈ ls.getLast?, ¬IsBlank l) ∧
      ls.IsChain fun l l' => ¬(IsBlank l ∧ IsBlank l') := by
  have blank : ∀ l ∈ ls, (IsBlank l ↔ l = []) := fun l hl => (h l hl).toIsTrimmed.isBlank_iff
  have first : (∀ l ∈ ls.head?, ¬IsBlank l) ↔ ∀ l ∈ ls.head?, l ≠ [] :=
    forall₂_congr fun l hl => not_congr (blank l (List.mem_of_head? hl))
  have last : (∀ l ∈ ls.getLast?, ¬IsBlank l) ↔ ∀ l ∈ ls.getLast?, l ≠ [] :=
    forall₂_congr fun l hl => not_congr (blank l (List.mem_of_getLast? hl))
  have apart : (ls.IsChain fun l l' => ¬(IsBlank l ∧ IsBlank l')) ↔
      ls.IsChain fun l l' => ¬(l = [] ∧ l' = []) := by
    clear first last h
    induction ls with
    | nil => simp
    | cons l ls ih =>
      rw [List.isChain_cons, List.isChain_cons, ih fun m hm => blank m (List.mem_cons_of_mem _ hm),
        blank l List.mem_cons_self]
      refine and_congr_left fun _ => forall₂_congr fun m hm => ?_
      rw [blank m (List.mem_cons_of_mem _ (List.mem_of_head? hm))]
  rw [first, last, apart]
  exact ⟨fun h => ⟨h.first, h.last, h.apart⟩, fun h => ⟨h.1, h.2.1, h.2.2⟩⟩

/-- Joined prose lines with a letter are prose, unless they only ask a question. -/
theorem isProse_joinLines (spaced : IsSpaced ls) (lines : ∀ l ∈ ls, IsProseLine l)
    (newline : ∀ l ∈ ls, '\n' ∉ l) (letter : ∃ c ∈ joinLines ls, Unicode.isAlphabetic c = true)
    (question : isQuestion (joinLines ls) = false) : IsProse (joinLines ls) := by
  have ne : ls ≠ [] := by
    rintro rfl
    obtain ⟨c, mem, -⟩ := letter
    exact absurd mem List.not_mem_nil
  have trimmed : IsTrimmed (joinLines ls) :=
    isTrimmed_joinLines ne (fun l hl => (lines l hl).toIsTrimmed) spaced.first spaced.last
  have back : splitLines (joinLines ls) = ls := splitLines_joinLines ne newline
  obtain ⟨first, last, apart⟩ := (isSpaced_iff lines).1 spaced
  refine ⟨letter, ?_, ?_, ?_, ?_, ?_⟩
  · rw [← isQuestion_iff trimmed, question]
    exact Bool.false_ne_true
  all_goals rw [back]; assumption

theorem isProseLine_of_mem_proseLines (h : l ∈ proseLines t) : IsProseLine l ∧ '\n' ∉ l := by
  rcases mem_of_mem_spaceParagraphs h with rfl | mem
  · exact ⟨isProseLine_nil, List.not_mem_nil⟩
  · obtain ⟨mem, separator⟩ := List.mem_filter.1 mem
    obtain ⟨line, hline, rfl⟩ := List.mem_map.1 mem
    exact ⟨isProseLine_cleanLine (by simpa using separator),
      newline_not_mem_cleanLine (not_mem_of_mem_splitLines hline)⟩

/-- What is left of a comment is prose. -/
theorem clean_eq_nil_or_isProse (t : Text) : clean t = [] ∨ IsProse (clean t) := by
  rw [clean]
  split
  · next kept =>
    rw [Bool.and_eq_true, List.any_eq_true, Bool.not_eq_true'] at kept
    exact .inr (isProse_joinLines (isSpaced_spaceParagraphs _)
      (fun l hl => (isProseLine_of_mem_proseLines hl).1)
      (fun l hl => (isProseLine_of_mem_proseLines hl).2) kept.1 kept.2)
  · exact .inl rfl

/-! ## Prose stays as it is -/

theorem inlineTags_opensWith : inlineTags.OpensWith '{' := by
  intro t new rest found
  obtain ⟨parts, h, -⟩ := Option.map_eq_some_iff.1 found
  unfold inlineTag? at h
  split at h
  · rfl
  · cases h

theorem markupTags_opensWith : markupTags.OpensWith '<' := by
  intro t new rest found
  obtain ⟨parts, h, -⟩ := Option.map_eq_some_iff.1 found
  unfold markupTag? at h
  split at h
  · rfl
  · rfl
  · cases h

theorem entityNames_opensWith : entityNames.OpensWith '&' := by
  intro t new rest found
  obtain ⟨entity, mem, found⟩ := List.exists_of_findSome?_eq_some found
  obtain ⟨rest, h, -⟩ := Option.map_eq_some_iff.1 found
  have opens : ∀ entity ∈ entities, entity.1.head? = some '&' := by decide
  rw [dropLead?_eq_some.1 h, List.head?_append, opens entity mem]
  rfl

theorem plainText_eq_self (inline : '{' ∉ t) (markup : '<' ∉ t) (entity : '&' ∉ t) :
    plainText t = t := by
  rw [plainText, inlineTags_opensWith.apply_eq inline, markupTags_opensWith.apply_eq markup,
    entityNames_opensWith.apply_eq entity]

theorem IsProse.isTrimmed (h : IsProse t) : IsTrimmed t := by
  have spaced := (isSpaced_iff h.lines).2 ⟨h.first, h.last, h.apart⟩
  rw [← joinLines_splitLines t]
  exact isTrimmed_joinLines (splitLines_ne_nil t) (fun l hl => (h.lines l hl).toIsTrimmed)
    spaced.first spaced.last

theorem IsProse.proseLines_eq (h : IsProse t) (unmarked : ∀ l ∈ splitLines t, IsUnmarked l) :
    proseLines t = splitLines t := by
  have same : (splitLines t).map cleanLine = splitLines t :=
    (List.map_congr_left fun l hl => (h.lines l hl).cleanLine_eq (unmarked l hl)).trans
      (List.map_id' _)
  have kept : (splitLines t).filter (!isSeparatorLine ·) = splitLines t :=
    List.filter_eq_self.2 fun l hl => by
      simp [isSeparatorLine_eq_false_iff.2 (h.lines l hl).content]
  rw [proseLines, same, kept]
  exact ((isSpaced_iff h.lines).2 ⟨h.first, h.last, h.apart⟩).spaceParagraphs_eq

/-- Prose in which nothing opens a tag or an entity and no line has a marker stays as it is. -/
theorem IsProse.clean_eq (h : IsProse t) (inline : '{' ∉ t) (markup : '<' ∉ t) (entity : '&' ∉ t)
    (unmarked : ∀ l ∈ splitLines t, IsUnmarked l) : clean t = t := by
  have question : isQuestion t = false := by
    rw [Bool.eq_false_iff, Ne, isQuestion_iff h.isTrimmed]
    exact h.question
  rw [clean, plainText_eq_self inline markup entity, h.proseLines_eq unmarked,
    joinLines_splitLines, List.any_eq_true.2 h.letter, question]
  rfl

/-- A cleaned comment is empty or prose, and prose without braces, markup, entities and comment
markers is left as it is. -/
theorem isProse_clean_and_clean_eq (t : Text) : (clean t = [] ∨ IsProse (clean t)) ∧
    (IsProse t → '{' ∉ t → '<' ∉ t → '&' ∉ t → (∀ l ∈ splitLines t, IsUnmarked l) → clean t = t) :=
  ⟨clean_eq_nil_or_isProse t, IsProse.clean_eq⟩

/-- Two paragraphs with a question, a fraction, a star and a closing brace inside. -/
theorem clean_eq_twoParagraphs :
    IsProse "Halves n * 1/2 times.\n\nIs \x7d left? See #7.".toList ∧
    clean "Halves n * 1/2 times.\n\nIs \x7d left? See #7.".toList =
      "Halves n * 1/2 times.\n\nIs \x7d left? See #7.".toList := by
  have prose : IsProse "Halves n * 1/2 times.\n\nIs \x7d left? See #7.".toList := by decide +kernel
  exact ⟨prose, (isProse_clean_and_clean_eq _).2 prose (by decide) (by decide) (by decide)
    (by decide +kernel)⟩

end DocHarvest.Doc
