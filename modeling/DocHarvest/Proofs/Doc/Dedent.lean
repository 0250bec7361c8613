import DocHarvest.Proofs.Doc.Indent
import DocHarvest.Proofs.Doc.TextLines

/-!
# Common indentation taken off twice

The first line of a text does not count for its common indentation. Where it is blank, and so gets
lost, the next line that is not blank takes its place, and those behind it may have more indentation
in common. So a text without its common indentation does not always stay as it is.

* `fullLines_dedentLines` : the lines that are not blank, without the common indentation
* `dedentLines_eq_self_iff` : the lines that stay as they are
* `dedent_dedent_eq_iff` : the texts whose common indentation is taken off at once
-/

namespace DocHarvest.Doc

open Text

variable {l t : Text} {ls : List Text} {n : Nat}

/-! ## Lines without white space in front -/

theorem depth_eq_zero_iff : depth l = 0 ↔ ∀ c ∈ l.head?, isBlank c = false := by
  cases l with
  | nil => simp [depth, byteLength]
  | cons c l =>
    have pos := Char.utf8Size_pos c
    cases blank : isBlank c <;> simp [depth, byteLength, blank]
    omega

theorem depth_append {lead : Text} (h : IsBlank lead) (t : Text) :
    depth (lead ++ t) = byteLength lead + depth t := by
  rw [depth, List.takeWhile_append_of_pos h, byteLength_append, depth]

theorem head?_trimEnd (full : isBlankText t = false) : (trimEnd t).head? = t.head? := by
  obtain ⟨tail, e, blank⟩ := exists_eq_trimEnd t
  have ne : trimEnd t ≠ [] := by
    intro empty
    rw [empty, List.nil_append] at e
    rw [e, isBlankText_iff.2 blank] at full
    exact absurd full nofun
  conv => rhs; rw [e, List.head?_append_of_ne_nil _ ne]

theorem depth_trim (t : Text) : depth (trim t) = 0 := depth_eq_zero_iff.2 (isTrimmed_trim t).head

/-- Nothing is left of the white space in front of the line without its first `n` bytes: it has no
more of it, or these bytes end inside a character. -/
def IsFlush (n : Nat) (l : Text) : Prop := depth l = n ∨ byteDrop? l n = none

theorem depth_outdentLine_eq_zero_iff (le : n ≤ depth l) (full : isBlankText l = false) :
    depth (outdentLine n l) = 0 ↔ IsFlush n l := by
  unfold IsFlush outdentLine
  cases dropped : byteDrop? l n with
  | none => exact iff_of_true (depth_trim l) (.inr rfl)
  | some rest =>
    obtain ⟨lead, rfl, rfl⟩ := byteDrop?_eq_some.1 dropped
    -- what is taken off is white space, so that what is left begins where the line goes on
    have blank := isBlank_of_byteLength_le le
    have full' : isBlankText rest = false := by
      rw [← full]
      exact isBlankText_congr (trim_append_left blank rest).symm
    rw [Option.getD_some, depth_eq_zero_iff, head?_trimEnd full', ← depth_eq_zero_iff,
      depth_append blank]
    simp

/-! ## Lines that are not blank -/

/-- The lines that are not blank. -/
def fullLines (ls : List Text) : List Text := ls.filter (!isBlankText ·)

theorem mem_fullLines : l ∈ fullLines ls ↔ l ∈ ls ∧ isBlankText l = false := by
  rw [fullLines, List.mem_filter, Bool.not_eq_true']

theorem fullLines_dropEmptyEnds (ls : List Text) : fullLines (dropEmptyEnds ls) = fullLines ls := by
  obtain ⟨lead, tail, e, empty, empty'⟩ := exists_eq_dropEmptyEnds ls
  have none : ∀ {ls : List Text}, (∀ l ∈ ls, l = []) → fullLines ls = [] := fun h =>
    List.filter_eq_nil_iff.2 fun l hl => by rw [h l hl]; decide
  have parts : fullLines ls = fullLines lead ++ fullLines (dropEmptyEnds ls) ++ fullLines tail := by
    conv => lhs; rw [e]
    simp only [fullLines, List.filter_append]
  rw [parts, none empty, none empty', List.nil_append, List.append_nil]

theorem fullLines_dedentLines (first : Text) (ls : List Text) :
    fullLines (dedentLines (first :: ls)) =
      fullLines [trim first] ++ (fullLines ls).map (outdentLine (commonDepth ls)) := by
  have same : ls.filter ((!isBlankText ·) ∘ outdentLine (commonDepth ls)) = fullLines ls :=
    List.filter_congr fun l hl => by
      rw [Function.comp_apply, isBlankText_congr (trim_outdentLine_commonDepth hl)]
  rw [dedentLines, fullLines_dropEmptyEnds, fullLines, ← List.singleton_append, List.filter_append,
    List.filter_map, same]
  rfl

theorem fullLines_singleton (full : isBlankText l = false) : fullLines [l] = [l] :=
  List.filter_cons_of_pos (by rw [full]; rfl)

theorem depth_eq_zero_iff_isFlush (mem : l ∈ fullLines ls) :
    depth (outdentLine (commonDepth ls) l) = 0 ↔ IsFlush (commonDepth ls) l := by
  obtain ⟨mem, full⟩ := mem_fullLines.1 mem
  exact depth_outdentLine_eq_zero_iff (commonDepth_le_depth mem full) full

/-- Without the common indentation some line is not indented, if any is not blank. -/
theorem exists_depth_outdentLine_eq_zero (ls : List Text) :
    (fullLines ls).map (outdentLine (commonDepth ls)) = [] ∨
      ∃ l ∈ (fullLines ls).map (outdentLine (commonDepth ls)), depth l = 0 := by
  rcases List.eq_nil_or_concat (fullLines ls) with none | ⟨_, l, e⟩
  · exact .inl (by rw [none]; rfl)
  · obtain ⟨mem, full⟩ := mem_fullLines.1 (show l ∈ fullLines ls by rw [e]; simp)
    obtain ⟨l', mem', full', least⟩ := exists_depth_eq_commonDepth mem full
    have inside := mem_fullLines.2 ⟨mem', full'⟩
    exact .inr ⟨_, List.mem_map_of_mem inside, (depth_eq_zero_iff_isFlush inside).2 (.inl least)⟩

/-! ## Lines that stay as they are -/

/-- The first line has a property, and so has another one, if there is any. -/
def IsSettled (p : Text → Prop) : List Text → Prop
  | [] => True
  | l :: ls => p l ∧ (ls = [] ∨ ∃ l' ∈ ls, p l')

theorem isSettled_map_iff {p q : Text → Prop} {f : Text → Text}
    (same : ∀ l ∈ ls, p (f l) ↔ q l) : IsSettled p (ls.map f) ↔ IsSettled q ls := by
  cases ls with
  | nil => exact Iff.rfl
  | cons l ls =>
    obtain ⟨first, rest⟩ := List.forall_mem_cons.1 same
    refine and_congr first (or_congr List.map_eq_nil_iff ?_)
    constructor
    · rintro ⟨l', mem, h⟩
      obtain ⟨l, hl, rfl⟩ := List.mem_map.1 mem
      exact ⟨l, hl, (rest l hl).1 h⟩
    · rintro ⟨l, hl, h⟩
      exact ⟨f l, List.mem_map_of_mem hl, (rest l hl).2 h⟩

theorem IsEnded.isBlankText_eq (h : IsEnded t) (ne : t ≠ []) : isBlankText t = false := by
  rw [← Bool.not_eq_true, isBlankText_iff]
  intro blank
  have last := h _ (List.getLast?_eq_some_getLast ne)
  rw [blank _ (List.getLast_mem ne)] at last
  exact absurd last nofun

theorem isBlankText_trim (t : Text) : isBlankText (trim t) = isBlankText t :=
  isBlankText_congr (trim_trim t)

/-- Lines without white space at their ends, the first and the last of which are not empty, stay as
they are if the first is not indented, and of those behind it that are not blank some line neither. -/
theorem dedentLines_eq_self_iff (ended : ∀ l ∈ ls, IsEnded l) (head : ls.head? ≠ some [])
    (last : ls.getLast? ≠ some []) :
    dedentLines ls = ls ↔ IsSettled (depth · = 0) (fullLines ls) := by
  cases ls with
  | nil => exact iff_of_true rfl trivial
  | cons first ls =>
    obtain ⟨ended, endeds⟩ := List.forall_mem_cons.1 ended
    have full : isBlankText first = false := ended.isBlankText_eq fun e => head (by rw [e]; rfl)
    have here : fullLines (first :: ls) = first :: fullLines ls :=
      List.filter_cons_of_pos (by rw [full]; rfl)
    rw [here]
    constructor
    · -- the lines that are not blank are the first, trimmed, and those that lost the indentation
      intro same
      have after := fullLines_dedentLines first ls
      rw [same, here, fullLines_singleton ((isBlankText_trim first).trans full)] at after
      obtain ⟨trimmed, rest⟩ := List.cons.inj after
      refine ⟨trimmed ▸ depth_trim first, ?_⟩
      rw [rest]
      exact exists_depth_outdentLine_eq_zero ls
    · rintro ⟨start, rest⟩
      have flush : commonDepth ls = 0 := by
        rcases rest with none | ⟨l, hl, zero⟩
        · rw [commonDepth, ← fullLines, none]
          rfl
        · obtain ⟨mem, full⟩ := mem_fullLines.1 hl
          exact Nat.le_zero.1 (zero ▸ commonDepth_le_depth mem full)
      rw [dedentLines_cons ⟨depth_eq_zero_iff.1 start, ended⟩ endeds flush,
        dropEmptyEnds_eq_self head last]

/-! ## Texts that stay as they are -/

/-- The lines of a text from which all common indentation is taken at once: the first is not blank,
or of those that are not blank the first loses all white space in front of it, and so does another
one, if there is any. -/
def AreDedentedAtOnce : List Text → Prop
  | [] => True
  | first :: ls => isBlankText first = false ∨ IsSettled (IsFlush (commonDepth ls)) (fullLines ls)

theorem isSettled_dedentLines_iff (ls : List Text) :
    IsSettled (depth · = 0) (fullLines (dedentLines ls)) ↔ AreDedentedAtOnce ls := by
  cases ls with
  | nil => exact Iff.rfl
  | cons first ls =>
    have trimmed := isBlankText_trim first
    rw [fullLines_dedentLines, AreDedentedAtOnce]
    cases blank : isBlankText first with
    | true =>
      -- the first line is lost, and the lines behind it are judged by themselves
      have none : fullLines [trim first] = [] :=
        List.filter_cons_of_neg (by rw [trimmed, blank]; decide)
      rw [none, List.nil_append, isSettled_map_iff fun l hl => depth_eq_zero_iff_isFlush hl]
      exact (or_iff_right nofun).symm
    | false =>
      -- the first line stays the first, so that the others still have a line that is not indented
      rw [fullLines_singleton (trimmed.trans blank)]
      exact iff_of_true ⟨depth_trim first, exists_depth_outdentLine_eq_zero ls⟩ (.inl rfl)

/-- Taking the common indentation off a text again changes nothing if it is all taken at once. -/
theorem dedent_dedent_eq_iff (t : Text) :
    dedent (dedent t) = dedent t ↔ AreDedentedAtOnce (splitLines t) := by
  have ended : ∀ l ∈ dedentLines (splitLines t), IsEnded l := fun l hl => (mem_dedentLines hl).1
  have ⟨head, last⟩ := ends_dedentLines (splitLines t)
  rw [← isSettled_dedentLines_iff, ← dedentLines_eq_self_iff ended head last]
  by_cases empty : dedentLines (splitLines t) = []
  · have nothing : dedent t = [] := by rw [dedent, empty]; rfl
    exact iff_of_true (by rw [nothing]; rfl) (by rw [empty]; rfl)
  · have split : splitLines (dedent t) = dedentLines (splitLines t) :=
      splitLines_joinLines empty fun _ => newline_not_mem_dedentLines
    constructor
    · intro same
      have again := lines_dedent (dedent t)
      rw [same, lines_dedent, split] at again
      exact again.symm
    · intro same
      rw [dedent, split, same, dedent]

/-- A docstring with an example that is indented below its first words. -/
def indentedExample : Text :=
  ("\n    Gives a docstring to test with:\n\n        Counts the rows.\n\n        Returns:\n" ++
    "            int: how many rows there are\n    ").toList

/-- The example loses its indentation the second time. -/
theorem dedent_dedent_indentedExample :
    dedent indentedExample =
        ("Gives a docstring to test with:\n\n    Counts the rows.\n\n    Returns:\n" ++
          "        int: how many rows there are").toList ∧
      dedent (dedent indentedExample) =
        ("Gives a docstring to test with:\n\nCounts the rows.\n\nReturns:\n" ++
          "    int: how many rows there are").toList ∧
      dedent (dedent indentedExample) ≠ dedent indentedExample := by
  decide +kernel

end DocHarvest.Doc
