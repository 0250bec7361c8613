import DocHarvest.Proofs.Doc.Dedent

/-!
# What is left of indented lines

Taking the common indentation off a text takes only white space: from the ends of its lines, and with
the blank lines in front and behind (`IsClipped`). Where the lines are indented with spaces and tabs,
all but the first lose the same number of characters, and some line has no indentation left
(`LosesMargin`).

* `gaps_dropEmptyEnds` : blank lines at the ends do not count for those in between
* `outdentLine_eq_trimEnd_drop` : bytes of spaces and tabs are characters
* `isClipped_dedent` : both for the text without its common indentation
-/

namespace DocHarvest.Doc

open Text

variable {l r t : Text} {ls : List Text} {n : Nat}

/-! ## White space at the ends of lines -/

theorem map_trim_of_stripped {rs : List Text} (h : List.Forall₂ IsStripped ls rs) :
    rs.map trim = ls.map trim := by
  induction h with
  | nil => rfl
  | cons here _ ih => rw [List.map_cons, List.map_cons, here.trim_eq, ih]

theorem isStripped_trim (l : Text) : IsStripped l (trim l) := exists_eq_trim l

theorem fullLines_trim (l : Text) : fullLines [trim l] = (fullLines [l]).map trim := by
  rw [fullLines, fullLines, List.filter_singleton, List.filter_singleton, isBlankText_trim]
  cases isBlankText l <;> rfl

theorem forall₂_isStripped_dedentLines (ls : List Text) :
    List.Forall₂ IsStripped (fullLines ls) (fullLines (dedentLines ls)) := by
  cases ls with
  | nil => exact .nil
  | cons first ls =>
    have parts : fullLines (first :: ls) = fullLines [first] ++ fullLines ls :=
      List.filter_append [first] ls
    rw [parts, fullLines_dedentLines, fullLines_trim]
    refine List.rel_append ?_ ?_ <;> rw [List.forall₂_map_right_iff, List.forall₂_same]
    · exact fun l _ => isStripped_trim l
    · exact fun l mem => isStripped_outdentLine_commonDepth (mem_fullLines.1 mem).1

/-! ## Blank lines in between -/

/-- For each line that is not blank, the number of blank lines right above it; for the first one, `n`
more. -/
def blanksAbove (n : Nat) : List Text → List Nat
  | [] => []
  | l :: ls => if isBlankText l then blanksAbove (n + 1) ls else n :: blanksAbove 0 ls

/-- The numbers of blank lines between one line that is not blank and the next. -/
def gaps (ls : List Text) : List Nat := (blanksAbove 0 ls).tail

theorem blanksAbove_append_left {lead : List Text} (blank : ∀ l ∈ lead, isBlankText l = true)
    (n : Nat) (ls : List Text) : blanksAbove n (lead ++ ls) = blanksAbove (n + lead.length) ls := by
  induction lead generalizing n with
  | nil => rfl
  | cons l lead ih =>
    obtain ⟨here, rest⟩ := List.forall_mem_cons.1 blank
    rw [List.cons_append, blanksAbove, if_pos here, ih rest, List.length_cons]
    congr 1
    omega

theorem blanksAbove_append_right {tail : List Text} (blank : ∀ l ∈ tail, isBlankText l = true)
    (n : Nat) (ls : List Text) : blanksAbove n (ls ++ tail) = blanksAbove n ls := by
  induction ls generalizing n with
  | nil =>
    have none := blanksAbove_append_left blank n []
    rw [List.append_nil] at none
    exact none
  | cons l ls ih => rw [List.cons_append, blanksAbove, blanksAbove, ih, ih]

theorem tail_blanksAbove (n m : Nat) (ls : List Text) :
    (blanksAbove n ls).tail = (blanksAbove m ls).tail := by
  induction ls generalizing n m with
  | nil => rfl
  | cons l ls ih =>
    rw [blanksAbove, blanksAbove]
    split
    · exact ih (n + 1) (m + 1)
    · rfl

theorem blanksAbove_congr {ls ls' : List Text} (h : ls.map trim = ls'.map trim) (n : Nat) :
    blanksAbove n ls = blanksAbove n ls' := by
  induction ls generalizing ls' n with
  | nil => rw [List.map_eq_nil_iff.1 h.symm]
  | cons l ls ih =>
    obtain ⟨l', ls', rfl, same, rest⟩ := List.map_eq_cons_iff.1 h.symm
    rw [blanksAbove, blanksAbove, isBlankText_congr same, ih rest.symm, ih rest.symm]

theorem gaps_dropEmptyEnds (ls : List Text) : gaps (dropEmptyEnds ls) = gaps ls := by
  obtain ⟨lead, tail, e, empty, empty'⟩ := exists_eq_dropEmptyEnds ls
  have blank : ∀ {ls : List Text}, (∀ l ∈ ls, l = []) → ∀ l ∈ ls, isBlankText l = true :=
    fun h l hl => by rw [h l hl]; rfl
  conv => rhs; rw [e]
  rw [gaps, gaps, blanksAbove_append_right (blank empty'), blanksAbove_append_left (blank empty)]
  exact tail_blanksAbove _ _ _

theorem gaps_dedentLines (ls : List Text) : gaps (dedentLines ls) = gaps ls := by
  obtain ⟨ls', e, same⟩ := exists_dedentLines_eq ls
  rw [e, gaps_dropEmptyEnds, gaps, gaps, blanksAbove_congr same]

/-! ## Spaces and tabs -/

/-- All white space in front of the line is spaces and tabs. -/
def IsTabbed (l : Text) : Prop := ∀ c ∈ l.takeWhile isBlank, c = ' ' ∨ c = '\t'

instance (l : Text) : Decidable (IsTabbed l) :=
  decidable_of_iff ((l.takeWhile isBlank).all (fun c => c = ' ' || c = '\t') = true)
    (by simp only [List.all_eq_true, Bool.or_eq_true, decide_eq_true_eq, IsTabbed])

theorem byteLength_eq_length (h : ∀ c ∈ t, c = ' ' ∨ c = '\t') : byteLength t = t.length := by
  induction t with
  | nil => rfl
  | cons c t ih =>
    obtain ⟨here, rest⟩ := List.forall_mem_cons.1 h
    have one : c.utf8Size = 1 := by rcases here with rfl | rfl <;> rfl
    rw [byteLength, one, ih rest, List.length_cons, Nat.add_comm]

/-- As many characters of a line as it is deep are white space. -/
theorem IsTabbed.isBlank_take (h : IsTabbed l) (le : n ≤ depth l) :
    n ≤ l.length ∧ IsBlank (l.take n) ∧ byteLength (l.take n) = n := by
  rw [depth, byteLength_eq_length h] at le
  have parts := List.takeWhile_append_dropWhile (p := isBlank) (l := l)
  have inside : l.take n = (l.takeWhile isBlank).take n := by
    conv => lhs; rw [← parts]
    exact List.take_append_of_le_length le
  have short := (List.takeWhile_prefix isBlank (l := l)).length_le
  rw [inside]
  refine ⟨by omega, fun c hc => List.mem_takeWhile_imp (List.mem_of_mem_take hc), ?_⟩
  rw [byteLength_eq_length fun c hc => h c (List.mem_of_mem_take hc), List.length_take]
  omega

theorem outdentLine_eq_trimEnd_drop (h : IsTabbed l) (le : n ≤ depth l) :
    outdentLine n l = trimEnd (l.drop n) := by
  have dropped : byteDrop? l n = some (l.drop n) :=
    byteDrop?_eq_some.2 ⟨l.take n, (List.take_append_drop n l).symm, (h.isBlank_take le).2.2⟩
  rw [outdentLine, dropped, Option.getD_some]

/-- The lines lose their first `n` characters, which are white space, and what white space they end
with; then one of them is not indented, if there is any. -/
structure LosesMargin (n : Nat) (ls rs : List Text) : Prop where
  eq : rs = ls.map fun l => trimEnd (l.drop n)
  margin : ∀ l ∈ ls, n ≤ l.length ∧ IsBlank (l.take n)
  flush : ls = [] ∨ ∃ r ∈ rs, ∀ c ∈ r.head?, isBlank c = false

theorem losesMargin_fullLines (h : ∀ l ∈ fullLines ls, IsTabbed l) :
    LosesMargin (commonDepth ls) (fullLines ls)
      ((fullLines ls).map (outdentLine (commonDepth ls))) where
  eq := List.map_congr_left fun l mem => by
    obtain ⟨inside, full⟩ := mem_fullLines.1 mem
    exact outdentLine_eq_trimEnd_drop (h l mem) (commonDepth_le_depth inside full)
  margin l mem := by
    obtain ⟨inside, full⟩ := mem_fullLines.1 mem
    obtain ⟨le, blank, -⟩ := (h l mem).isBlank_take (commonDepth_le_depth inside full)
    exact ⟨le, blank⟩
  flush := by
    rcases exists_depth_outdentLine_eq_zero ls with none | ⟨r, mem, zero⟩
    · exact .inl (List.map_eq_nil_iff.1 none)
    · exact .inr ⟨r, mem, depth_eq_zero_iff.1 zero⟩

/-! ## The text -/

/-- A text with the lines of `t`, without white space at their ends and blank lines in front and
behind. -/
structure IsClipped (t r : Text) : Prop where
  stripped : List.Forall₂ IsStripped (fullLines (splitLines t)) (fullLines (splitLines r))
  texts : (fullLines (splitLines r)).map trim = (fullLines (splitLines t)).map trim
  ended : ∀ l ∈ splitLines r, IsEnded l
  first : r ≠ [] → ∀ l ∈ (splitLines r).head?, isBlankText l = false
  last : r ≠ [] → ∀ l ∈ (splitLines r).getLast?, isBlankText l = false
  gaps : gaps (splitLines r) = gaps (splitLines t)

theorem dedent_eq_nil_or (t : Text) : dedentLines (splitLines t) = [] ∧ dedent t = [] ∨
    splitLines (dedent t) = dedentLines (splitLines t) := by
  by_cases empty : dedentLines (splitLines t) = []
  · exact .inl ⟨empty, by rw [dedent, empty]; rfl⟩
  · exact .inr (splitLines_joinLines empty fun _ => newline_not_mem_dedentLines)

/-- What does not tell an empty line from none is the same of all lines. -/
theorem splitLines_dedent_congr {α : Type} {f : List Text → α} (same : f [[]] = f []) (t : Text) :
    f (splitLines (dedent t)) = f (dedentLines (splitLines t)) := by
  rcases dedent_eq_nil_or t with ⟨none, empty⟩ | eq
  · rw [none, empty]
    exact same
  · rw [eq]

theorem fullLines_dedent (t : Text) :
    fullLines (splitLines (dedent t)) = fullLines (dedentLines (splitLines t)) :=
  splitLines_dedent_congr rfl t

theorem gaps_dedent (t : Text) : gaps (splitLines (dedent t)) = gaps (splitLines t) :=
  (splitLines_dedent_congr rfl t).trans (gaps_dedentLines (splitLines t))

theorem ended_dedent (l : Text) (mem : l ∈ splitLines (dedent t)) : IsEnded l := by
  rcases dedent_eq_nil_or t with ⟨-, empty⟩ | same
  · rw [empty] at mem
    obtain rfl := List.mem_singleton.1 mem
    exact nofun
  · rw [same] at mem
    exact (mem_dedentLines mem).1

/-- The first line and the last one are not empty, unless there is no other. -/
theorem ends_dedent (ne : dedent t ≠ []) : (splitLines (dedent t)).head? ≠ some [] ∧
    (splitLines (dedent t)).getLast? ≠ some [] := by
  rcases dedent_eq_nil_or t with ⟨-, empty⟩ | same
  · exact absurd empty ne
  · rw [same]
    exact ends_dedentLines (splitLines t)

/-- Only white space is taken off a text with its common indentation, and where it is indented with
spaces and tabs, the same number of characters from every line behind the first. -/
theorem isClipped_dedent (t : Text) :
    IsClipped t (dedent t) ∧
      ((∀ l ∈ fullLines (splitLines t).tail, IsTabbed l) → ∃ n rs,
        fullLines (splitLines (dedent t)) =
          (fullLines ((splitLines t).take 1)).map trim ++ rs ∧
        LosesMargin n (fullLines (splitLines t).tail) rs) := by
  have stripped := forall₂_isStripped_dedentLines (splitLines t)
  rw [← fullLines_dedent] at stripped
  -- a line that does not end with white space is blank only if it is empty
  have full : ∀ {line? : Option Text}, (∀ l ∈ line?, l ∈ splitLines (dedent t)) → line? ≠ some [] →
      ∀ l ∈ line?, isBlankText l = false := fun inside ne l hl =>
    (ended_dedent l (inside l hl)).isBlankText_eq fun e => ne (by rw [← e]; exact hl)
  refine ⟨⟨stripped, map_trim_of_stripped stripped, ended_dedent,
    fun ne => full (fun _ => List.mem_of_mem_head?) (ends_dedent ne).1,
    fun ne => full (fun _ => List.mem_of_mem_getLast?) (ends_dedent ne).2, gaps_dedent t⟩, ?_⟩
  obtain ⟨first, rest, e⟩ := List.exists_cons_of_ne_nil (splitLines_ne_nil t)
  rw [fullLines_dedent, e]
  intro tabbed
  refine ⟨commonDepth rest, _, ?_, losesMargin_fullLines tabbed⟩
  rw [fullLines_dedentLines, fullLines_trim]
  rfl

/-- A docstring that is indented with spaces and a tab, with blank lines of two kinds. -/
def tabbedExample : Text := " Sums rows. \n\n  Args:\n \t\n  \trows: what\n  ".toList

theorem isClipped_tabbedExample :
    (∀ l ∈ fullLines (splitLines tabbedExample).tail, IsTabbed l) ∧
      IsClipped tabbedExample "Sums rows.\n\nArgs:\n\n\trows: what".toList ∧
      ∃ n rs, ["Sums rows.".toList, "Args:".toList, "\trows: what".toList] =
          ["Sums rows.".toList] ++ rs ∧
        LosesMargin n ["  Args:".toList, "  \trows: what".toList] rs := by
  have tabbed : ∀ l ∈ fullLines (splitLines tabbedExample).tail, IsTabbed l := by decide +kernel
  have same : dedent tabbedExample = "Sums rows.\n\nArgs:\n\n\trows: what".toList := by
    decide +kernel
  have clipped := isClipped_dedent tabbedExample
  rw [same] at clipped
  exact ⟨tabbed, clipped.1, clipped.2 tabbed⟩

end DocHarvest.Doc
