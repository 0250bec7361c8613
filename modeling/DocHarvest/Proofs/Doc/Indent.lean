import DocHarvest.Doc.Indent
import DocHarvest.Proofs.Doc.Blocks
import DocHarvest.Proofs.Text.Runs

/-!
# Lines without their common indentation

The lines of a text without its common indentation are those of `dedentLines` (`lines_dedent`). Only
white space at the ends of a line is lost (`isStripped_outdentLine`), and nothing is where a line is
not indented and none ends with white space (`lines_dedent_joinLines`).
-/

namespace DocHarvest.Doc

open Text

variable {l t : Text} {ls : List Text} {n : Nat}

/-! ## Ends of lines -/

/-- A text that does not end with white space. -/
def IsEnded (t : Text) : Prop := ∀ c ∈ t.getLast?, isBlank c = false

theorem isEnded_trimEnd (t : Text) : IsEnded (trimEnd t) := by
  intro c hc
  rw [trimEnd, List.getLast?_reverse] at hc
  exact eq_false_of_mem_head?_dropWhile hc

theorem IsEnded.trimEnd_eq (h : IsEnded t) : trimEnd t = t := by
  have start : trimStart t.reverse = t.reverse := trimStart_eq_self fun c hc =>
    h c (by rwa [List.head?_reverse] at hc)
  rw [trimEnd, ← trimStart, start, List.reverse_reverse]

theorem IsEnded.dropReturn_eq (h : IsEnded t) : dropReturn t = t := by
  have none : dropTail? ['\r'] t = none := by
    rw [Option.eq_none_iff_forall_ne_some]
    intro rest e
    have last := h '\r' (by rw [dropTail?_eq_some.1 e, List.getLast?_concat]; rfl)
    exact absurd last (by decide)
  rw [dropReturn, none, Option.getD_none]

/-- Lines that do not end with white space, the last of which is not empty, are read as they are. -/
theorem lines_joinLines (line : ∀ l ∈ ls, '\n' ∉ l) (ended : ∀ l ∈ ls, IsEnded l)
    (last : ls.getLast? ≠ some []) : lines (joinLines ls) = ls := by
  rcases List.eq_nil_or_concat ls with rfl | ⟨ls, l, rfl⟩
  · rfl
  · rw [List.concat_eq_append] at line ended last ⊢
    have full : l ≠ [] := by simpa using last
    have same : ls.map dropReturn = ls :=
      List.map_congr_left (fun x hx => (ended x (List.mem_append_left _ hx)).dropReturn_eq) |>.trans
        (List.map_id ls)
    obtain ⟨init, tail, e, e'⟩ := exists_lines_eq (joinLines (ls ++ [l]))
    rw [splitLines_joinLines (by simp) line] at e
    obtain ⟨rfl, same'⟩ := List.append_inj' e rfl
    obtain rfl := List.singleton_inj.1 same'
    rw [e', same, if_neg full]

/-! ## Depth -/

theorem commonDepth_le_depth (mem : l ∈ ls) (full : isBlankText l = false) :
    commonDepth ls ≤ depth l :=
  List.min?_getD_le_of_mem (List.mem_map_of_mem (List.mem_filter.2 ⟨mem, by simp [full]⟩))

/-- Some line is indented no further than all lines are, unless all are blank. -/
theorem exists_depth_eq_commonDepth (mem : l ∈ ls) (full : isBlankText l = false) :
    ∃ l' ∈ ls, isBlankText l' = false ∧ depth l' = commonDepth ls := by
  unfold commonDepth
  cases h : ((ls.filter (!isBlankText ·)).map depth).min? with
  | none =>
    rw [List.min?_eq_none_iff, List.map_eq_nil_iff, List.filter_eq_nil_iff] at h
    exact absurd (h l mem) (by simp [full])
  | some d =>
    obtain ⟨l', mem', rfl⟩ := List.mem_map.1 (List.min?_mem h)
    obtain ⟨mem', full'⟩ := List.mem_filter.1 mem'
    exact ⟨l', mem', by simpa using full', rfl⟩

/-- The common depth is the depth of a line that is nowhere indented less. -/
theorem commonDepth_eq_depth (mem : l ∈ ls) (full : isBlankText l = false)
    (least : ∀ l' ∈ ls, isBlankText l' = false → depth l ≤ depth l') :
    commonDepth ls = depth l := by
  obtain ⟨l', mem', full', same⟩ := exists_depth_eq_commonDepth mem full
  exact Nat.le_antisymm (commonDepth_le_depth mem full) (same ▸ least l' mem' full')

/-! ## Lines without indentation -/

/-- The bytes that are taken off the front of a line are all white space, if the line has as much. -/
theorem isBlank_of_byteLength_le {lead rest : Text} (h : byteLength lead ≤ depth (lead ++ rest)) :
    IsBlank lead := by
  have blank : IsBlank ((lead ++ rest).takeWhile isBlank) := fun c hc => List.mem_takeWhile_imp hc
  unfold depth at h
  have parts := List.takeWhile_append_dropWhile (p := isBlank) (l := lead ++ rest)
  rcases List.append_eq_append_iff.1 parts with ⟨m, e, -⟩ | ⟨m, e, -⟩
  · have empty : m = [] := by
      cases m with
      | nil => rfl
      | cons c m =>
        have := Char.utf8Size_pos c
        have := congrArg byteLength e
        simp only [byteLength_append, byteLength] at this
        omega
    rw [e, empty, List.append_nil]
    exact blank
  · exact fun c hc => blank c (by rw [e]; exact List.mem_append_left _ hc)

/-- A line without some of the white space at its ends. -/
def IsStripped (l r : Text) : Prop :=
  ∃ lead tail, l = lead ++ r ++ tail ∧ IsBlank lead ∧ IsBlank tail

theorem IsStripped.trim_eq {r : Text} (h : IsStripped l r) : trim l = trim r := by
  obtain ⟨lead, tail, rfl, blank, blank'⟩ := h
  exact trim_append_append blank blank' r

theorem isStripped_outdentLine (h : n ≤ depth l ∨ IsBlank l) : IsStripped l (outdentLine n l) := by
  rw [outdentLine]
  cases dropped : byteDrop? l n with
  | none => exact exists_eq_trim l
  | some rest =>
    obtain ⟨lead, rfl, rfl⟩ := byteDrop?_eq_some.1 dropped
    have blank : IsBlank lead := by
      rcases h with h | h
      · exact isBlank_of_byteLength_le h
      · exact fun c hc => h c (List.mem_append_left _ hc)
    obtain ⟨tail, e, blank'⟩ := exists_eq_trimEnd rest
    refine ⟨lead, tail, ?_, blank, blank'⟩
    rw [Option.getD_some, List.append_assoc, ← e]

/-- Only white space at the ends of a line goes. -/
theorem isStripped_outdentLine_commonDepth (mem : l ∈ ls) :
    IsStripped l (outdentLine (commonDepth ls) l) := by
  refine isStripped_outdentLine ?_
  cases full : isBlankText l with
  | false => exact .inl (commonDepth_le_depth mem full)
  | true => exact .inr (isBlankText_iff.1 full)

theorem trim_outdentLine_commonDepth (mem : l ∈ ls) :
    trim (outdentLine (commonDepth ls) l) = trim l :=
  (isStripped_outdentLine_commonDepth mem).trim_eq.symm

theorem outdentLine_zero (l : Text) : outdentLine 0 l = trimEnd l := by
  cases l <;> rfl

theorem isEnded_outdentLine (n : Nat) (l : Text) : IsEnded (outdentLine n l) := isEnded_trimEnd _

theorem mem_of_mem_outdentLine {c : Char} (h : c ∈ outdentLine n l) : c ∈ l := by
  have inside : c ∈ (byteDrop? l n).getD (trimStart l) := mem_of_mem_trimEnd h
  cases dropped : byteDrop? l n with
  | none =>
    rw [dropped] at inside
    exact (List.dropWhile_suffix _).subset inside
  | some rest =>
    obtain ⟨lead, rfl, -⟩ := byteDrop?_eq_some.1 dropped
    rw [dropped] at inside
    exact List.mem_append_right _ inside

/-! ## Empty lines at the ends -/

theorem exists_eq_dropEmptyEnds (ls : List Text) : ∃ lead tail,
    ls = lead ++ dropEmptyEnds ls ++ tail ∧ (∀ l ∈ lead, l = []) ∧ ∀ l ∈ tail, l = [] := by
  have empty : ∀ {l : Text} {ls : List Text}, l ∈ ls.takeWhile List.isEmpty → l = [] :=
    fun h => List.isEmpty_iff.1 (List.mem_takeWhile_imp h)
  refine ⟨ls.takeWhile List.isEmpty,
    ((ls.dropWhile List.isEmpty).reverse.takeWhile List.isEmpty).reverse, ?_, fun l => empty,
    fun l hl => empty (List.mem_reverse.1 hl)⟩
  rw [dropEmptyEnds, List.append_assoc, ← List.reverse_append, List.takeWhile_append_dropWhile,
    List.reverse_reverse, List.takeWhile_append_dropWhile]

/-- Where the first line and the last one are not empty, all lines stay. -/
theorem dropEmptyEnds_eq_self (first : ls.head? ≠ some []) (last : ls.getLast? ≠ some []) :
    dropEmptyEnds ls = ls := by
  have keep : ∀ ls : List Text, ls.head? ≠ some [] → ls.dropWhile List.isEmpty = ls := by
    intro ls h
    cases ls with
    | nil => rfl
    | cons l ls => exact List.dropWhile_cons_of_neg fun e => h (by rw [List.isEmpty_iff.1 e]; rfl)
  rw [dropEmptyEnds, keep ls first, keep _ (by rwa [List.head?_reverse]), List.reverse_reverse]

theorem getLast?_dropEmptyEnds_ne (ls : List Text) : (dropEmptyEnds ls).getLast? ≠ some [] := by
  rw [dropEmptyEnds, List.getLast?_reverse]
  intro h
  have := List.head?_dropWhile_not List.isEmpty (ls.dropWhile List.isEmpty).reverse
  rw [h] at this
  exact absurd this nofun

theorem head?_dropEmptyEnds_ne (ls : List Text) : (dropEmptyEnds ls).head? ≠ some [] := by
  intro h
  have front : dropEmptyEnds ls <+: ls.dropWhile List.isEmpty :=
    List.reverse_suffix.1 (by rw [dropEmptyEnds, List.reverse_reverse]; exact List.dropWhile_suffix _)
  obtain ⟨tail, e⟩ := front
  have start := List.head?_dropWhile_not List.isEmpty ls
  rw [← e, List.head?_append, h] at start
  exact absurd start nofun

/-! ## All lines -/

theorem ends_dedentLines (ls : List Text) :
    (dedentLines ls).head? ≠ some [] ∧ (dedentLines ls).getLast? ≠ some [] := by
  cases ls with
  | nil => exact ⟨nofun, nofun⟩
  | cons first ls => exact ⟨head?_dropEmptyEnds_ne _, getLast?_dropEmptyEnds_ne _⟩

theorem mem_dedentLines (h : l ∈ dedentLines ls) : IsEnded l ∧ ∃ l' ∈ ls, ∀ c ∈ l, c ∈ l' := by
  cases ls with
  | nil => exact absurd h List.not_mem_nil
  | cons first ls =>
    obtain ⟨lead, tail, e, -⟩ := exists_eq_dropEmptyEnds
      (trim first :: ls.map (outdentLine (commonDepth ls)))
    have mem : l ∈ trim first :: ls.map (outdentLine (commonDepth ls)) := by
      rw [e]
      exact List.mem_append_left _ (List.mem_append_right _ h)
    rcases List.mem_cons.1 mem with rfl | mem
    · exact ⟨isEnded_trimEnd _, first, List.mem_cons_self, fun c => mem_of_mem_trim⟩
    · obtain ⟨l', hl', rfl⟩ := List.mem_map.1 mem
      exact ⟨isEnded_outdentLine _ _, l', List.mem_cons_of_mem _ hl',
        fun c => mem_of_mem_outdentLine⟩

theorem newline_not_mem_dedentLines (h : l ∈ dedentLines (splitLines t)) : '\n' ∉ l := by
  obtain ⟨-, l', hl', inside⟩ := mem_dedentLines h
  exact fun mem => not_mem_of_mem_splitLines hl' (inside _ mem)

/-- The lines of a text without its common indentation. -/
theorem lines_dedent (t : Text) : lines (dedent t) = dedentLines (splitLines t) :=
  lines_joinLines (fun _ => newline_not_mem_dedentLines) (fun _ hl => (mem_dedentLines hl).1)
    (ends_dedentLines (splitLines t)).2

/-- Behind a trimmed line, lines stay as they are if one of them is not indented and none ends with
white space; only empty ones at the end go. -/
theorem dedentLines_cons {first : Text} (trimmed : IsTrimmed first) (ended : ∀ l ∈ ls, IsEnded l)
    (flush : commonDepth ls = 0) : dedentLines (first :: ls) = dropEmptyEnds (first :: ls) := by
  have same : ∀ l ∈ ls, outdentLine 0 l = l := fun l hl => by
    rw [outdentLine_zero, (ended l hl).trimEnd_eq]
  rw [dedentLines, flush, trimmed.trim_eq, List.map_congr_left same, List.map_id']

theorem lines_dedent_joinLines {first : Text} (line : IsLine first)
    (body : ∀ l ∈ ls, IsEnded l ∧ '\n' ∉ l) (flush : commonDepth ls = 0) :
    lines (dedent (joinLines (first :: ls))) = dropEmptyEnds (first :: ls) := by
  have newline : ∀ l ∈ first :: ls, '\n' ∉ l :=
    List.forall_mem_cons.2 ⟨line.newline, fun l hl => (body l hl).2⟩
  rw [lines_dedent, splitLines_joinLines (List.cons_ne_nil _ _) newline,
    dedentLines_cons line.toIsTrimmed (fun l hl => (body l hl).1) flush]

/-- Line by line, only white space at the ends goes; then empty lines at the ends do. -/
theorem exists_dedentLines_eq (ls : List Text) :
    ∃ ls', dedentLines ls = dropEmptyEnds ls' ∧ ls'.map trim = ls.map trim := by
  cases ls with
  | nil => exact ⟨[], rfl, rfl⟩
  | cons first ls =>
    refine ⟨_, rfl, ?_⟩
    rw [List.map_cons, List.map_cons, trim_trim, List.map_map]
    exact congrArg _ (List.map_congr_left fun _ => trim_outdentLine_commonDepth)

end DocHarvest.Doc
