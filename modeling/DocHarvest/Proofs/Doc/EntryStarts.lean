import DocHarvest.Doc.Google
import DocHarvest.Proofs.Doc.Sections
import DocHarvest.Proofs.Doc.TextLines

/-!
# Lines that start an entry

The entries of a section hold its lines that are not blank, in order (`flatten_entryLines`), and are
cut in front of a line exactly if that is the first one or is indented as little as any other line
(`startsEntry_iff`). So a line behind the first one, and indented like it, starts an entry of its own
just if no line of the section, near or far, is indented less (`startsEntry_iff_of_depth_eq`).
-/

namespace DocHarvest.Doc

open Text

variable {base : Nat} {l line : Text} {ls rest before after : List Text} {gs gs' : List (List Text)}

/-! ## Cutting lines into entries -/

theorem entryLines_cons_ne_nil (base : Nat) (l : Text) (ls : List Text) :
    entryLines base (l :: ls) ≠ [] := by
  rw [entryLines]
  split
  · simp
  · split <;> simp

/-- A line goes to the entry of the next one if that is deeper, and is an entry by itself
otherwise. -/
theorem entryLines_cons_cons (base : Nat) (l next : Text) (ls : List Text) :
    ∃ entry entries, entryLines base (next :: ls) = entry :: entries ∧
      entryLines base (l :: next :: ls) =
        if base < depth next then (trim l :: entry) :: entries
        else [trim l] :: entry :: entries := by
  obtain ⟨entry, entries, e⟩ := List.exists_cons_of_ne_nil (entryLines_cons_ne_nil base next ls)
  refine ⟨entry, entries, e, ?_⟩
  rw [entryLines, e]
  simp

/-- The entries hold all lines. -/
theorem flatten_entryLines (base : Nat) (ls : List Text) :
    (entryLines base ls).flatten = ls.map trim := by
  induction ls with
  | nil => rfl
  | cons l ls ih =>
    cases ls with
    | nil => rfl
    | cons next ls =>
      obtain ⟨entry, entries, e, e'⟩ := entryLines_cons_cons base l next ls
      rw [e, List.flatten_cons] at ih
      rw [e', List.map_cons, ← ih]
      split <;> simp

theorem nil_not_mem_entryLines (base : Nat) (ls : List Text) : [] ∉ entryLines base ls := by
  induction ls with
  | nil => exact List.not_mem_nil
  | cons l ls ih =>
    cases ls with
    | nil => simp [entryLines]
    | cons next ls =>
      obtain ⟨entry, entries, e, e'⟩ := entryLines_cons_cons base l next ls
      rw [e] at ih
      rw [e']
      split
      · simpa using fun mem => ih (List.mem_cons_of_mem _ mem)
      · simpa using ih

/-- In front of a line that is not deeper, the entries are cut. -/
theorem entryLines_append_cons (flush : depth l ≤ base) (ls rest : List Text) :
    entryLines base (ls ++ l :: rest) = entryLines base ls ++ entryLines base (l :: rest) := by
  induction ls with
  | nil => rfl
  | cons first ls ih =>
    cases ls with
    | nil =>
      obtain ⟨entry, entries, e, e'⟩ := entryLines_cons_cons base first l rest
      have alone : entryLines base [first] = [[trim first]] := rfl
      show entryLines base (first :: l :: rest) = _
      rw [e', e, alone, if_neg (by omega)]
      rfl
    | cons next ls =>
      obtain ⟨entry, entries, e, e'⟩ := entryLines_cons_cons base first next ls
      obtain ⟨entry', entries', f, f'⟩ := entryLines_cons_cons base first next (ls ++ l :: rest)
      rw [List.cons_append, f, e, List.cons_append] at ih
      obtain ⟨rfl, rfl⟩ := List.cons.inj ih
      show entryLines base (first :: next :: (ls ++ l :: rest)) = _
      rw [f', e']
      split <;> rfl

/-- In front of a deeper line with others before it, the entries are not cut. -/
theorem flatten_ne_of_deeper (deeper : base < depth l) (ne : ls ≠ [])
    (e : entryLines base (ls ++ l :: rest) = gs ++ gs') : gs.flatten ≠ ls.map trim := by
  induction ls generalizing gs with
  | nil => exact absurd rfl ne
  | cons first ls ih =>
    intro flat
    -- the first entry is one of those before the cut
    obtain ⟨g, gs, rfl⟩ : ∃ g gs₁, gs = g :: gs₁ := by
      cases gs with
      | nil => exact absurd flat nofun
      | cons g gs => exact ⟨g, gs, rfl⟩
    cases ls with
    | nil =>
      obtain ⟨entry, entries, f, f'⟩ := entryLines_cons_cons base first l rest
      have full : entry ≠ [] := by
        rintro rfl
        exact nil_not_mem_entryLines base (l :: rest) (f ▸ List.mem_cons_self)
      rw [List.singleton_append, f', if_pos deeper, List.cons_append] at e
      obtain ⟨rfl, -⟩ := List.cons.inj e
      have empty : entry ++ gs.flatten = [] := by simpa using flat
      exact full (List.append_eq_nil_iff.1 empty).1
    | cons next ls =>
      obtain ⟨entry, entries, f, f'⟩ := entryLines_cons_cons base first next (ls ++ l :: rest)
      rw [List.cons_append, List.cons_append, f', List.cons_append] at e
      rw [List.cons_append, f] at ih
      split at e
      · -- the first line belongs to the entry of the next one
        obtain ⟨rfl, rfl⟩ := List.cons.inj e
        have cut : entry :: (gs ++ gs') = (entry :: gs) ++ gs' := rfl
        exact ih (List.cons_ne_nil _ _) cut (by simpa using flat)
      · obtain ⟨rfl, behind⟩ := List.cons.inj e
        exact ih (List.cons_ne_nil _ _) behind (by simpa using flat)

/-! ## Entries as texts -/

/-- Whether the line between some others starts an entry of its own: the entries up to there hold
what stands before it, and the entries from there on hold the line and what stands behind it. -/
def StartsEntry (before : List Text) (line : Text) (after : List Text) : Prop :=
  ∃ entries entries', entriesOf (before ++ line :: after) = entries ++ entries' ∧
    entries.flatMap splitLines = textLines before ∧
    entries'.flatMap splitLines = textLines (line :: after)

/-- The lines of all entries are those that were cut into entries. -/
theorem flatMap_splitLines_entries (base : Nat) (newline : ∀ l ∈ ls, '\n' ∉ l) :
    ((entryLines base ls).map joinLines).flatMap splitLines = ls.map trim := by
  rw [flatMap_splitLines_map_joinLines (nil_not_mem_entryLines base ls), flatten_entryLines]
  rw [flatten_entryLines]
  exact newline_not_mem_map_trim newline

/-- A line starts an entry if it is the first one or is not deeper than the least deep one. -/
theorem startsEntry_iff (newline : ∀ l ∈ before ++ line :: after, '\n' ∉ l)
    (full : isBlankText line = false) :
    StartsEntry before line after ↔
      (∀ l ∈ before, isBlankText l = true) ∨
        depth line ≤ commonDepth (before ++ line :: after) := by
  have filtered : (before ++ line :: after).filter (!isBlankText ·) =
      before.filter (!isBlankText ·) ++ line :: after.filter (!isBlankText ·) := by
    simp [full]
  have behind : textLines (line :: after) = (line :: after.filter (!isBlankText ·)).map trim := by
    simp [textLines, full]
  have kept : ∀ l ∈ before.filter (!isBlankText ·) ++ line :: after.filter (!isBlankText ·),
      '\n' ∉ l := by
    rw [← filtered]
    exact fun l hl => newline l (List.mem_filter.1 hl).1
  rw [StartsEntry, entriesOf, filtered, behind, ← textLines_eq_nil_iff, textLines]
  generalize commonDepth (before ++ line :: after) = base
  generalize before.filter (!isBlankText ·) = ls at kept ⊢
  generalize after.filter (!isBlankText ·) = rest at kept ⊢
  constructor
  · rintro ⟨entries, entries', e, flat, -⟩
    obtain ⟨gs, gs', cut, rfl, rfl⟩ := List.map_eq_append_iff.1 e
    by_cases deeper : base < depth line
    · -- the line goes on the entry before it, so there is none
      refine .inl ?_
      by_contra ne
      have full : [] ∉ gs := fun mem =>
        nil_not_mem_entryLines base (ls ++ line :: rest) (cut ▸ List.mem_append_left _ mem)
      have inside : ∀ l ∈ gs.flatten, '\n' ∉ l := by
        intro l hl
        refine newline_not_mem_map_trim kept l ?_
        rw [← flatten_entryLines base, cut, List.flatten_append]
        exact List.mem_append_left _ hl
      rw [flatMap_splitLines_map_joinLines full inside] at flat
      exact flatten_ne_of_deeper deeper (fun e => ne (by rw [e]; rfl)) cut flat
    · exact .inr (by omega)
  · obtain ⟨inBefore, inRest⟩ := List.forall_mem_append.1 kept
    rintro (none | flush)
    · obtain rfl := List.map_eq_nil_iff.1 none
      exact ⟨[], _, rfl, rfl, flatMap_splitLines_entries base kept⟩
    · refine ⟨(entryLines base ls).map joinLines, (entryLines base (line :: rest)).map joinLines,
        ?_, flatMap_splitLines_entries base inBefore, flatMap_splitLines_entries base inRest⟩
      rw [entryLines_append_cons flush, List.map_append]

/-! ## Lines that are indented like the first one -/

/-- A line that is indented like the first one starts an entry of its own, unless it is not the
first one and some line of the section is indented less. -/
theorem startsEntry_iff_of_depth_eq {first : Text}
    (newline : ∀ l ∈ before ++ line :: after, '\n' ∉ l)
    (full : isBlankText line = false)
    (isFirst : (before ++ line :: after).find? (!isBlankText ·) = some first)
    (same : depth line = depth first) :
    StartsEntry before line after ↔ (∀ l ∈ before, isBlankText l = true) ∨
      ∀ l ∈ before ++ line :: after, isBlankText l = false → depth first ≤ depth l := by
  rw [startsEntry_iff newline full, same]
  refine or_congr_right ⟨fun le l hl full => ?_, fun least => ?_⟩
  · exact Nat.le_trans le (commonDepth_le_depth hl full)
  · have mem := List.mem_of_find?_eq_some isFirst
    have full := List.find?_some isFirst
    rw [commonDepth_eq_depth mem (by simpa using full) least]

/-- Behind a deeper line and an empty one, a line at the depth of the first one starts an entry. -/
theorem startsEntry_behind_deeper :
    let before := ["    rows: the rows".toList, "        to scale".toList, []]
    let line := "    factor: what to scale by".toList
    (∀ l ∈ before ++ [line], '\n' ∉ l) ∧ isBlankText line = false ∧
      (before ++ [line]).find? (!isBlankText ·) = some "    rows: the rows".toList ∧
      depth line = depth "    rows: the rows".toList ∧ StartsEntry before line [] := by
  intro before line
  have newline : ∀ l ∈ before ++ [line], '\n' ∉ l := by decide
  have full : isBlankText line = false := by decide
  have isFirst : (before ++ [line]).find? (!isBlankText ·) = some "    rows: the rows".toList := by
    decide
  have same : depth line = depth "    rows: the rows".toList := by decide
  refine ⟨newline, full, isFirst, same, ?_⟩
  exact (startsEntry_iff_of_depth_eq newline full isFirst same).2 (.inr (by decide))

/-- A note that is not indented makes all arguments before it one entry, so that what is said about
the second one becomes part of the description of the first one. -/
theorem not_startsEntry_before_note :
    let first := "    rows: the rows to scale".toList
    let line := "    factor: what to scale by".toList
    let note := "Note: the rows are copied".toList
    isBlankText line = false ∧ [first, line, note].find? (!isBlankText ·) = some first ∧
      depth line = depth first ∧ ¬StartsEntry [first] line [note] ∧
      Google.read (joinLines ["Scales rows.".toList, [], "Args:".toList, first, line, note]) = .ok {
        short := some "Scales rows.".toList
        tags := [
          { keyword := "param".toList, argName := some "rows".toList
            description := some "the rows to scale\nfactor: what to scale by".toList },
          { keyword := "param".toList, argName := some "Note".toList
            description := some "the rows are copied".toList }] } := by
  intro first line note
  have newline : ∀ l ∈ [first] ++ line :: [note], '\n' ∉ l := by decide
  have full : isBlankText line = false := by decide
  refine ⟨full, by decide, by decide, ?_, by decide⟩
  rw [startsEntry_iff newline full]
  decide

end DocHarvest.Doc
