import DocHarvest.Doc.Style
import DocHarvest.Proofs.Doc.ArgSections
import DocHarvest.Proofs.Doc.FieldHeads

/-!
# The convention that a docstring is found to follow

`DocStyle.detect` looks at a docstring as it stands, the readers at its lines without their common
indentation. These are the same lines up to white space at their ends and empty lines around them
(`AreSameLines`), and nothing that a reader looks for depends on that. So a docstring that is found
to have no fields is read as one without fields, and one that is found to be plain has no section for
any reader (`DocStyle.read_of_detect`).
-/

namespace DocHarvest.Doc

open Text

variable {ls ls' : List Text}

/-! ## Lines that differ in white space -/

/-- Lines that are the others up to white space at their ends, with empty ones around them. -/
def AreSameLines (ls ls' : List Text) : Prop :=
  ∃ lead tail, ls.map trim = lead ++ ls'.map trim ++ tail ∧ (∀ l ∈ lead, l = []) ∧
    ∀ l ∈ tail, l = []

theorem areSameLines_lines (t : Text) : AreSameLines (splitLines t) (lines t) := by
  obtain ⟨init, last, e, e'⟩ := exists_lines_eq t
  have same : (init.map dropReturn).map trim = init.map trim := by
    rw [List.map_map]
    exact List.map_congr_left fun l _ => trim_dropReturn l
  rw [e, e']
  by_cases empty : last = []
  · -- nothing stands behind the last line feed
    subst empty
    have trimmed : trim [] = [] := rfl
    exact ⟨[], [[]], by simp [same, trimmed], by simp, by simp⟩
  · refine ⟨[], [], ?_, by simp, by simp⟩
    simp [same, empty]

theorem areSameLines_dedent (t : Text) : AreSameLines (splitLines t) (lines (dedent t)) := by
  obtain ⟨ls, e, same⟩ := exists_dedentLines_eq (splitLines t)
  obtain ⟨lead, tail, parts, empty, empty'⟩ := exists_eq_dropEmptyEnds ls
  have trimmed : ∀ {ls : List Text}, (∀ l ∈ ls, l = []) → ∀ l ∈ ls.map trim, l = [] := by
    intro ls h l hl
    obtain ⟨l', hl', rfl⟩ := List.mem_map.1 hl
    rw [h l' hl']
    rfl
  refine ⟨lead.map trim, tail.map trim, ?_, trimmed empty, trimmed empty'⟩
  rw [← same, lines_dedent, e, parts, List.map_append, List.map_append, ← parts]

/-- What is looked for in single lines is found in both or in none, if white space at the ends of a
line does not matter to it and an empty line is none of it. -/
theorem AreSameLines.any_eq (h : AreSameLines ls ls') {p : Text → Bool}
    (ends : ∀ l, p (trim l) = p l) (empty : p [] = false) : ls.any p = ls'.any p := by
  obtain ⟨lead, tail, e, none, none'⟩ := h
  have each : ∀ ls : List Text, (ls.map trim).any p = ls.any p := by
    intro ls
    simp only [List.any_map, Function.comp_def, ends]
  have skip : ∀ {ls : List Text}, (∀ l ∈ ls, l = []) → ls.any p = false := by
    intro ls h
    rw [List.any_eq_false]
    intro l hl
    simp [h l hl, empty]
  rw [← each, e, List.any_append, List.any_append, skip none, skip none', each]
  simp

/-! ## Underlined titles -/

namespace Numpy

theorem isTitle_trim (l next : Text) :
    isTitle (trim l) (some (trim next)) = isTitle l (some next) := by
  simp only [isTitle, Option.any_some, isUnderline, trim_trim]

end Numpy

namespace DocStyle

theorem hasUnderlinedTitle_map_trim (ls : List Text) :
    hasUnderlinedTitle (ls.map trim) = hasUnderlinedTitle ls := by
  induction ls with
  | nil => rfl
  | cons l ls ih =>
    cases ls with
    | nil => rfl
    | cons next ls =>
      rw [List.map_cons, List.map_cons] at *
      rw [hasUnderlinedTitle, hasUnderlinedTitle, ih, Numpy.isTitle_trim]

theorem hasUnderlinedTitle_append_left {lead : List Text} (empty : ∀ l ∈ lead, l = [])
    (ls : List Text) : hasUnderlinedTitle (lead ++ ls) = hasUnderlinedTitle ls := by
  induction lead with
  | nil => rfl
  | cons l lead ih =>
    obtain rfl := empty l List.mem_cons_self
    rw [List.cons_append, ← ih fun l hl => empty l (List.mem_cons_of_mem _ hl)]
    cases lead ++ ls with
    | nil => rfl
    | cons next ls =>
      have none : Numpy.titles.contains (trim []) = false := by decide
      rw [hasUnderlinedTitle, Numpy.isTitle, none, Bool.false_and, Bool.false_or]

theorem hasUnderlinedTitle_append_right (ls : List Text) {tail : List Text}
    (empty : ∀ l ∈ tail, l = []) : hasUnderlinedTitle (ls ++ tail) = hasUnderlinedTitle ls := by
  induction ls with
  | nil => simpa using hasUnderlinedTitle_append_left empty []
  | cons l ls ih =>
    cases ls with
    | nil =>
      cases tail with
      | nil => rfl
      | cons next tail =>
        obtain rfl := empty next List.mem_cons_self
        have none : Numpy.isUnderline [] = false := by decide
        have rest : hasUnderlinedTitle ([] :: tail) = false := ih
        show hasUnderlinedTitle (l :: [] :: tail) = false
        rw [hasUnderlinedTitle, rest, Numpy.isTitle, Option.any_some, none, Bool.and_false,
          Bool.or_false]
    | cons next ls =>
      rw [List.cons_append, List.cons_append] at *
      rw [hasUnderlinedTitle, hasUnderlinedTitle, ih]

end DocStyle

theorem AreSameLines.hasUnderlinedTitle_eq (h : AreSameLines ls ls') :
    DocStyle.hasUnderlinedTitle ls = DocStyle.hasUnderlinedTitle ls' := by
  obtain ⟨lead, tail, e, empty, empty'⟩ := h
  rw [← DocStyle.hasUnderlinedTitle_map_trim, e,
    DocStyle.hasUnderlinedTitle_append_right _ empty',
    DocStyle.hasUnderlinedTitle_append_left empty, DocStyle.hasUnderlinedTitle_map_trim]

/-! ## What is found in a docstring -/

/-- A heading is one without white space around it, too. -/
theorem Google.isSome_heading?_trim {l : Text} (h : (Google.heading? l).isSome = true) :
    (Google.heading? (trim l)).isSome = true := by
  rw [heading?] at h
  split at h
  · next title rest parts =>
    split at h
    · next isHeading =>
      rw [Bool.and_eq_true, List.contains_iff_mem, List.all_eq_true] at isHeading
      obtain ⟨mem, spaces⟩ := isHeading
      have each : ∀ title ∈ titles, IsTrimmed (title ++ [':']) ∧ ':' ∉ title := by decide
      obtain ⟨trimmed, colon⟩ := each title mem
      have blank : IsBlank rest := by
        intro c hc
        have space := spaces c hc
        simp only [Bool.or_eq_true, decide_eq_true_eq] at space
        rcases space with rfl | rfl <;> decide
      have bare : trim l = title ++ ':' :: [] := by
        rw [eq_append_of_splitOnce parts, List.append_cons, trim_append _ blank, trimmed.trim_eq]
      rw [bare, heading?, splitOnce_append_cons colon]
      simp [mem]
    · cases h
  · cases h

namespace DocStyle

variable {t : Text}

/-- The lines of a docstring that is found to have no fields start none. -/
theorem startsField_eq_false_of_detect (h : detect t ≠ rest) :
    ∀ l ∈ lines (dedent t), Rest.startsField l = false := by
  have none : (splitLines t).any Rest.startsField = false := by
    rw [Bool.eq_false_iff]
    intro found
    exact h (by rw [detect, if_pos found])
  rw [(areSameLines_dedent t).any_eq Rest.startsField_trim rfl, List.any_eq_false] at none
  simpa using none

/-- The lines of a docstring that is found to be plain have no underlined title and no heading. -/
theorem no_title_of_detect (h : detect t = plain) :
    hasUnderlinedTitle (lines (dedent t)) = false ∧
      ∀ l ∈ lines (dedent t), Google.heading? l = none := by
  have same := (areSameLines_lines t).hasUnderlinedTitle_eq
  have same' := (areSameLines_dedent t).hasUnderlinedTitle_eq
  have headed : (splitLines t).any (fun l => (Google.heading? (trim l)).isSome) =
      (lines t).any fun l => (Google.heading? (trim l)).isSome :=
    (areSameLines_lines t).any_eq (fun l => by rw [trim_trim]) rfl
  have headed' : (splitLines t).any (fun l => (Google.heading? (trim l)).isSome) =
      (lines (dedent t)).any fun l => (Google.heading? (trim l)).isSome :=
    (areSameLines_dedent t).any_eq (fun l => by rw [trim_trim]) rfl
  unfold detect at h
  split at h
  · cases h
  split at h
  · cases h
  next underlined =>
  split at h
  · cases h
  next unheaded =>
  constructor
  · rw [← same', same]
    exact Bool.eq_false_iff.2 underlined
  · intro l hl
    rw [← headed, headed', Bool.not_eq_true, List.any_eq_false] at unheaded
    rw [← Option.not_isSome_iff_eq_none]
    exact fun found => unheaded l hl (Google.isSome_heading?_trim found)

end DocStyle

/-! ## Docstrings in which nothing is found -/

theorem joinLines_lines_dedent (t : Text) : joinLines (lines (dedent t)) = dedent t := by
  rw [lines_dedent, dedent]

namespace Rest

theorem gatherFields_of_body (h : ∀ l ∈ ls, startsField l = false) :
    gatherFields ls = (ls, []) := by
  induction ls with
  | nil => rfl
  | cons l ls ih =>
    rw [gatherFields_cons, ih fun x hx => h x (List.mem_cons_of_mem _ hx), h l List.mem_cons_self]
    rfl

theorem read_of_body {t : Text} (h : ∀ l ∈ lines (dedent t), startsField l = false) :
    read t = .ok (.ofDescription (dedent t)) := by
  rw [read, gatherFields_of_body h]
  simp only [joinLines_lines_dedent]
  rfl

end Rest

theorem Google.read_of_body {t : Text} (h : ∀ l ∈ lines (dedent t), heading? l = none) :
    read t = .ok (.ofDescription (dedent t)) := by
  rw [read, gatherSections_of_body h]
  simp only [joinLines_lines_dedent]
  rfl

namespace Numpy

theorem gatherSections_of_body (h : DocStyle.hasUnderlinedTitle ls = false) :
    gatherSections ls = (ls, []) := by
  induction ls with
  | nil => rfl
  | cons l ls ih =>
    cases ls with
    | nil => rfl
    | cons next ls =>
      rw [DocStyle.hasUnderlinedTitle, Bool.or_eq_false_iff] at h
      rw [gatherSections, h.1, ih h.2]
      rfl

theorem read_of_body {t : Text} (h : DocStyle.hasUnderlinedTitle (lines (dedent t)) = false) :
    read t = .ofDescription (dedent t) := by
  rw [read, gatherSections_of_body h]
  simp only [joinLines_lines_dedent]
  rfl

end Numpy

namespace DocStyle

/-- Where no fields are found, the reader of fields finds none either, and where nothing is found no
reader finds anything: the whole docstring is its description, and there are no tags. -/
theorem read_of_detect (t : Text) :
    (detect t ≠ rest → rest.read t = .ok (.ofDescription (dedent t))) ∧
    (detect t = plain →
      google.read t = .ok (.ofDescription (dedent t)) ∧
      numpy.read t = .ok (.ofDescription (dedent t))) := by
  refine ⟨fun h => Rest.read_of_body (startsField_eq_false_of_detect h), fun h => ?_⟩
  obtain ⟨untitled, unheaded⟩ := no_title_of_detect h
  exact ⟨Google.read_of_body unheaded, congrArg Except.ok (Numpy.read_of_body untitled)⟩

/-- A docstring with lines that are nearly a field, an underlined title and a heading. -/
def nearMisses : Text :=
  ("Copies rows.\r\n\r\n    :params rows: to copy\r\n" ++
    "    Returns\r\n    --\r\n    Args: rows\r\n").toList

theorem read_nearMisses :
    detect nearMisses ≠ rest ∧ detect nearMisses = plain ∧
    rest.read nearMisses = .ok {
      short := some "Copies rows.".toList
      long := some ":params rows: to copy\nReturns\n--\nArgs: rows".toList } ∧
    google.read nearMisses = rest.read nearMisses ∧
    numpy.read nearMisses = rest.read nearMisses := by
  have found : detect nearMisses = plain := by decide
  have fieldless : detect nearMisses ≠ rest := by rw [found]; decide
  obtain ⟨fields, sections⟩ := read_of_detect nearMisses
  obtain ⟨google, numpy⟩ := sections found
  refine ⟨fieldless, found, ?_, ?_, ?_⟩
  · rw [fields fieldless]
    decide
  · rw [google, fields fieldless]
  · rw [numpy, fields fieldless]

end DocStyle

end DocHarvest.Doc
