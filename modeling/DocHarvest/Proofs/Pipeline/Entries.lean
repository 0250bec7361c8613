import DocHarvest.Proofs.Pipeline.ByteLines
import DocHarvest.Proofs.Text.Utf8
import DocHarvest.Proofs.Traversal

/-!
# Entries of a dataset

A dataset is read line by line. A blank line is passed over, and any other line must be an entry
(`Dataset.IsEntry`); the first one that is not refuses the file (`Dataset.IsRefused`), whatever
follows it (`Dataset.readLines_eq_error_iff`). How lines end makes no difference
(`Dataset.ofBytes_lines`).
-/

namespace DocHarvest.Dataset

variable {source : Text} {number : Nat} {line : Bytes} {lines : List Bytes} {unit : SourceUnit}
  {units : List SourceUnit} {e : RunError}

/-- Whether a line is a text without content. -/
def isBlankLine (line : Bytes) : Bool := (Text.ofBytes? line).any Text.isBlankText

/-- The source file that is written on a line with content. -/
def IsEntry (line : Bytes) (unit : SourceUnit) : Prop :=
  ∃ text, Text.ofBytes? line = some text ∧ text.isBlankText = false ∧
    SourceUnit.schema.readJson text = .ok unit

/-- Whether a line can be passed over or read. -/
def IsReadable (line : Bytes) : Prop := isBlankLine line = true ∨ ∃ unit, IsEntry line unit

/-- Why a line of that number cannot be read: it is no text, or it is one with content that is no
entry. -/
inductive IsRefused (source : Text) (number : Nat) (line : Bytes) : RunError → Prop
  | undecodable (broken : Text.ofBytes? line = none) : IsRefused source number line .io
  | malformed {text : Text} {fault : Json.ReadError} (decoded : Text.ofBytes? line = some text)
    (content : text.isBlankText = false) (refused : SourceUnit.schema.readJson text = .error fault) :
    IsRefused source number line (.badEntry source number fault)

/-! ## One line -/

theorem IsEntry.eq {unit' : SourceUnit} (h : IsEntry line unit) (h' : IsEntry line unit') :
    unit' = unit := by
  obtain ⟨text, decoded, -, read⟩ := h
  obtain ⟨text', decoded', -, read'⟩ := h'
  rw [decoded] at decoded'
  obtain rfl := Option.some.inj decoded'
  rw [read] at read'
  exact (Except.ok.inj read').symm

theorem IsEntry.isBlankLine_eq_false (h : IsEntry line unit) : isBlankLine line = false := by
  obtain ⟨text, decoded, content, -⟩ := h
  rw [isBlankLine, decoded]
  exact content

theorem isReadable_or_isRefused (source : Text) (number : Nat) (line : Bytes) :
    IsReadable line ∨ ∃ e, IsRefused source number line e := by
  unfold IsReadable
  cases decoded : Text.ofBytes? line with
  | none => exact .inr ⟨_, .undecodable decoded⟩
  | some text =>
    cases content : text.isBlankText with
    | true => exact .inl (.inl (by rw [isBlankLine, decoded]; exact content))
    | false =>
      cases read : SourceUnit.schema.readJson text with
      | error fault => exact .inr ⟨_, .malformed decoded content read⟩
      | ok unit => exact .inl (.inr ⟨unit, text, decoded, content, read⟩)

theorem readLines_cons_of_isBlankLine (h : isBlankLine line = true) :
    readLines source number (line :: lines) = readLines source (number + 1) lines := by
  obtain ⟨text, decoded, blank⟩ := (Option.any_eq_true _ _).1 h
  simp only [readLines, decoded, blank, if_true]

theorem IsEntry.readLines_cons (h : IsEntry line unit) : readLines source number (line :: lines) =
    (readLines source (number + 1) lines).map (unit :: ·) := by
  obtain ⟨text, decoded, content, read⟩ := h
  simp only [readLines, decoded, content, read]
  rfl

theorem IsRefused.isBlankLine_eq_false (h : IsRefused source number line e) :
    isBlankLine line = false := by
  cases h with
  | undecodable broken => rw [isBlankLine, broken, Option.any_none]
  | malformed decoded content _ => rw [isBlankLine, decoded, Option.any_some, content]

theorem IsRefused.readLines_cons (h : IsRefused source number line e) :
    readLines source number (line :: lines) = .error e := by
  cases h with
  | undecodable broken => rw [readLines, broken]
  | malformed decoded content refused =>
    simp only [readLines, decoded, content, refused]
    rfl

theorem IsRefused.eq {e' : RunError} (h : IsRefused source number line e)
    (h' : IsRefused source number line e') : e' = e := by
  have same : readLines source number [line] = .error e := h.readLines_cons
  rw [h'.readLines_cons] at same
  exact Except.error.inj same

theorem IsReadable.exists_readLines_cons (h : IsReadable line) : ∃ here, ∀ source number lines,
    readLines source number (line :: lines) =
      (readLines source (number + 1) lines).map (here ++ ·) := by
  rcases h with blank | ⟨unit, entry⟩
  · refine ⟨[], fun source number lines => (readLines_cons_of_isBlankLine blank).trans ?_⟩
    cases readLines source (number + 1) lines <;> rfl
  · exact ⟨[unit], fun source number lines => entry.readLines_cons⟩

/-- A line that can be read is not refused. -/
theorem IsReadable.not_isRefused (h : IsReadable line) : ¬IsRefused source number line e := by
  intro refused
  obtain ⟨here, step⟩ := h.exists_readLines_cons
  have eq := (step source number []).symm.trans refused.readLines_cons
  cases eq

/-! ## All lines -/

theorem exists_readLines_eq_ok_iff :
    (∃ units, readLines source number lines = .ok units) ↔ ∀ line ∈ lines, IsReadable line := by
  induction lines generalizing number with
  | nil => exact iff_of_true ⟨[], rfl⟩ nofun
  | cons line lines ih =>
    rw [List.forall_mem_cons]
    rcases isReadable_or_isRefused source number line with readable | ⟨e, refused⟩
    · obtain ⟨here, step⟩ := readable.exists_readLines_cons
      rw [step, exists_map_eq_ok_iff, ih, and_iff_right readable]
    · rw [refused.readLines_cons]
      exact iff_of_false (fun h => nomatch h) fun h => h.1.not_isRefused refused

/-- The entries are those on the lines with content, in order. -/
theorem readLines_eq_ok_iff : readLines source number lines = .ok units ↔
    List.Forall₂ IsEntry (lines.filter fun line => !isBlankLine line) units := by
  induction lines generalizing number units with
  | nil => exact ⟨fun h => Except.ok.inj h ▸ .nil, fun h => by cases h; rfl⟩
  | cons line lines ih =>
    rcases isReadable_or_isRefused source number line with (blank | ⟨unit, entry⟩) | ⟨e, refused⟩
    · rw [readLines_cons_of_isBlankLine blank, ih, List.filter_cons_of_neg (by simp [blank])]
    · rw [entry.readLines_cons, map_eq_ok_iff, List.filter_cons, entry.isBlankLine_eq_false,
        Bool.not_false, if_pos rfl, List.forall₂_cons_left_iff]
      simp only [ih]
      constructor
      · rintro ⟨units, all, rfl⟩
        exact ⟨unit, units, entry, all, rfl⟩
      · rintro ⟨unit', units, entry', all, rfl⟩
        exact ⟨units, all, by rw [entry.eq entry']⟩
    · rw [refused.readLines_cons, List.filter_cons, refused.isBlankLine_eq_false, Bool.not_false,
        if_pos rfl, List.forall₂_cons_left_iff]
      refine iff_of_false nofun ?_
      rintro ⟨unit, units, entry, -, -⟩
      exact IsReadable.not_isRefused (.inr ⟨unit, entry⟩) refused

/-- The first line that is refused decides, whatever stands behind it. -/
theorem readLines_eq_error_iff : readLines source number lines = .error e ↔
    ∃ before line after, lines = before ++ line :: after ∧ (∀ l ∈ before, IsReadable l) ∧
      IsRefused source (number + before.length) line e := by
  induction lines generalizing number with
  | nil =>
    refine iff_of_false nofun ?_
    rintro ⟨before, line, after, split, -⟩
    exact absurd split (by simp)
  | cons line lines ih =>
    rcases isReadable_or_isRefused source number line with readable | ⟨e', refused⟩
    · -- a line that is read, or passed over, only counts in the number
      obtain ⟨here, step⟩ := readable.exists_readLines_cons
      rw [step, map_eq_error_iff, ih]
      constructor
      · rintro ⟨before, l, after, rfl, fine, refused⟩
        refine ⟨line :: before, l, after, rfl, List.forall_mem_cons.2 ⟨readable, fine⟩, ?_⟩
        rwa [List.length_cons, Nat.add_comm before.length, ← Nat.add_assoc]
      · rintro ⟨before, l, after, split, fine, refused⟩
        rcases List.cons_eq_append_iff.1 split with ⟨rfl, same⟩ | ⟨rest, rfl, rfl⟩
        · obtain ⟨rfl, -⟩ := List.cons.inj same
          exact absurd refused readable.not_isRefused
        · refine ⟨rest, l, after, rfl, (List.forall_mem_cons.1 fine).2, ?_⟩
          rwa [List.length_cons, Nat.add_comm rest.length, ← Nat.add_assoc] at refused
    · rw [refused.readLines_cons]
      constructor
      · intro h
        exact ⟨[], line, lines, rfl, nofun, Except.error.inj h ▸ refused⟩
      · rintro ⟨before, l, after, split, fine, refused'⟩
        rcases List.cons_eq_append_iff.1 split with ⟨rfl, same⟩ | ⟨rest, rfl, -⟩
        · obtain ⟨rfl, rfl⟩ := List.cons.inj same
          rw [refused.eq refused']
        · exact absurd refused (fine line List.mem_cons_self).not_isRefused

/-- An empty line at the end adds nothing. -/
theorem readLines_concat_nil :
    readLines source number (lines ++ [[]]) = readLines source number lines := by
  induction lines generalizing number with
  | nil => exact readLines_cons_of_isBlankLine rfl
  | cons line lines ih =>
    rw [List.cons_append]
    rcases isReadable_or_isRefused source number line with readable | ⟨e, refused⟩
    · obtain ⟨here, step⟩ := readable.exists_readLines_cons
      rw [step, step, ih]
    · rw [refused.readLines_cons, refused.readLines_cons]

/-! ## Whole files -/

/-- A file is read exactly if each of its lines is blank or an entry, and its entries are then those
of its lines, in order. Otherwise the first line that is neither refuses it: what stands before this
line tells its number, and what stands behind it does not count. Neither the end of the last line nor
the way in which lines end makes a difference. -/
theorem ofBytes_lines (source : Text) (content : Bytes) :
    (∀ lines, AreLines content lines ↔ lines = byteLines content) ∧
      ((∃ d, ofBytes source content = .ok d) ↔ ∀ line ∈ byteLines content, IsReadable line) ∧
      (∀ d, ofBytes source content = .ok d ↔
        List.Forall₂ IsEntry ((byteLines content).filter fun line => !isBlankLine line) d.entries) ∧
      (∀ e, ofBytes source content = .error e ↔ ∃ front tail line rest, content = front ++ tail ∧
        IsWhole front ∧ IsFirstLine tail line rest ∧ (∀ l ∈ byteLines front, IsReadable l) ∧
          IsRefused source (1 + front.count 10) line e) ∧
      (content.getLast? ≠ some 13 → ofBytes source (content ++ [10]) = ofBytes source content) ∧
      (13 ∉ content → ofBytes source (withReturns content) = ofBytes source content) := by
  refine ⟨fun lines => areLines_iff, ?_, fun d => ?_, fun e => ?_, fun last => ?_, fun bare => ?_⟩
  · rw [ofBytes, exists_map_eq_ok_iff, exists_readLines_eq_ok_iff]
  · rw [ofBytes, map_eq_ok_iff, ← readLines_eq_ok_iff]
    exact ⟨fun ⟨units, h, e⟩ => e ▸ h, fun h => ⟨_, h, rfl⟩⟩
  · rw [ofBytes, map_eq_error_iff, readLines_eq_error_iff]
    constructor
    · rintro ⟨before, line, after, split, fine, refused⟩
      obtain ⟨front, tail, rest, rfl, whole, rfl, first⟩ := exists_of_byteLines_eq split
      rw [(byteLines_append whole []).2] at refused
      exact ⟨front, tail, line, rest, rfl, whole, first, fine, refused⟩
    · rintro ⟨front, tail, line, rest, rfl, whole, first, fine, refused⟩
      refine ⟨byteLines front, line, byteLines rest, ?_, fine, ?_⟩
      · rw [(byteLines_append whole tail).1, first.byteLines_eq]
      · rwa [(byteLines_append whole []).2]
  · rcases byteLines_concat last with same | more
    · rw [ofBytes, same, ofBytes]
    · rw [ofBytes, more, readLines_concat_nil, ofBytes]
  · rw [ofBytes, byteLines_withReturns bare, ofBytes]

/-- The third line is a brace that nothing closes. The blank lines before it count. -/
theorem ofBytes_lines_brace : ofBytes "in.jsonl".toList [10, 32, 10, 123, 10, 255] =
    .error (.badEntry "in.jsonl".toList 3 .malformed) := by
  obtain ⟨-, -, -, error, -⟩ := ofBytes_lines "in.jsonl".toList [10, 32, 10, 123, 10, 255]
  refine (error _).2 ⟨[10, 32, 10], [123, 10, 255], [123], [255], rfl, ?_, ?_, ?_, ?_⟩
  · rintro b ⟨⟩
    rfl
  · exact @IsFirstLine.lineFeed [123] [255] (by decide) (by decide)
  · intro l mem
    refine .inl ?_
    revert l
    decide
  · exact .malformed (Text.ofBytes?_toBytes ['\x7b']) rfl (by cbv)

end DocHarvest.Dataset
