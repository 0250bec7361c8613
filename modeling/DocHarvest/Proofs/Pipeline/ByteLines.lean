import DocHarvest.Pipeline.Dataset
import Mathlib.Data.List.Basic

/-!
# Lines of bytes

What the lines of a file are, said without a scan: a first line with what ends it, and then the lines
of the rest (`Dataset.IsFirstLine`, `Dataset.AreLines`). Every file has such lines, and they are the
ones that `Dataset.byteLines` gives (`Dataset.areLines_iff`). Between two of them the file falls into
two parts with lines of their own (`Dataset.byteLines_append`, `Dataset.exists_of_byteLines_eq`).
-/

namespace DocHarvest.Dataset

variable {content front line rest first behind : Bytes} {lines before after : List Bytes}

/-- A file that is not empty, its first line, and what stands behind the end of this line: a line
feed, with the carriage return in front of it if there is one. A line that ends with the file has no
end of its own. -/
inductive IsFirstLine : Bytes → Bytes → Bytes → Prop
  | last {line : Bytes} (content : line ≠ []) (newline : 10 ∉ line) : IsFirstLine line line []
  | lineFeed {line rest : Bytes} (newline : 10 ∉ line) (last : line.getLast? ≠ some 13) :
    IsFirstLine (line ++ 10 :: rest) line rest
  | returnFeed {line rest : Bytes} (newline : 10 ∉ line) :
    IsFirstLine (line ++ 13 :: 10 :: rest) line rest

/-- The lines of a file, in order. -/
inductive AreLines : Bytes → List Bytes → Prop
  | nil : AreLines [] []
  | cons {content line rest : Bytes} {lines : List Bytes} (head : IsFirstLine content line rest)
    (tail : AreLines rest lines) : AreLines content (line :: lines)

/-! ## The first line -/

/-- What stands in front of a line belongs to it, unless it ends in the carriage return of an end that
begins there. -/
theorem byteLines_append_cons {next : UInt8} (newline : 10 ∉ line)
    (apart : next = 10 → line.getLast? ≠ some 13)
    (below : byteLines (next :: behind) = first :: lines) :
    byteLines (line ++ next :: behind) = (line ++ first) :: lines := by
  induction line with
  | nil => exact below
  | cons b line ih =>
    simp only [List.mem_cons, not_or] at newline
    have tail : byteLines (line ++ next :: behind) = (line ++ first) :: lines := by
      refine ih newline.2 fun same => ?_
      cases line with
      | nil => simp
      | cons c line => simpa using apart same
    -- `b` is no carriage return with its line feed behind it
    obtain ⟨c, more, split, inside⟩ : ∃ c more, line ++ next :: behind = c :: more ∧
        ¬(b = 13 ∧ c = 10) := by
      cases line with
      | nil => exact ⟨next, behind, rfl, fun ⟨hb, hc⟩ => apart hc (by rw [hb]; rfl)⟩
      | cons c line => exact ⟨c, _, rfl, fun ⟨_, hc⟩ => newline.2 (hc ▸ List.mem_cons_self)⟩
    rw [split] at tail
    rw [List.cons_append, split, byteLines.eq_def]
    dsimp only
    rw [if_neg (Ne.symm newline.1), tail]
    simp [inside]

theorem IsFirstLine.byteLines_eq (h : IsFirstLine content line rest) :
    byteLines content = line :: byteLines rest := by
  cases h with
  | lineFeed newline last =>
    rw [byteLines_append_cons newline (fun _ => last) rfl, List.append_nil]
  | returnFeed newline =>
    rw [byteLines_append_cons newline (fun same => absurd same (by decide)) rfl, List.append_nil]
  | last ne newline =>
    obtain ⟨init, b, rfl⟩ := List.eq_nil_or_concat' content |>.resolve_left ne
    simp only [List.mem_append, List.mem_singleton, not_or] at newline
    refine byteLines_append_cons newline.1 (fun same => absurd same.symm newline.2) ?_
    simp [byteLines, Ne.symm newline.2]

theorem IsFirstLine.length_lt (h : IsFirstLine content line rest) :
    rest.length < content.length := by
  cases h with
  | last ne _ => exact List.length_pos_iff.2 ne
  | lineFeed | returnFeed =>
    rw [List.length_append]
    simp only [List.length_cons]
    omega

theorem exists_isFirstLine (ne : content ≠ []) : ∃ line rest, IsFirstLine content line rest := by
  by_cases newline : 10 ∈ content
  · obtain ⟨line, rest, rfl, free⟩ := List.eq_append_cons_of_mem newline
    by_cases last : line.getLast? = some 13
    · obtain ⟨line, rfl⟩ := List.getLast?_eq_some_iff.1 last
      rw [List.append_assoc]
      exact ⟨line, rest, .returnFeed fun mem => free (List.mem_append_left _ mem)⟩
    · exact ⟨line, rest, .lineFeed free last⟩
  · exact ⟨content, [], .last ne newline⟩

/-! ## All lines -/

/-- What holds of the empty file, and of a file if it holds of what is behind the first line, holds of
every file. -/
theorem lines_induction {motive : Bytes → Prop} (nil : motive [])
    (cons : ∀ content line rest, IsFirstLine content line rest → motive rest → motive content)
    (content : Bytes) : motive content := by
  induction content using WellFounded.induction (measure List.length).wf with
  | _ content ih =>
    by_cases ne : content = []
    · exact ne ▸ nil
    · obtain ⟨line, rest, h⟩ := exists_isFirstLine ne
      exact cons content line rest h (ih rest h.length_lt)

theorem areLines_iff : AreLines content lines ↔ lines = byteLines content := by
  constructor
  · intro h
    induction h with
    | nil => rfl
    | cons head _ ih => rw [head.byteLines_eq, ih]
  · rintro rfl
    induction content using lines_induction with
    | nil => exact .nil
    | cons content line rest h ih => exact h.byteLines_eq ▸ .cons h ih

/-! ## Parts of a file -/

/-- Whether all lines of a file have an end. -/
def IsWhole (content : Bytes) : Prop := ∀ b ∈ content.getLast?, b = 10

theorem IsWhole.append (h : IsWhole front) (h' : IsWhole rest) : IsWhole (front ++ rest) := by
  intro b mem
  rw [List.getLast?_append, Option.mem_def, Option.or_eq_some_iff] at mem
  rcases mem with mem | ⟨-, mem⟩
  · exact h' b mem
  · exact h b mem

theorem IsWhole.of_append (h : IsWhole (front ++ rest)) : IsWhole rest := by
  intro b mem
  refine h b ?_
  rw [List.getLast?_append, mem]
  rfl

/-- The first line is also the last one and has no end, or it is a part of its own, and stays the
first line whatever follows. -/
theorem IsFirstLine.eq_or_exists_front (h : IsFirstLine content line rest) :
    (content = line ∧ rest = [] ∧ line ≠ [] ∧ 10 ∉ line) ∨
      ∃ front, content = front ++ rest ∧ IsWhole front ∧ front.count 10 = 1 ∧
        ∀ tail, IsFirstLine (front ++ tail) line tail := by
  cases h with
  | last ne newline => exact .inl ⟨rfl, rfl, ne, newline⟩
  | lineFeed newline last =>
    refine .inr ⟨line ++ [10], List.append_cons .., by simp [IsWhole], ?_, fun tail => ?_⟩
    · simp [List.count_eq_zero.2 newline]
    · rw [List.append_assoc]
      exact .lineFeed newline last
  | returnFeed newline =>
    refine .inr ⟨line ++ [13, 10], by simp, by simp [IsWhole], ?_, fun tail => ?_⟩
    · simp [List.count_eq_zero.2 newline]
    · rw [List.append_assoc]
      exact .returnFeed newline

theorem IsFirstLine.suffix (h : IsFirstLine content line rest) : rest <:+ content := by
  rcases h.eq_or_exists_front with ⟨-, rfl, -⟩ | ⟨front, rfl, -⟩
  · exact List.nil_suffix
  · exact List.suffix_append ..

/-- Behind lines that have an end a file goes on with a line of its own, and each of them has one line
feed. -/
theorem byteLines_append (whole : IsWhole front) (tail : Bytes) :
    byteLines (front ++ tail) = byteLines front ++ byteLines tail ∧
      (byteLines front).length = front.count 10 := by
  induction front using lines_induction with
  | nil => exact ⟨rfl, rfl⟩
  | cons content line rest h ih =>
    rcases h.eq_or_exists_front with ⟨rfl, -, ne, newline⟩ | ⟨front, rfl, -, one, first⟩
    · refine absurd (List.getLast_mem ne) ?_
      rwa [whole _ (List.getLast_mem_getLast? ne)]
    · obtain ⟨lines, length⟩ := ih whole.of_append
      rw [List.append_assoc, (first _).byteLines_eq, h.byteLines_eq, lines, List.length_cons, length,
        List.count_append, one, Nat.add_comm]
      exact ⟨rfl, rfl⟩

/-- In front of each line stands a part of the file with the lines before it. -/
theorem exists_of_byteLines_eq (h : byteLines content = before ++ line :: after) :
    ∃ front tail rest, content = front ++ tail ∧ IsWhole front ∧ byteLines front = before ∧
      IsFirstLine tail line rest := by
  induction content using lines_induction generalizing before with
  | nil => exact absurd h.symm (List.append_ne_nil_of_right_ne_nil _ (List.cons_ne_nil _ _))
  | cons content first rest head ih =>
    rw [head.byteLines_eq] at h
    rcases List.cons_eq_append_iff.1 h with ⟨rfl, same⟩ | ⟨before, rfl, below⟩
    · obtain ⟨rfl, -⟩ := List.cons.inj same
      exact ⟨[], content, rest, rfl, nofun, rfl, head⟩
    · obtain ⟨front, tail, rest', rfl, whole, lines, last⟩ := ih below
      rcases head.eq_or_exists_front with ⟨-, none, -⟩ | ⟨lead, rfl, whole', -, first⟩
      · rw [none] at below
        exact absurd below.symm (List.append_ne_nil_of_right_ne_nil _ (List.cons_ne_nil _ _))
      · -- the first line has an end, since a line follows it
        refine ⟨lead ++ front, tail, rest', (List.append_assoc ..).symm, whole'.append whole, ?_,
          last⟩
        rw [(first front).byteLines_eq, lines]

/-! ## Other line ends -/

/-- The same lines with a carriage return in front of every line feed. -/
def withReturns (content : Bytes) : Bytes := content.flatMap fun b => if b = 10 then [13, 10] else [b]

theorem withReturns_of_not_mem (newline : 10 ∉ line) : withReturns line = line := by
  have same : ∀ b ∈ line, (if b = 10 then [13, 10] else [b]) = [b] := fun b mem =>
    if_neg (ne_of_mem_of_not_mem mem newline)
  rw [withReturns, List.flatMap_congr same, List.flatMap_singleton']

theorem IsFirstLine.withReturns (h : IsFirstLine content line rest) (bare : 13 ∉ content) :
    IsFirstLine (withReturns content) line (withReturns rest) := by
  cases h with
  | last ne newline =>
    rw [withReturns_of_not_mem newline]
    exact .last ne newline
  | lineFeed newline _ =>
    have split : Dataset.withReturns (line ++ 10 :: rest) =
        line ++ 13 :: 10 :: Dataset.withReturns rest := by
      rw [Dataset.withReturns, List.flatMap_append, ← Dataset.withReturns,
        withReturns_of_not_mem newline]
      rfl
    rw [split]
    exact .returnFeed newline
  | returnFeed => simp at bare

theorem byteLines_withReturns (bare : 13 ∉ content) :
    byteLines (withReturns content) = byteLines content := by
  induction content using lines_induction with
  | nil => rfl
  | cons content line rest h ih =>
    rw [(h.withReturns bare).byteLines_eq, h.byteLines_eq, ih fun mem => bare (h.suffix.mem mem)]

/-- A line feed more ends a last line without an end, or is an empty line. -/
theorem byteLines_concat (last : content.getLast? ≠ some 13) :
    byteLines (content ++ [10]) = byteLines content ∨
      byteLines (content ++ [10]) = byteLines content ++ [[]] := by
  induction content using lines_induction with
  | nil => exact .inr rfl
  | cons content line rest h ih =>
    rcases h.eq_or_exists_front with ⟨rfl, rfl, -, newline⟩ | ⟨front, rfl, -, -, first⟩
    · exact .inl ((IsFirstLine.lineFeed newline last).byteLines_eq.trans h.byteLines_eq.symm)
    · have last' : rest.getLast? ≠ some 13 := fun same => by
        rw [List.getLast?_append, same] at last
        exact last rfl
      rw [List.append_assoc, (first _).byteLines_eq, h.byteLines_eq]
      exact (ih last').imp (congrArg _) (congrArg _)

end DocHarvest.Dataset
