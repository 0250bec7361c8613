import DocHarvest.Proofs.Text.Lines
import DocHarvest.Source.Node
import DocHarvest.Text.Digits
import Mathlib.Data.List.Induction

/-!
# Spans are slices

`SourceLines.resolve?` works on lines; here it is compared with slices of the whole source by byte
offsets. `Point.at?` says what the point of an offset is: the line feeds before it, and the bytes
since the last of them.

* `Point.at?_eq_ofOffset` : at a character boundary `Point.ofOffset` finds that point
* `resolve?_eq_byteSlice?`, `exists_at?_of_resolve?` : a span resolves to the slice between two
  offsets whose points it has, and not at all without such offsets
* `resolveInWords?_eq` : with coordinates below `countLimit`, no sum leaves that range and no line
  is asked for that is not there
-/

namespace DocHarvest

open Text

/-! ## Points of offsets -/

/-- What a text has behind its last line feed. -/
def Text.lastLine (t : Text) : Text := (t.reverse.takeWhile (· ≠ '\n')).reverse

namespace Point

/-- The point right behind a leading part of a source. -/
def behind (lead : Text) : Point := ⟨lead.count '\n', byteLength (lastLine lead)⟩

/-- The point of an offset, if a character ends there. -/
def at? (source : Text) (offset : Nat) : Option Point := (byteTake? source offset).map behind

/-- The point one character further. -/
def next (p : Point) (c : Char) : Point :=
  if c = '\n' then ⟨p.row + 1, 0⟩ else ⟨p.row, p.column + c.utf8Size⟩

theorem behind_concat (lead : Text) (c : Char) : behind (lead ++ [c]) = (behind lead).next c := by
  by_cases h : c = '\n'
  · simp [behind, next, lastLine, h, byteLength]
  · simp [behind, next, lastLine, h, byteLength]

theorem foldl_next (lead : Text) : lead.foldl next ⟨0, 0⟩ = behind lead := by
  induction lead using List.reverseRecOn with
  | nil => rfl
  | append_singleton lead c ih =>
    rw [List.foldl_append, ih, List.foldl_cons, List.foldl_nil, behind_concat]

theorem advance_append (p : Point) (lead rest : Text) :
    p.advance (lead ++ rest) (byteLength lead) = lead.foldl next p := by
  induction lead generalizing p with
  | nil =>
    cases rest with
    | nil => rfl
    | cons c rest => simp [advance, byteLength, Char.utf8Size_pos]
  | cons c lead ih =>
    rw [List.cons_append, byteLength, advance, if_neg (by omega), Nat.add_sub_cancel_left,
      List.foldl_cons]
    by_cases h : c = '\n'
    · rw [if_pos h, ih, next, if_pos h]
    · rw [if_neg h, ih, next, if_neg h]

theorem at?_eq_some {source : Text} {offset : Nat} {p : Point} :
    at? source offset = some p ↔
      ∃ lead rest, source = lead ++ rest ∧ byteLength lead = offset ∧ behind lead = p := by
  simp only [at?, Option.map_eq_some_iff, byteTake?_eq_some]
  constructor
  · rintro ⟨lead, ⟨rest, h, hl⟩, hp⟩
    exact ⟨lead, rest, h, hl, hp⟩
  · rintro ⟨lead, rest, h, hl, hp⟩
    exact ⟨lead, ⟨rest, h, hl⟩, hp⟩

theorem at?_eq_ofOffset {source : Text} {offset : Nat} (h : (byteTake? source offset).isSome) :
    at? source offset = some (ofOffset source offset) := by
  obtain ⟨lead, hl⟩ := Option.isSome_iff_exists.1 h
  obtain ⟨rest, rfl, rfl⟩ := byteTake?_eq_some.1 hl
  rw [at?, hl, Option.map_some, ofOffset, advance_append, foldl_next]

end Point

/-! ## Points of joined lines -/

namespace Point

theorem foldl_next_of_not_mem {l : Text} (h : '\n' ∉ l) (p : Point) :
    l.foldl next p = ⟨p.row, p.column + byteLength l⟩ := by
  induction l generalizing p with
  | nil => rfl
  | cons c l ih =>
    simp only [List.mem_cons, not_or] at h
    rw [List.foldl_cons, ih h.2, next, if_neg (Ne.symm h.1), byteLength, Nat.add_assoc]

theorem foldl_next_joinLines {ls : List Text} {l : Text} (h : ∀ x ∈ ls ++ [l], '\n' ∉ x)
    (row : Nat) :
    (joinLines (ls ++ [l])).foldl next ⟨row, 0⟩ = ⟨row + ls.length, byteLength l⟩ := by
  induction ls generalizing row with
  | nil => simp [joinLines, join, foldl_next_of_not_mem (h l (by simp))]
  | cons first ls ih =>
    have e : joinLines (first :: ls ++ [l]) = first ++ '\n' :: joinLines (ls ++ [l]) := by
      cases ls <;> rfl
    rw [e, List.foldl_append, foldl_next_of_not_mem (h first (by simp)), List.foldl_cons, next,
      if_pos rfl, ih fun x hx => h x (List.mem_cons_of_mem _ hx), List.length_cons]
    simp only [Point.mk.injEq, and_true]
    omega

/-- The point behind lines: their number but one, and the length of the last. -/
theorem behind_joinLines {ls : List Text} {l : Text} (h : ∀ x ∈ ls ++ [l], '\n' ∉ x) :
    behind (joinLines (ls ++ [l])) = ⟨ls.length, byteLength l⟩ := by
  rw [← foldl_next, foldl_next_joinLines h, Nat.zero_add]

end Point

/-! ## Spans of lines -/

theorem exists_append_of_getElem? {α : Type} {l : List α} {i : Nat} {a : α} (h : l[i]? = some a) :
    ∃ as bs, l = as ++ a :: bs ∧ as.length = i := by
  obtain ⟨hi, rfl⟩ := List.getElem?_eq_some_iff.1 h
  refine ⟨l.take i, l.drop (i + 1), ?_, List.length_take_of_le (Nat.le_of_lt hi)⟩
  rw [← List.drop_eq_getElem_cons hi, List.take_append_drop]

namespace SourceLines

theorem lines_ofText_joinLines {ls : List Text} (ne : ls ≠ []) (h : ∀ l ∈ ls, '\n' ∉ l) :
    (ofText (joinLines ls)).lines = ls := splitLines_joinLines ne h

theorem resolve?_row (as bs : List Text) (line : Text) (c d : Nat) :
    resolve? ⟨as ++ line :: bs⟩ ⟨⟨as.length, c⟩, ⟨as.length, d⟩⟩ = byteSlice? line c d := by
  by_cases h : c ≤ d
  · simp [resolve?, Point.le, Span.isSingleLine, h]
  · simp [resolve?, Point.le, byteSlice?, h]

/-- A span over several rows takes the end of its first line and the front of its last one. -/
theorem resolve?_rows (as ms bs : List Text) (head tail : Text) (c d : Nat) :
    resolve? ⟨as ++ head :: (ms ++ tail :: bs)⟩ ⟨⟨as.length, c⟩, ⟨as.length + 1 + ms.length, d⟩⟩ =
      (byteDrop? head c).bind fun h =>
        (byteTake? tail d).map fun t => joinLines (h :: (ms ++ [t])) := by
  have le : as.length < as.length + 1 + ms.length := by omega
  have ne : as.length ≠ as.length + 1 + ms.length := by omega
  have at_tail : (as ++ head :: (ms ++ tail :: bs))[as.length + 1 + ms.length]? = some tail := by
    rw [List.getElem?_append_right (by omega), show as.length + 1 + ms.length - as.length =
      ms.length + 1 by omega, List.getElem?_cons_succ, List.getElem?_append_right (Nat.le_refl _)]
    simp
  have front : (as ++ head :: (ms ++ tail :: bs)).take (as.length + 1 + ms.length) =
      as ++ head :: ms := by
    rw [List.take_append, show as.length + 1 + ms.length - as.length = ms.length + 1 by omega,
      List.take_of_length_le (by omega)]
    simp
  have middle : (as ++ head :: ms).drop (as.length + 1) = ms := by
    rw [List.drop_append, List.drop_of_length_le (by omega)]
    simp
  have joined : ∀ h : Text, ((byteTake? tail d).bind fun t => some (joinLines (h :: (ms ++ [t])))) =
      (byteTake? tail d).map fun t => joinLines (h :: (ms ++ [t])) := fun _ => Option.map_eq_bind.symm
  simp [resolve?, Point.le, Span.isSingleLine, le, ne, at_tail, front, middle, joined]

/-- What a span that resolves takes from the lines. -/
theorem resolve?_cases {source : SourceLines} {span : Span} {piece : Text}
    (h : source.resolve? span = some piece) :
    (∃ as line bs, source.lines = as ++ line :: bs ∧ span.start.row = as.length ∧
      span.stop.row = as.length ∧
      byteSlice? line span.start.column span.stop.column = some piece) ∨
    (∃ as head ms tail bs x y, source.lines = as ++ head :: (ms ++ tail :: bs) ∧
      span.start.row = as.length ∧ span.stop.row = as.length + 1 + ms.length ∧
      byteDrop? head span.start.column = some x ∧ byteTake? tail span.stop.column = some y ∧
      piece = joinLines (x :: (ms ++ [y]))) := by
  unfold resolve? at h
  split at h
  · next le =>
    split at h
    · next single =>
      obtain ⟨line, hline, hpiece⟩ := Option.bind_eq_some_iff.1 h
      obtain ⟨as, bs, hl, hrow⟩ := exists_append_of_getElem? hline
      have same : span.start.row = span.stop.row := by simpa [Span.isSingleLine] using single
      exact .inl ⟨as, line, bs, hl, hrow.symm, by rw [← same, hrow], hpiece⟩
    · next several =>
      obtain ⟨head, hhead, h⟩ := Option.bind_eq_some_iff.1 h
      obtain ⟨x, hx, h⟩ := Option.bind_eq_some_iff.1 h
      obtain ⟨tail, htail, h⟩ := Option.bind_eq_some_iff.1 h
      obtain ⟨y, hy, h⟩ := Option.bind_eq_some_iff.1 h
      have lt : span.start.row < span.stop.row := by
        simp only [Span.isSingleLine, decide_eq_true_eq] at several
        simp only [Point.le, Bool.or_eq_true, decide_eq_true_eq, Bool.and_eq_true] at le
        omega
      obtain ⟨front, bs, hl, hstop⟩ := exists_append_of_getElem? htail
      rw [hl, List.getElem?_append_left (by omega)] at hhead
      obtain ⟨as, ms, rfl, hstart⟩ := exists_append_of_getElem? hhead
      refine .inr ⟨as, head, ms, tail, bs, x, y, by simpa using hl, hstart.symm, ?_, hx, hy, ?_⟩
      · rw [← hstop]
        simp only [List.length_append, List.length_cons]
        omega
      · have middle : (source.lines.take span.stop.row).drop (span.start.row + 1) = ms := by
          rw [hl, ← hstop, List.take_left', ← hstart, List.drop_append,
            List.drop_of_length_le (by omega)]
          · simp
          · rfl
        rw [middle] at h
        exact (Option.some.inj h).symm
  · exact absurd h nofun

/-- The span of a piece of a source resolves to the piece. -/
theorem resolve?_append (lead piece rest : Text) :
    (ofText (lead ++ piece ++ rest)).resolve? ⟨Point.behind lead, Point.behind (lead ++ piece)⟩ =
      some piece := by
  obtain ⟨as, a, rfl, has⟩ := exists_joinLines_concat lead
  obtain ⟨p, ps, rfl, hps⟩ := exists_joinLines_cons piece
  obtain ⟨r, rs, rfl, hrs⟩ := exists_joinLines_cons rest
  rcases List.eq_nil_or_concat ps with rfl | ⟨ms, t, rfl⟩
  · have ends : joinLines (as ++ [a]) ++ joinLines [p] = joinLines (as ++ [a ++ p]) :=
      joinLines_append as a p []
    have clean : ∀ l ∈ as ++ (a ++ p ++ r) :: rs, '\n' ∉ l := by grind
    rw [ends, joinLines_append, Point.behind_joinLines has, Point.behind_joinLines (by grind)]
    have := resolve?_row as rs (a ++ p ++ r) (byteLength a) (byteLength (a ++ p))
    rw [← lines_ofText_joinLines (by simp) clean] at this
    exact this.trans (byteSlice?_eq_some.2 ⟨a, r, rfl, rfl, rfl⟩)
  · rw [List.concat_eq_append] at hps ⊢
    have ends : joinLines (as ++ [a]) ++ joinLines (p :: (ms ++ [t])) =
        joinLines ((as ++ (a ++ p) :: ms) ++ [t]) := by
      rw [joinLines_append]
      simp
    have clean : ∀ l ∈ as ++ (a ++ p) :: (ms ++ (t ++ r) :: rs), '\n' ∉ l := by grind
    rw [ends, joinLines_append, Point.behind_joinLines has, Point.behind_joinLines (by grind)]
    have := resolve?_rows as ms rs (a ++ p) (t ++ r) (byteLength a) (byteLength t)
    rw [← lines_ofText_joinLines (by simp) clean, byteDrop?_eq_some.2 ⟨a, rfl, rfl⟩,
      byteTake?_eq_some.2 ⟨r, rfl, rfl⟩] at this
    simpa [Nat.add_assoc, Nat.add_comm 1] using this

/-- A span that resolves is that of a piece of the source. -/
theorem append_of_resolve? {source : Text} {span : Span} {piece : Text}
    (h : (ofText source).resolve? span = some piece) :
    ∃ lead rest, source = lead ++ piece ++ rest ∧
      span = ⟨Point.behind lead, Point.behind (lead ++ piece)⟩ := by
  have lines : joinLines (ofText source).lines = source := joinLines_splitLines source
  have clean : ∀ l ∈ (ofText source).lines, '\n' ∉ l := fun l hl => not_mem_of_mem_splitLines hl
  obtain ⟨⟨r, c⟩, ⟨r', c'⟩⟩ := span
  rcases resolve?_cases h with ⟨as, line, bs, hl, rfl, rfl, hs⟩ |
    ⟨as, head, ms, tail, bs, x, y, hl, rfl, rfl, hx, hy, rfl⟩
  · obtain ⟨a, b, rfl, rfl, rfl⟩ := byteSlice?_eq_some.1 hs
    rw [hl] at lines clean
    simp only [List.forall_mem_append, List.forall_mem_cons] at clean
    have ends : joinLines (as ++ [a]) ++ piece = joinLines (as ++ [a ++ piece]) :=
      joinLines_append as a piece []
    refine ⟨joinLines (as ++ [a]), joinLines (b :: bs), ?_, ?_⟩
    · rw [ends, joinLines_append, lines]
    · rw [ends, Point.behind_joinLines (by grind), Point.behind_joinLines (by grind)]
  · obtain ⟨a, rfl, rfl⟩ := byteDrop?_eq_some.1 hx
    obtain ⟨b, rfl, rfl⟩ := byteTake?_eq_some.1 hy
    rw [hl] at lines clean
    simp only [List.forall_mem_append, List.forall_mem_cons] at clean
    have ends : joinLines (as ++ [a]) ++ joinLines (x :: (ms ++ [y])) =
        joinLines ((as ++ (a ++ x) :: ms) ++ [y]) := by
      rw [joinLines_append]
      simp
    refine ⟨joinLines (as ++ [a]), joinLines (b :: bs), ?_, ?_⟩
    · rw [ends, joinLines_append, ← lines]
      simp
    · rw [ends, Point.behind_joinLines (by grind), Point.behind_joinLines (by grind)]
      simp [Nat.add_assoc, Nat.add_comm 1]

/-- Between character boundaries in order the span of their points resolves to the slice. -/
theorem resolve?_eq_byteSlice? {source : Text} {a b : Nat} {p q : Point} (le : a ≤ b)
    (hp : Point.at? source a = some p) (hq : Point.at? source b = some q) :
    ∃ piece, byteSlice? source a b = some piece ∧
      (ofText source).resolve? ⟨p, q⟩ = some piece := by
  obtain ⟨lead, hlead, rfl⟩ := Option.map_eq_some_iff.1 hp
  obtain ⟨upTo, hupTo, rfl⟩ := Option.map_eq_some_iff.1 hq
  obtain ⟨piece, rest, rfl, rfl, hs⟩ := byteSlice?_of_le hlead hupTo le
  exact ⟨piece, hs, resolve?_append lead piece rest⟩

theorem exists_at?_of_resolve? {source : Text} {span : Span} {piece : Text}
    (h : (ofText source).resolve? span = some piece) :
    ∃ a b, a ≤ b ∧ Point.at? source a = some span.start ∧ Point.at? source b = some span.stop := by
  obtain ⟨lead, rest, rfl, rfl⟩ := append_of_resolve? h
  refine ⟨byteLength lead, byteLength (lead ++ piece), by simp, ?_, ?_⟩
  · exact Point.at?_eq_some.2 ⟨lead, piece ++ rest, by simp, rfl, rfl⟩
  · exact Point.at?_eq_some.2 ⟨lead ++ piece, rest, rfl, rfl, rfl⟩

/-! ## Machine words -/

/-- The sum of two numbers, if it is below `countLimit`. -/
def addWords? (a b : Nat) : Option Nat := if a + b < countLimit then some (a + b) else none

/-- The lines from one up to another, if there are as many. -/
def between? (source : SourceLines) (start stop : Nat) : Option (List Text) :=
  if start ≤ stop && stop ≤ source.size then some ((source.lines.take stop).drop start) else none

/-- `resolve?` with sums that may not fit: the first row behind the head, and the number of pieces
that are joined. There is no outcome at all where a sum is too large. -/
def resolveInWords? (source : SourceLines) (span : Span) : Option (Option Text) :=
  if !span.start.le span.stop then some none
  else if span.isSingleLine then
    some ((source.lines[span.start.row]?).bind (byteSlice? · span.start.column span.stop.column))
  else
    match (source.lines[span.start.row]?).bind (byteDrop? · span.start.column) with
    | none => some none
    | some head => do
      let next ← addWords? span.start.row 1
      match source.between? next span.stop.row,
        (source.lines[span.stop.row]?).bind (byteTake? · span.stop.column) with
      | some middle, some tail =>
        let _ ← addWords? middle.length 2
        return some (joinLines (head :: (middle ++ [tail])))
      | _, _ => some none

theorem between?_of_le {source : SourceLines} {start stop : Nat} (le : start ≤ stop)
    (h : stop ≤ source.size) :
    source.between? start stop = some ((source.lines.take stop).drop start) := by
  simp [between?, le, h]

/-- With words for coordinates and for the number of lines, every sum fits. -/
theorem resolveInWords?_eq {source : SourceLines} {span : Span} (hs : source.size < countLimit)
    (hw : span.stop.row < countLimit) :
    source.resolveInWords? span = some (source.resolve? span) := by
  have fits : ∀ {a b : Nat}, a + b < countLimit → addWords? a b = some (a + b) := fun h => if_pos h
  unfold resolveInWords? resolve?
  cases hle : span.start.le span.stop with
  | false => rfl
  | true =>
    cases hsl : span.isSingleLine with
    | true => rfl
    | false =>
      have lt : span.start.row < span.stop.row := by
        simp only [Point.le, Bool.or_eq_true, decide_eq_true_eq, Bool.and_eq_true] at hle
        simp only [Span.isSingleLine, decide_eq_false_iff_not] at hsl
        omega
      have next : addWords? span.start.row 1 = some (span.start.row + 1) := fits (by omega)
      cases hhead : source.lines[span.start.row]? with
      | none => simp
      | some head =>
        cases hx : byteDrop? head span.start.column with
        | none => simp [hx]
        | some x =>
          cases htail : source.lines[span.stop.row]? with
          | none => simp [hx, next]
          | some tail =>
            have inside : span.stop.row < source.size := (List.getElem?_eq_some_iff.1 htail).1
            have middle := between?_of_le lt (Nat.le_of_lt inside)
            cases hy : byteTake? tail span.stop.column with
            | none => simp [hx, next, hy]
            | some y =>
              have count : min span.stop.row source.lines.length - (span.start.row + 1) + 2 <
                  countLimit := by
                have : source.lines.length < countLimit := hs
                have : span.stop.row < source.lines.length := inside
                omega
              simp [hx, next, hy, middle, fits count]

end SourceLines

/-! ## Spans and slices -/

open SourceLines

/-- A span resolves if there are character boundaries in order that have its points, and then to the
slice between them; otherwise its text is empty. On the way no sum leaves the range of a machine
word. The text of a node between character boundaries is the slice of its bytes. -/
theorem resolve_iff_byteSlice? (source : Text) (span : Span) :
    (((ofText source).resolve? span).isSome ↔
      ∃ a b, a ≤ b ∧ Point.at? source a = some span.start ∧ Point.at? source b = some span.stop) ∧
    (∀ a b, a ≤ b → Point.at? source a = some span.start → Point.at? source b = some span.stop →
      byteSlice? source a b = some ((ofText source).resolve span)) ∧
    ((¬∃ a b, a ≤ b ∧ Point.at? source a = some span.start ∧
        Point.at? source b = some span.stop) → (ofText source).resolve span = []) ∧
    ((ofText source).size < countLimit → span.stop.row < countLimit →
      (ofText source).resolveInWords? span = some ((ofText source).resolve? span)) ∧
    ∀ n : Node, n.label.startByte ≤ n.label.endByte →
      (byteTake? source n.label.startByte).isSome → (byteTake? source n.label.endByte).isSome →
      n.label.start = Point.ofOffset source n.label.startByte →
      n.label.stop = Point.ofOffset source n.label.endByte →
      byteSlice? source n.label.startByte n.label.endByte = some (n.text (ofText source)) := by
  have slice : ∀ (span : Span) (a b : Nat), a ≤ b → Point.at? source a = some span.start →
      Point.at? source b = some span.stop →
      byteSlice? source a b = some ((ofText source).resolve span) := by
    intro span a b le hp hq
    obtain ⟨piece, hs, hr⟩ := resolve?_eq_byteSlice? le hp hq
    rw [hs, resolve, hr, Option.getD_some]
  refine ⟨⟨fun h => ?_, fun ⟨a, b, le, hp, hq⟩ => ?_⟩, slice span, fun h => ?_,
    resolveInWords?_eq, fun n le ha hb hp hq => ?_⟩
  · obtain ⟨piece, hr⟩ := Option.isSome_iff_exists.1 h
    exact exists_at?_of_resolve? hr
  · obtain ⟨piece, -, hr⟩ := resolve?_eq_byteSlice? le hp hq
    exact Option.isSome_of_mem hr
  · cases hr : (ofText source).resolve? span with
    | none => rw [resolve, hr, Option.getD_none]
    | some piece => exact absurd (exists_at?_of_resolve? hr) h
  · refine slice n.span _ _ le ?_ ?_
    · rw [Point.at?_eq_ofOffset ha, ← hp, Node.span]
    · rw [Point.at?_eq_ofOffset hb, ← hq, Node.span]

/-- A slice from behind a two-byte letter over an empty line up to the last line. -/
theorem resolve_two_byte_letter :
    byteSlice? "é=\n\nab".toList 2 6 = some ((ofText "é=\n\nab".toList).resolve ⟨⟨0, 2⟩, ⟨2, 1⟩⟩) ∧
    (ofText "é=\n\nab".toList).resolveInWords? ⟨⟨0, 2⟩, ⟨2, 1⟩⟩ = some (some "=\n\na".toList) := by
  obtain ⟨-, slice, -, words, -⟩ := resolve_iff_byteSlice? "é=\n\nab".toList ⟨⟨0, 2⟩, ⟨2, 1⟩⟩
  refine ⟨slice 2 6 (by decide) (by decide) (by decide), ?_⟩
  rw [words (by decide) (by decide)]
  decide

end DocHarvest
