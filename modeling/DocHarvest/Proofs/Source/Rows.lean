import DocHarvest.Proofs.Source.Within
import DocHarvest.Proofs.Text.Utf8
import Mathlib.Data.List.TakeWhile

/-!
# Rows and the lines of nodes

The row of an offset is the number of line feeds before it (`Point.row_ofOffset`), so two points of a
source are as many rows apart as there are line feeds between them (`newlinesBetween_eq`), and nodes
on rows next to each other have one line feed at most between them (`newlinesBetween_le_one`).

`Node.startsLine` says that only white space stands before a node on its line; `Node.opensLine` says
the same but for a byte order mark that the source may begin with. A node opens its line if the
sibling before it ends on an earlier row and only white space is left between them on that line
(`Node.opensLine_of_gap`).
-/

namespace DocHarvest

open Text

/-! ## Rows -/

/-- The number of line feeds from one offset up to another. -/
def Text.newlinesBetween (source : Text) (start stop : Nat) : Nat :=
  (((toBytes source).take stop).drop start).count 10

theorem Point.row_advance (p : Point) (t : Text) (n : Nat) :
    (p.advance t n).row = p.row + ((toBytes t).take n).count 10 := by
  induction t generalizing p n with
  | nil => simp [advance, toBytes]
  | cons c t ih =>
    have size := String.length_utf8EncodeChar c
    rw [toBytes_cons]
    unfold advance
    split
    · next inside =>
      -- the offset cuts the character, or stands before it
      have none : (10 : UInt8) ∉ (String.utf8EncodeChar c ++ toBytes t).take n := by
        rw [List.take_append_of_le_length (by omega)]
        intro mem
        obtain rfl := mem_utf8EncodeChar.1 (List.mem_of_mem_take mem)
        have zero : n = 0 := Nat.lt_one_iff.1 inside
        simp [zero] at mem
      rw [List.count_eq_zero.2 none, Nat.add_zero]
    · next behind =>
      rw [List.take_append, List.take_of_length_le (by omega), List.count_append, size]
      split
      · next newline =>
        subst newline
        rw [ih, utf8EncodeChar_newline]
        simp [Nat.add_assoc]
      · next other =>
        rw [ih, List.count_eq_zero.2 fun mem => other (mem_utf8EncodeChar.1 mem), Nat.zero_add]

theorem Point.row_ofOffset (source : Text) (n : Nat) :
    (ofOffset source n).row = ((toBytes source).take n).count 10 := by
  rw [ofOffset, row_advance, Nat.zero_add]

/-- The row behind a leading part of a source. -/
theorem Point.row_ofOffset_append (lead rest : Text) :
    (ofOffset (lead ++ rest) (byteLength lead)).row = lead.count '\n' := by
  rw [row_ofOffset, toBytes_append, ← length_toBytes, List.take_left, count_toBytes]

theorem Text.newlinesBetween_eq (source : Text) {start stop : Nat} (le : start ≤ stop) :
    newlinesBetween source start stop =
      (Point.ofOffset source stop).row - (Point.ofOffset source start).row := by
  have cut := List.take_append_drop start ((toBytes source).take stop)
  rw [List.take_take, Nat.min_eq_left le] at cut
  rw [Point.row_ofOffset, Point.row_ofOffset, newlinesBetween]
  conv_rhs => rw [← cut, List.count_append, Nat.add_sub_cancel_left]

/-! ## Nodes on rows next to each other -/

namespace Node.IsPlaced

variable {source : Text} {root a b : Node}

/-- A node that starts on a row below another one starts behind it. -/
theorem endByte_le_of_row_lt (placed : root.IsPlaced source) (ha : a.IsIn root) (hb : b.IsIn root)
    (below : a.label.stop.row < b.label.start.row) : a.label.endByte ≤ b.label.startByte := by
  rw [placed.stop ha, placed.start hb] at below
  by_contra overlap
  have le := Point.advance_mono ⟨0, 0⟩ source (Nat.le_of_not_ge overlap)
  rw [Point.le_iff] at le
  simp only [Point.ofOffset] at below
  omega

/-- Between nodes on the same row or on rows next to each other there is at most one line feed. -/
theorem newlinesBetween_le_one (placed : root.IsPlaced source) (ha : a.IsIn root)
    (hb : b.IsIn root) (apart : a.label.endByte ≤ b.label.startByte)
    (close : b.label.start.row ≤ a.label.stop.row + 1) :
    newlinesBetween source a.label.endByte b.label.startByte ≤ 1 := by
  rw [newlinesBetween_eq source apart, ← placed.start hb, ← placed.stop ha]
  omega

end Node.IsPlaced

/-! ## Lines before nodes -/

/-- The text without a byte order mark at its start. -/
def Text.dropMark : Text → Text
  | [] => []
  | c :: t => if c = '\ufeff' then t else c :: t

theorem Text.lastLine_append {b : Text} (h : '\n' ∈ b) (a : Text) :
    lastLine (a ++ b) = lastLine b := by
  unfold lastLine
  rw [List.reverse_append, List.takeWhile_append, if_neg]
  intro all
  have whole := (List.takeWhile_prefix _).eq_of_length all
  have := List.takeWhile_eq_self_iff.1 whole '\n' (List.mem_reverse.2 h)
  simp at this

theorem Text.lastLine_of_not_mem {t : Text} (h : '\n' ∉ t) : lastLine t = t := by
  have whole : t.reverse.takeWhile (· ≠ '\n') = t.reverse := by
    rw [List.takeWhile_eq_self_iff]
    intro c hc
    have ne : c ≠ '\n' := fun same => h (same ▸ List.mem_reverse.1 hc)
    simpa using ne
  rw [lastLine, whole, List.reverse_reverse]

theorem Text.lastLine_dropMark {t : Text} (h : '\n' ∈ t) : lastLine (dropMark t) = lastLine t := by
  cases t with
  | nil => rfl
  | cons c t =>
    by_cases mark : c = '\ufeff'
    · subst mark
      have below : '\n' ∈ t := by simpa using h
      rw [dropMark, if_pos rfl]
      exact (lastLine_append below ['\ufeff']).symm
    · rw [dropMark, if_neg mark]

namespace Node

/-- What stands before the node on the line on which it starts. -/
def lineBefore? (source : Text) (n : Node) : Option Text :=
  (byteTake? source n.label.startByte).map lastLine

/-- Whether only white space stands before the node on its line. -/
def startsLine (source : Text) (n : Node) : Bool := (n.lineBefore? source).any isBlankText

/-- Whether only white space stands before the node on its line, apart from a byte order mark that
the source begins with. -/
def opensLine (source : Text) (n : Node) : Bool :=
  (byteTake? source n.label.startByte).any fun lead => isBlankText (lastLine (dropMark lead))

/-- Whether the line of the node begins with a byte order mark. -/
def isBehindMark (source : Text) (n : Node) : Bool :=
  (n.lineBefore? source).any fun line => line.head? = some '\ufeff'

theorem startsLine_iff {source : Text} {n : Node} :
    n.startsLine source = true ↔ n.opensLine source = true ∧ n.isBehindMark source = false := by
  unfold startsLine opensLine isBehindMark lineBefore?
  cases byteTake? source n.label.startByte with
  | none => simp
  | some lead =>
    simp only [Option.map_some, Option.any_some]
    -- white space has no mark in it
    have unmarked : ∀ {line : Text}, isBlankText line = true → line.head? ≠ some '\ufeff' := by
      rintro (_ | ⟨c, line⟩) blank head
      · exact absurd head nofun
      · obtain rfl := Option.some.inj head
        exact absurd (List.all_eq_true.1 blank _ List.mem_cons_self) (by decide)
    by_cases newline : '\n' ∈ lead
    · rw [lastLine_dropMark newline]
      simp only [decide_eq_false_iff_not]
      exact ⟨fun blank => ⟨blank, unmarked blank⟩, And.left⟩
    · rw [lastLine_of_not_mem newline]
      cases lead with
      | nil => simp [dropMark, lastLine, isBlankText]
      | cons c lead =>
        by_cases mark : c = '\ufeff'
        · subst mark
          simp [isBlankText, isBlank]
        · rw [dropMark, if_neg mark, lastLine_of_not_mem newline]
          simp [mark]

/-- A node that opens its line behind a byte order mark is on the first row. -/
theorem row_eq_zero_of_isBehindMark {source : Text} {n : Node}
    (start : n.label.start = Point.ofOffset source n.label.startByte)
    (opens : n.opensLine source = true) (marked : n.isBehindMark source = true) :
    n.label.start.row = 0 := by
  obtain ⟨lead, taken, blank⟩ := (Option.any_eq_true _ _).1 opens
  have first : '\n' ∉ lead := by
    intro newline
    rw [lastLine_dropMark newline] at blank
    have starts : n.startsLine source = true := by simp [startsLine, lineBefore?, taken, blank]
    exact absurd (marked.symm.trans (startsLine_iff.1 starts).2) nofun
  obtain ⟨rest, rfl, size⟩ := byteTake?_eq_some.1 taken
  rw [start, ← size, Point.row_ofOffset_append, List.count_eq_zero.2 first]

/-- A node opens its line if the sibling before it ends on an earlier row, and what is left between
them on that line is white space. -/
theorem opensLine_of_gap {source gap : Text} {previous n : Node}
    (stop : previous.label.stop = Point.ofOffset source previous.label.endByte)
    (start : n.label.start = Point.ofOffset source n.label.startByte)
    (between : byteSlice? source previous.label.endByte n.label.startByte = some gap)
    (blank : isBlankText (lastLine gap) = true)
    (above : previous.label.stop.row < n.label.start.row) : n.opensLine source = true := by
  obtain ⟨lead, rest, rfl, hlead, hgap⟩ := byteSlice?_eq_some.1 between
  have taken : byteTake? (lead ++ gap ++ rest) n.label.startByte = some (lead ++ gap) :=
    byteTake?_eq_some.2 ⟨rest, rfl, hgap⟩
  have newline : '\n' ∈ gap := by
    rw [stop, start, ← hlead, ← hgap, Point.row_ofOffset_append, List.append_assoc,
      Point.row_ofOffset_append, List.count_append] at above
    exact List.count_pos_iff.1 (by omega)
  rw [opensLine, taken, Option.any_some, lastLine_dropMark (List.mem_append_right _ newline),
    lastLine_append newline]
  exact blank

end Node

end DocHarvest
