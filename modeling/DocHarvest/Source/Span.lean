import DocHarvest.Text.Bytes

/-!
# Positions in a source text

A `Point` is a row and a column, both counted from zero; rows end at line feeds and columns count
bytes. A `Span` lies between two points. `SourceLines.resolve` gives the text of a span, which is
empty where the span does not fit the source.
-/

namespace DocHarvest

open Text

/-- A place in a source text: its row, and the bytes between the start of the row and it. -/
structure Point where
  row : Nat
  column : Nat
deriving DecidableEq

namespace Point

/-- Whether a point comes before another or is the same. -/
def le (p q : Point) : Bool := p.row < q.row || (p.row = q.row && p.column ≤ q.column)

/-- The point `n` bytes into a text that starts at `p`. -/
def advance (p : Point) : Text → Nat → Point
  | [], n => ⟨p.row, p.column + n⟩
  | c :: t, n =>
    if n < c.utf8Size then ⟨p.row, p.column + n⟩
    else if c = '\n' then advance ⟨p.row + 1, 0⟩ t (n - c.utf8Size)
    else advance ⟨p.row, p.column + c.utf8Size⟩ t (n - c.utf8Size)

def ofOffset (source : Text) (offset : Nat) : Point := advance ⟨0, 0⟩ source offset

end Point

/-- The part of a source text from one point up to another. -/
structure Span where
  start : Point
  stop : Point
deriving DecidableEq

/-- Whether a span begins and ends on one row. -/
def Span.isSingleLine (span : Span) : Bool := span.start.row = span.stop.row

/-- A source text, cut into lines. -/
structure SourceLines where
  lines : List Text

namespace SourceLines

/-- Cuts a text at its line feeds. A carriage return stays in its line. -/
def ofText (source : Text) : SourceLines := ⟨splitLines source⟩

/-- The number of lines; a line feed at the end is followed by an empty line. -/
def size (source : SourceLines) : Nat := source.lines.length

/-- Whether there are no lines. -/
def isEmpty (source : SourceLines) : Bool := source.lines.isEmpty

/-- The text of a span, if the span fits the source. -/
def resolve? (source : SourceLines) (span : Span) : Option Text :=
  if span.start.le span.stop then
    if span.isSingleLine then do
      let line ← source.lines[span.start.row]?
      byteSlice? line span.start.column span.stop.column
    else do
      let head ← source.lines[span.start.row]?
      let head ← byteDrop? head span.start.column
      let tail ← source.lines[span.stop.row]?
      let tail ← byteTake? tail span.stop.column
      let middle := (source.lines.take span.stop.row).drop (span.start.row + 1)
      return joinLines (head :: (middle ++ [tail]))
  else none

/-- The text of a span; empty if the span does not fit the source. -/
def resolve (source : SourceLines) (span : Span) : Text := (source.resolve? span).getD []

end SourceLines

end DocHarvest
