import DocHarvest.Text.Bytes

/-!
# Common indentation

A comment that stands inside code is indented with it. `dedent` takes the indentation off that all
lines but the first have in common, and drops blank lines at both ends. Depth is counted in bytes.
-/

namespace DocHarvest.Doc

open Text

/-- The depth of a line: the bytes of white space in front of it. -/
def depth (line : Text) : Nat := byteLength (line.takeWhile isBlank)

/-- The least depth of the lines that are not blank; zero if all are. -/
def commonDepth (ls : List Text) : Nat :=
  (((ls.filter (!isBlankText ·)).map depth).min?).getD 0

/-- A line without its first `n` bytes and without trailing white space. Where no character ends
there, all its leading white space goes. -/
def outdentLine (n : Nat) (line : Text) : Text :=
  trimEnd ((byteDrop? line n).getD (trimStart line))

/-- The lines without empty ones at either end. -/
def dropEmptyEnds (ls : List Text) : List Text :=
  ((ls.dropWhile List.isEmpty).reverse.dropWhile List.isEmpty).reverse

/-- The lines without the indentation that all but the first have in common. -/
def dedentLines : List Text → List Text
  | [] => []
  | first :: ls => dropEmptyEnds (trim first :: ls.map (outdentLine (commonDepth ls)))

/-- The text without the indentation that all its lines but the first have in common. -/
def dedent (t : Text) : Text := joinLines (dedentLines (splitLines t))

end DocHarvest.Doc
