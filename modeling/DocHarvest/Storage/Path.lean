import DocHarvest.Text.Bytes

/-!
# Paths

A path is a text whose names are parted by slashes.
-/

namespace DocHarvest.Path

/-- The directory that a piece of a path stays in. -/
def same : Text := ['.']

/-- The piece of a path that leads to the directory above. -/
def above : Text := ['.', '.']

/-- Whether a path leads from the root. -/
def isAbsolute (path : Text) : Bool := path.head? = some '/'

def pieces (path : Text) : List Text := Text.splitOn '/' path

/-- The names in a path: its pieces without those that lead nowhere. -/
def names (path : Text) : List Text :=
  (pieces path).filter fun piece => !piece.isEmpty && piece ≠ same

/-- Whether a path ends in the piece that stays in a directory. -/
def endsInSame (path : Text) : Bool :=
  ((pieces path).filter fun piece => !piece.isEmpty).getLast? = some same

/-- The most bytes of a path. -/
def longest : Nat := 4095

/-- Whether a path can lead anywhere. -/
def isUsable (path : Text) : Bool :=
  !path.isEmpty && path.byteLength ≤ longest && !path.contains '\u0000'

/-- The path of something inside a directory. -/
def join (dir name : Text) : Text :=
  if dir.isEmpty || dir.getLast? = some '/' then dir ++ name else dir ++ '/' :: name

/-- The path of a place inside a directory. -/
def joinAll (dir : Text) (names : List Text) : Text := names.foldl join dir

/-- The last name of a path. -/
def fileName? (path : Text) : Option Text :=
  match (names path).getLast? with
  | none => none
  | some name => if name = above then none else some name

/-- What follows the last dot of a name. A dot at the front of a name begins no extension. -/
def extension? (path : Text) : Option Text := do
  let name ← fileName? path
  let (tail, lead) ← Text.splitOnce '.' name.reverse
  if lead.isEmpty then none else some tail.reverse

end DocHarvest.Path
