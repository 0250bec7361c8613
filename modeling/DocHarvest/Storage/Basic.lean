import DocHarvest.Storage.Path
import DocHarvest.Storage.Tree

/-!
# Storage

A `Storage` is a tree of files with a working directory. Paths are followed piece by piece; each piece
must start from a directory, so that nothing is found behind a file or a missing directory.
-/

namespace DocHarvest

/-- A tree of files, and the place of the working directory. -/
structure Storage where
  root : FileTree
  workingDirectory : List Text := []

namespace Storage

/-- The place from which a path starts. -/
def start (s : Storage) (path : Text) : List Text :=
  if Path.isAbsolute path then [] else s.workingDirectory

def isDirectoryAt (root : FileTree) (place : List Text) : Bool :=
  (root.at? place).any FileTree.isDirectory

/-- The place that one piece of a path leads to. -/
def follow (place : List Text) (piece : Text) : List Text :=
  if piece.isEmpty || piece = Path.same then place
  else if piece = Path.above then place.dropLast
  else place ++ [piece]

/-- The place that the pieces of a path lead to, as long as every one of them starts from a
directory. -/
def followAll? (root : FileTree) (place : List Text) : List Text → Option (List Text)
  | [] => some place
  | piece :: pieces =>
    if isDirectoryAt root place then followAll? root (follow place piece) pieces else none

def find? (s : Storage) (path : Text) : Option FileTree :=
  if Path.isUsable path then
    match followAll? s.root (s.start path) (Path.pieces path) with
    | some place => s.root.at? place
    | none => none
  else none

def isDirectory (s : Storage) (path : Text) : Bool := (s.find? path).any FileTree.isDirectory

def readFile? (s : Storage) (path : Text) : Option Bytes :=
  match s.find? path with
  | some (.file content) => some content
  | _ => none

/-- Whether a text can be the name of a new entry. -/
def isName (name : Text) : Bool := name.byteLength ≤ 255 && !name.contains '\u0000'

/-- Makes the directories that the pieces of a path lead through, as far as possible, and says whether
all of them are there. -/
def makeAlong (root : FileTree) (place : List Text) : List Text → FileTree × Bool
  | [] => (root, isDirectoryAt root place)
  | piece :: pieces =>
    if isDirectoryAt root place && isName piece then
      let next := follow place piece
      match root.at? next with
      | some _ => makeAlong root next pieces
      | none => makeAlong (root.put next .empty) next pieces
    else (root, false)

/-- Makes the directories of a path, as far as possible, and says whether it leads to a directory then.
For the empty path there is nothing to make. A path that ends in `.` must lead to a directory that is
there already: only the directories around it are made. -/
def makeDirectories (s : Storage) (path : Text) : Storage × Bool :=
  if path.isEmpty then (s, true)
  else if Path.isUsable path then
    let pieces := if Path.endsInSame path then (Path.names path).dropLast else Path.pieces path
    let (root, _) := makeAlong s.root (s.start path) pieces
    let s := { s with root }
    (s, s.isDirectory path)
  else (s, false)

/-- Writes a file, in the place of one that is there. The directory must be there, and the name must
not be that of a directory. -/
def writeFile? (s : Storage) (path : Text) (content : Bytes) : Option Storage := do
  let pieces := Path.pieces path
  let place ← followAll? s.root (s.start path) pieces.dropLast
  let name ← pieces.getLast?
  if Path.isUsable path && isDirectoryAt s.root place && isName name &&
      !isDirectoryAt s.root (follow place name) then
    some { s with root := s.root.put (follow place name) (.file content) }
  else none

/-- The storage with a tree under a path. The directories that the path leads through are made. -/
def graft (s : Storage) (path : Text) (tree : FileTree) : Storage :=
  let pieces := Path.pieces path
  let (root, _) := makeAlong s.root (s.start path) pieces.dropLast
  match followAll? root (s.start path) pieces.dropLast, pieces.getLast? with
  | some place, some name => { s with root := root.put (follow place name) tree }
  | _, _ => s

/-- The files of a storage that are not the same in an earlier one, each with its place. -/
def changedFiles (before after : Storage) : List (List Text × Bytes) :=
  after.root.sortedFiles.filter fun (place, content) =>
    match before.root.at? place with
    | some (.file old) => old ≠ content
    | _ => true

/-- The names in a directory with what they stand for, in order. -/
def list? (s : Storage) (path : Text) : Option (List (Text × FileTree)) :=
  match s.find? path with
  | some (.directory entries) => some (entries.mergeSort fun a b => Text.isAtMost a.1 b.1)
  | _ => none

end Storage

end DocHarvest
