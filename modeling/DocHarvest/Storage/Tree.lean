import DocHarvest.Record.OrderedMap
import DocHarvest.Text.Bytes

/-!
# Trees of files

A `FileTree` is a file or a directory with named entries. A place in a tree is the list of names that
lead to it.

* `at?_put` : what was put at a place is found there
-/

namespace DocHarvest

/-- A file, or a directory. -/
inductive FileTree where
  | file (content : Bytes)
  | directory (entries : List (Text × FileTree))

namespace FileTree

/-- The directory without entries. -/
def empty : FileTree := directory []

/-- The entry of that name in a directory. -/
def named? (name : Text) : FileTree → Option FileTree
  | file _ => none
  | directory entries => OrderedMap.lookup name entries

/-- What is at a place. -/
def at? : FileTree → List Text → Option FileTree
  | tree, [] => some tree
  | tree, name :: names =>
    match tree.named? name with
    | some below => at? below names
    | none => none

def isDirectory : FileTree → Bool
  | file _ => false
  | directory _ => true

/-- Gives a directory an entry; a file stays as it is. -/
def setEntry (tree : FileTree) (name : Text) (below : FileTree) : FileTree :=
  match tree with
  | file content => file content
  | directory entries => directory (OrderedMap.place name below entries)

/-- Puts a tree at a place. Directories that lead there are made where they are missing. -/
def put (tree : FileTree) : List Text → FileTree → FileTree
  | [], new => new
  | name :: names, new =>
    tree.setEntry name (put ((tree.named? name).getD empty) names new)

theorem named?_setEntry {name : Text} {below tree : FileTree} (h : tree.isDirectory = true) :
    (tree.setEntry name below).named? name = some below := by
  cases tree with
  | file => exact absurd h nofun
  | directory entries => simp [setEntry, named?, OrderedMap.lookup_place]

theorem at?_put {new tree : FileTree} {place : List Text} {name : Text}
    (h : (tree.at? place).any isDirectory = true) :
    (tree.put (place ++ [name]) new).at? (place ++ [name]) = some new := by
  induction place generalizing tree with
  | nil =>
    have dir : tree.isDirectory = true := by simpa [at?] using h
    simp [put, at?, named?_setEntry dir]
  | cons first place ih =>
    cases e : tree.named? first with
    | none => simp [at?, e] at h
    | some below =>
      have dir : tree.isDirectory = true := by
        cases tree with
        | file => exact absurd e nofun
        | directory => rfl
      simp only [at?, e] at h
      simp [put, at?, named?_setEntry dir, e, ih h]

mutual

/-- The files of a tree, each with its place. -/
def files : FileTree → List (List Text × Bytes)
  | file content => [([], content)]
  | directory entries => filesOf entries

/-- The files of several entries, each with its place. -/
def filesOf : List (Text × FileTree) → List (List Text × Bytes)
  | [] => []
  | (name, tree) :: entries =>
    (tree.files.map fun (place, content) => (name :: place, content)) ++ filesOf entries

end

/-- Whether a place comes before another one, or is the same: names are compared one by one, each by
its characters. -/
def placeLe : List Text → List Text → Bool
  | [], _ => true
  | _ :: _, [] => false
  | a :: place, b :: other => if a = b then placeLe place other else Text.isAtMost a b

def sortedFiles (tree : FileTree) : List (List Text × Bytes) :=
  tree.files.mergeSort fun a b => placeLe a.1 b.1

mutual

/-- Everything in a tree with its place, the tree itself first. The entries of a directory come in the
order of their names, each with all that is below it. -/
def walk : FileTree → List (List Text × FileTree)
  | file content => [([], file content)]
  | directory entries =>
    ([], directory entries) ::
      ((walksOf entries).mergeSort fun a b => Text.isAtMost a.1 b.1).flatMap fun (name, visits) =>
        visits.map fun (place, tree) => (name :: place, tree)

/-- What is in each of several entries, under the name of the entry. -/
def walksOf : List (Text × FileTree) → List (Text × List (List Text × FileTree))
  | [] => []
  | (name, tree) :: entries => (name, tree.walk) :: walksOf entries

end

end FileTree

end DocHarvest
