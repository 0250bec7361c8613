import DocHarvest.Proofs.Record.OrderedMap
import DocHarvest.Storage.Basic

/-!
# What writing a file does

`target?` is the place where the file of a path goes; `writeFile?_eq` : writing puts the content
there and does nothing else. So what is written is read (`readFile?_write`), a file at another
target stays as it is (`readFile?_write_of_ne`), and every path leads to the target it led to before
(`target?_write`).
-/

namespace DocHarvest

namespace Storage

/-! ## Trees -/

theorem isDirectoryAt_of_append {root : FileTree} {a b : List Text}
    (h : isDirectoryAt root (a ++ b) = true) : isDirectoryAt root a = true := by
  induction a generalizing root with
  | nil =>
    cases b with
    | nil => exact h
    | cons name b =>
      cases root with
      | file => exact absurd h nofun
      | directory entries => rfl
  | cons name a ih =>
    simp only [isDirectoryAt, List.cons_append, FileTree.at?] at h ⊢
    cases e : root.named? name with
    | none => simp [e] at h
    | some below =>
      rw [e] at h
      exact ih h

theorem isDirectory_of_named? {tree below : FileTree} {name : Text}
    (h : tree.named? name = some below) : tree.isDirectory = true := by
  cases tree with
  | file => exact absurd h nofun
  | directory => rfl

theorem named?_setEntry_of_ne {tree below : FileTree} {name other : Text} (ne : name ≠ other) :
    (tree.setEntry name below).named? other = tree.named? other := by
  cases tree with
  | file => rfl
  | directory entries =>
    simp only [FileTree.setEntry, FileTree.named?, OrderedMap.lookup_place, if_neg ne]

theorem put_put (tree : FileTree) (place : List Text) (a b : FileTree) :
    (tree.put place a).put place b = tree.put place b := by
  induction place generalizing tree with
  | nil => rfl
  | cons name place ih =>
    cases tree with
    | file => rfl
    | directory entries =>
      rw [FileTree.put, FileTree.put, FileTree.put, FileTree.named?_setEntry rfl, Option.getD_some,
        ih]
      exact congrArg FileTree.directory (OrderedMap.place_place name _ _ entries)

theorem named?_file (content : Bytes) (name : Text) : (FileTree.file content).named? name = none :=
  rfl

variable {root new : FileTree} {dir : List Text} {name : Text} {content : Bytes}

theorem at?_put_of_isDirectory (rootDir : root.isDirectory = true)
    (free : isDirectoryAt root [name] = false) (bare : ∀ n, new.named? n = none) {first : Text}
    {place : List Text} (ne : first :: place ≠ [name]) :
    (root.put [name] new).at? (first :: place) = root.at? (first :: place) := by
  simp only [FileTree.put, FileTree.at?]
  by_cases same : name = first
  · -- nothing is below the new tree, nor below what it takes the place of
    subst same
    rw [FileTree.named?_setEntry rootDir]
    cases place with
    | nil => exact absurd rfl ne
    | cons second place =>
      simp only [isDirectoryAt, FileTree.at?] at free
      simp only [FileTree.at?, bare]
      cases below : root.named? name with
      | none => rfl
      | some tree =>
        cases tree with
        | file => rfl
        | directory => simp [below, FileTree.isDirectory] at free
  · rw [named?_setEntry_of_ne same]

/-- Where a tree without entries is put in a directory, anything else is a directory as before or is
as before. -/
theorem at?_put_cases (hdir : isDirectoryAt root dir = true)
    (free : isDirectoryAt root (dir ++ [name]) = false) (bare : ∀ n, new.named? n = none)
    {place : List Text} (ne : place ≠ dir ++ [name]) :
    (isDirectoryAt root place = true ∧
        isDirectoryAt (root.put (dir ++ [name]) new) place = true) ∨
      (root.put (dir ++ [name]) new).at? place = root.at? place := by
  have isDir := isDirectoryAt_of_append (a := []) hdir
  induction dir generalizing root place with
  | nil =>
    have rootDir : root.isDirectory = true := hdir
    cases place with
    | nil => exact .inl ⟨hdir, by cases root <;> first | rfl | exact absurd rootDir nofun⟩
    | cons first place => exact .inr (at?_put_of_isDirectory rootDir free bare ne)
  | cons first dir ih =>
    simp only [isDirectoryAt, List.cons_append, FileTree.at?] at hdir free
    cases below : root.named? first with
    | none => simp [below] at hdir
    | some tree =>
      rw [below] at hdir free
      have rootDir := isDirectory_of_named? below
      cases place with
      | nil => exact .inl ⟨isDir, by cases root <;> first | rfl | exact absurd rootDir nofun⟩
      | cons second place =>
        simp only [isDirectoryAt, List.cons_append, FileTree.put, FileTree.at?, below,
          Option.getD_some]
        by_cases same : first = second
        · subst same
          rw [FileTree.named?_setEntry rootDir, below]
          exact ih hdir free (fun e => ne (by rw [e]; rfl)) (isDirectoryAt_of_append (a := []) hdir)
        · exact .inr (by rw [named?_setEntry_of_ne same])

theorem isDirectoryAt_put_file (hdir : isDirectoryAt root dir = true)
    (free : isDirectoryAt root (dir ++ [name]) = false) (place : List Text) :
    isDirectoryAt (root.put (dir ++ [name]) (.file content)) place = isDirectoryAt root place := by
  by_cases same : place = dir ++ [name]
  · rw [same, free, isDirectoryAt, FileTree.at?_put hdir]
    rfl
  · rcases at?_put_cases hdir free (named?_file content) same with ⟨before, after⟩ | eq
    · rw [before, after]
    · rw [isDirectoryAt, eq, isDirectoryAt]

theorem at?_put_file_of_ne (hdir : isDirectoryAt root dir = true)
    (free : isDirectoryAt root (dir ++ [name]) = false) {place : List Text}
    (ne : place ≠ dir ++ [name]) (file : isDirectoryAt root place = false) :
    (root.put (dir ++ [name]) (.file content)).at? place = root.at? place := by
  rcases at?_put_cases hdir free (named?_file content) ne with ⟨before, -⟩ | eq
  · exact absurd before (by simp [file])
  · exact eq

/-! ## Paths -/

theorem followAll?_congr {a b : FileTree}
    (same : ∀ place, isDirectoryAt a place = isDirectoryAt b place) (place : List Text)
    (pieces : List Text) : followAll? a place pieces = followAll? b place pieces := by
  induction pieces generalizing place with
  | nil => rfl
  | cons piece pieces ih => rw [followAll?, followAll?, same, ih]

theorem followAll?_append (a : FileTree) (place pieces : List Text) (piece : Text) :
    followAll? a place (pieces ++ [piece]) =
      (followAll? a place pieces).bind fun place =>
        if isDirectoryAt a place then some (follow place piece) else none := by
  induction pieces generalizing place with
  | nil => simp [followAll?]
  | cons first pieces ih =>
    rw [List.cons_append, followAll?, followAll?, ih]
    split <;> rfl

/-- The place where the file of a path is written, if one can be written there. -/
def target? (s : Storage) (path : Text) : Option (List Text) := do
  let pieces := Path.pieces path
  let place ← followAll? s.root (s.start path) pieces.dropLast
  let name ← pieces.getLast?
  if Path.isUsable path && isDirectoryAt s.root place && isName name &&
      !isDirectoryAt s.root (follow place name) then
    some (follow place name)
  else none

/-- The storage with a file at a place. -/
def write (s : Storage) (place : List Text) (content : Bytes) : Storage :=
  { s with root := s.root.put place (.file content) }

theorem writeFile?_eq (s : Storage) (path : Text) (content : Bytes) :
    s.writeFile? path content = (s.target? path).map fun place => s.write place content := by
  simp only [writeFile?, target?, Option.bind_eq_bind]
  cases followAll? s.root (s.start path) (Path.pieces path).dropLast with
  | none => rfl
  | some place =>
    cases (Path.pieces path).getLast? with
    | none => rfl
    | some name =>
      simp only [Option.bind_some]
      split <;> rfl

theorem follow_of_not_directory {dir : List Text} {piece : Text}
    (isDir : isDirectoryAt root dir = true) (free : isDirectoryAt root (follow dir piece) = false) :
    follow dir piece = dir ++ [piece] := by
  unfold follow at free ⊢
  split
  · next same =>
    rw [if_pos same, isDir] at free
    exact absurd free nofun
  · next other =>
    rw [if_neg other] at free
    split
    · next above =>
      have up : isDirectoryAt root dir.dropLast = true := by
        cases dir with
        | nil => exact isDir
        | cons first dir =>
          rw [← List.dropLast_concat_getLast (List.cons_ne_nil first dir)] at isDir
          exact isDirectoryAt_of_append isDir
      rw [if_pos above, up] at free
      exact absurd free nofun
    · rfl

/-- A target is a free name in a directory, and the path leads there. -/
theorem target?_eq_some {s : Storage} {path : Text} {place : List Text}
    (h : s.target? path = some place) :
    ∃ dir name, (Path.pieces path).getLast? = some name ∧ place = dir ++ [name] ∧
      isDirectoryAt s.root dir = true ∧ isDirectoryAt s.root place = false ∧
      s.find? path = s.root.at? place := by
  unfold target? at h
  obtain ⟨dir, hdir, h⟩ := Option.bind_eq_some_iff.1 h
  obtain ⟨name, hname, h⟩ := Option.bind_eq_some_iff.1 h
  split at h
  · next admitted =>
    obtain rfl := Option.some.inj h
    simp only [Bool.and_eq_true, Bool.not_eq_true'] at admitted
    obtain ⟨⟨⟨usable, isDir⟩, -⟩, free⟩ := admitted
    obtain ⟨lead, pieces⟩ := List.getLast?_eq_some_iff.1 hname
    rw [pieces, List.dropLast_concat] at hdir
    refine ⟨dir, name, hname, follow_of_not_directory isDir free, isDir, free, ?_⟩
    rw [find?, if_pos usable, pieces, followAll?_append, hdir, Option.bind_some, if_pos isDir]
  · exact absurd h nofun

/-! ## Writing -/

variable {s : Storage} {path other : Text} {place : List Text}

theorem isDirectoryAt_write (h : s.target? path = some place) (content : Bytes) (p : List Text) :
    isDirectoryAt (s.write place content).root p = isDirectoryAt s.root p := by
  obtain ⟨dir, name, -, rfl, isDir, free, -⟩ := target?_eq_some h
  exact isDirectoryAt_put_file isDir free p

theorem target?_write (h : s.target? path = some place) (content : Bytes) (other : Text) :
    (s.write place content).target? other = s.target? other := by
  have same := isDirectoryAt_write h content
  simp only [target?, same, followAll?_congr same]
  rfl

theorem readFile?_write (h : s.target? path = some place) (content : Bytes) :
    (s.write place content).readFile? path = some content := by
  have h' := target?_write h content path
  rw [h] at h'
  obtain ⟨-, -, -, -, -, -, found⟩ := target?_eq_some h'
  obtain ⟨dir, name, -, rfl, isDir, -, -⟩ := target?_eq_some h
  rw [readFile?, found, write, FileTree.at?_put isDir]

theorem readFile?_write_of_ne {place' : List Text} (h : s.target? path = some place)
    (h' : s.target? other = some place') (ne : place' ≠ place) (content : Bytes) :
    (s.write place content).readFile? other = s.readFile? other := by
  have kept := target?_write h content other
  rw [h'] at kept
  obtain ⟨-, -, -, -, -, -, found⟩ := target?_eq_some kept
  obtain ⟨-, -, -, -, -, file, found'⟩ := target?_eq_some h'
  obtain ⟨dir, name, -, rfl, isDir, free, -⟩ := target?_eq_some h
  rw [readFile?, readFile?, found, found', write, at?_put_file_of_ne isDir free ne file]

theorem write_write (s : Storage) (place : List Text) (a b : Bytes) :
    (s.write place a).write place b = s.write place b := by
  simp only [write, put_put]

end Storage

end DocHarvest
