import DocHarvest.Proofs.Storage.Write
import DocHarvest.Proofs.Text.Lines

/-!
# What is at a place

`place?` is the place that a path leads to. A file in a directory is at the place of the directory,
with its name behind (`place?_join`). Writing a file changes what is at its place and nothing else
(`fileAt?_write`), and making directories changes no file (`fileAt?_makeDirectories`).
-/

namespace DocHarvest

open Text

/-! ## Trees -/

/-- The content of a file. -/
def FileTree.content? : FileTree → Option Bytes
  | file content => some content
  | directory _ => none

/-- The content of the file at a place. -/
def FileTree.fileAt? (tree : FileTree) (place : List Text) : Option Bytes :=
  (tree.at? place).bind content?

namespace Storage

section Trees

variable {root new : FileTree} {dir : List Text} {name : Text}

theorem fileAt?_of_isDirectoryAt {place : List Text} (h : isDirectoryAt root place = true) :
    root.fileAt? place = none := by
  unfold isDirectoryAt at h
  unfold FileTree.fileAt?
  cases found : root.at? place with
  | none => rfl
  | some tree =>
    cases tree with
    | file content =>
      rw [found] at h
      cases h
    | directory entries => rfl

/-- A tree without entries that is put in a directory changes no file elsewhere. -/
theorem fileAt?_put (isDir : isDirectoryAt root dir = true)
    (free : isDirectoryAt root (dir ++ [name]) = false) (bare : ∀ n, new.named? n = none)
    (place : List Text) :
    (root.put (dir ++ [name]) new).fileAt? place =
      if place = dir ++ [name] then new.content? else root.fileAt? place := by
  split
  · next same => rw [same, FileTree.fileAt?, FileTree.at?_put isDir, Option.bind_some]
  · next other =>
    rcases at?_put_cases isDir free bare other with ⟨before, after⟩ | eq
    · rw [fileAt?_of_isDirectoryAt before, fileAt?_of_isDirectoryAt after]
    · rw [FileTree.fileAt?, eq, FileTree.fileAt?]

/-- A new directory changes no file at all. -/
theorem fileAt?_put_empty (isDir : isDirectoryAt root dir = true)
    (missing : root.at? (dir ++ [name]) = none) (place : List Text) :
    (root.put (dir ++ [name]) .empty).fileAt? place = root.fileAt? place := by
  have free : isDirectoryAt root (dir ++ [name]) = false := by
    rw [isDirectoryAt, missing]
    rfl
  rw [fileAt?_put isDir free (fun _ => rfl)]
  split
  · next same =>
    rw [same, FileTree.fileAt?, missing]
    rfl
  · rfl

/-- The directories of a path are made without any change to files. -/
theorem fileAt?_makeAlong (start pieces place : List Text) :
    (makeAlong root start pieces).1.fileAt? place = root.fileAt? place := by
  induction pieces generalizing root start with
  | nil => rfl
  | cons piece pieces ih =>
    rw [makeAlong]
    split
    · next admitted =>
      dsimp only
      cases found : root.at? (follow start piece) with
      | some tree => exact ih _
      | none =>
        refine (ih _).trans ?_
        have isDir : isDirectoryAt root start = true := (Bool.and_eq_true_iff.1 admitted).1
        have free : isDirectoryAt root (follow start piece) = false := by
          rw [isDirectoryAt, found]
          rfl
        rw [follow_of_not_directory isDir free] at found ⊢
        exact fileAt?_put_empty isDir found place
    · rfl

end Trees

theorem fileAt?_makeDirectories (s : Storage) (path : Text) (place : List Text) :
    (s.makeDirectories path).1.root.fileAt? place = s.root.fileAt? place := by
  unfold makeDirectories
  split
  · rfl
  · split
    · exact fileAt?_makeAlong _ _ _
    · rfl

/-! ## Paths -/

/-- The place that a path leads to. -/
def place? (s : Storage) (path : Text) : Option (List Text) :=
  followAll? s.root (s.start path) (Path.pieces path)

variable {s : Storage} {path : Text} {place : List Text}

theorem readFile?_eq (s : Storage) (path : Text) :
    s.readFile? path =
      if Path.isUsable path then (s.place? path).bind s.root.fileAt? else none := by
  unfold readFile? find? place?
  by_cases usable : Path.isUsable path = true
  · rw [if_pos usable, if_pos usable]
    cases followAll? s.root (s.start path) (Path.pieces path) with
    | none => rfl
    | some place =>
      simp only [Option.bind_some, FileTree.fileAt?]
      rcases s.root.at? place with _ | (content | entries)
      · rfl
      · rfl
      · rfl
  · rw [if_neg usable, if_neg usable]

theorem place?_of_target? (h : s.target? path = some place) : s.place? path = some place := by
  unfold target? at h
  obtain ⟨dir, hdir, h⟩ := Option.bind_eq_some_iff.1 h
  obtain ⟨name, hname, h⟩ := Option.bind_eq_some_iff.1 h
  split at h
  · next admitted =>
    simp only [Bool.and_eq_true] at admitted
    obtain ⟨lead, pieces⟩ := List.getLast?_eq_some_iff.1 hname
    rw [pieces, List.dropLast_concat] at hdir
    rw [place?, pieces, followAll?_append, hdir, Option.bind_some, if_pos admitted.1.1.2]
    exact h
  · cases h

theorem place?_write (h : s.target? path = some place) (content : Bytes) (other : Text) :
    (s.write place content).place? other = s.place? other :=
  followAll?_congr (isDirectoryAt_write h content) _ _

/-- Writing a file changes no other file. -/
theorem fileAt?_write (h : s.target? path = some place) (content : Bytes) (other : List Text) :
    (s.write place content).root.fileAt? other =
      if other = place then some content else s.root.fileAt? other := by
  obtain ⟨dir, name, -, rfl, isDir, free, -⟩ := target?_eq_some h
  exact fileAt?_put isDir free (named?_file content) other

theorem start_append {dir : Text} (ne : dir ≠ []) (rest : Text) :
    s.start (dir ++ rest) = s.start dir := by
  cases dir with
  | nil => exact absurd rfl ne
  | cons c dir => rfl

theorem follow_nil (place : List Text) : follow place [] = place := rfl

/-- A name in a directory leads to the place of the directory, with the name behind. -/
theorem place?_join (s : Storage) (dir : Text) {name : Text} (h : '/' ∉ name) :
    s.place? (Path.join dir name) = (s.place? dir).bind fun place =>
      if isDirectoryAt s.root place then some (follow place name) else none := by
  have single : Path.pieces name = [name] := splitOn_of_not_mem h
  unfold Path.join
  split
  · next ends =>
    rw [Bool.or_eq_true, List.isEmpty_iff, decide_eq_true_eq] at ends
    rcases ends with rfl | slash
    · -- the empty path leads to the working directory
      have relative : Path.isAbsolute name = false :=
        decide_eq_false fun first => h (List.mem_of_head? first)
      have here : s.start name = s.start [] := by
        rw [start, relative]
        rfl
      have empty : Path.pieces [] = [[]] := rfl
      rw [List.nil_append, place?, single, here, place?, empty]
      unfold followAll?
      split
      · next isDir => simp only [followAll?, follow_nil, Option.bind_some, if_pos isDir]
      · rfl
    · obtain ⟨lead, rfl⟩ := List.getLast?_eq_some_iff.1 slash
      have below : Path.pieces (lead ++ ['/'] ++ name) = Path.pieces lead ++ [name] := by
        rw [List.append_assoc, List.singleton_append, Path.pieces, splitOn_append, ← single]
        rfl
      have itself : Path.pieces (lead ++ ['/']) = Path.pieces lead ++ [[]] := splitOn_append _ _ _
      rw [place?, below, start_append (List.concat_ne_nil _ _), followAll?_append, place?, itself,
        followAll?_append]
      cases followAll? s.root (s.start (lead ++ ['/'])) (Path.pieces lead) with
      | none => rfl
      | some place =>
        simp only [Option.bind_some]
        split
        · next isDir => simp only [follow_nil, Option.bind_some, if_pos isDir]
        · rfl
  · next other =>
    have below : Path.pieces (dir ++ '/' :: name) = Path.pieces dir ++ [name] := by
      rw [Path.pieces, splitOn_append, ← single]
      rfl
    have ne : dir ≠ [] := fun empty => other (by rw [empty]; rfl)
    rw [place?, below, start_append ne, followAll?_append, place?]

end Storage

end DocHarvest
