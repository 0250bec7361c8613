import DocHarvest.Pipeline.Dataset
import DocHarvest.Proofs.Pipeline.Sink
import DocHarvest.Proofs.Storage.Places
import DocHarvest.Proofs.Storage.Walk
import DocHarvest.Proofs.Traversal

/-!
# Datasets in directories

A dataset is read from the files of a directory whose paths match a pattern, in the order of their
places (`FileTree.IsSelection`), and from nothing else (`Dataset.load_directory`). Which files these
are is settled by what the tree has at each place, so neither the order of its entries nor a file that
does not match makes a difference (`FileTree.IsSelection.eq`).
-/

namespace DocHarvest

open Text

namespace FileTree

variable {tree tree' : FileTree} {glob : Glob} {files files' : List (List Text × Bytes)}

/-- The files of a tree whose paths match a pattern, each with its place, in the order of their
places. -/
structure IsSelection (tree : FileTree) (glob : Glob) (files : List (List Text × Bytes)) : Prop where
  mem : ∀ place content, (place, content) ∈ files ↔
    tree.fileAt? place = some content ∧ glob.isMatch (Text.join '/' place) = true
  sorted : files.Pairwise fun a b => IsBeforePlace a.1 b.1

theorem IsSelection.nodup (h : tree.IsSelection glob files) : files.Nodup := by
  rw [List.nodup_iff_pairwise_ne]
  refine h.sorted.imp fun {a b} lt same => ?_
  subst same
  exact Std.Asymm.asymm (r := IsBeforePlace) _ _ lt lt

/-- There is one such list, whatever else is in the tree. -/
theorem IsSelection.eq (h : tree.IsSelection glob files) (h' : tree'.IsSelection glob files')
    (same : ∀ place, glob.isMatch (Text.join '/' place) = true →
      tree'.fileAt? place = tree.fileAt? place) : files' = files := by
  have perm : files'.Perm files := by
    refine (List.perm_ext_iff_of_nodup h'.nodup h.nodup).2 ?_
    rintro ⟨place, content⟩
    rw [h'.mem, h.mem]
    exact and_congr_left fun matched => by rw [same place matched]
  refine perm.eq_of_pairwise (fun a b _ _ lt gt => ?_) h'.sorted h.sorted
  exact absurd gt (Std.Asymm.asymm (r := IsBeforePlace) _ _ lt)

/-! ## What a walk comes by -/

/-- A file with a matching path. -/
def selected? (glob : Glob) : List Text × FileTree → Option (List Text × Bytes)
  | (_, .directory _) => none
  | (place, .file content) =>
    if glob.isMatch (Text.join '/' place) then some (place, content) else none

theorem selected?_eq_some {visit : List Text × FileTree} {place : List Text} {content : Bytes} :
    selected? glob visit = some (place, content) ↔
      visit = (place, .file content) ∧ glob.isMatch (Text.join '/' place) = true := by
  obtain ⟨place', sub⟩ := visit
  cases sub with
  | directory entries => simp [selected?]
  | file content' =>
    rw [selected?]
    split
    · next matched =>
      refine ⟨fun e => ?_, fun ⟨e, _⟩ => by cases e; rfl⟩
      obtain ⟨rfl, rfl⟩ := Prod.mk.inj (Option.some.inj e)
      exact ⟨rfl, matched⟩
    · next unmatched =>
      exact ⟨nofun, fun ⟨e, matched⟩ => by cases e; exact absurd matched unmatched⟩

theorem fileAt?_eq_some {place : List Text} {content : Bytes} :
    tree.fileAt? place = some content ↔ tree.at? place = some (.file content) := by
  unfold fileAt?
  cases tree.at? place with
  | none => simp
  | some sub => cases sub <;> simp [content?]

theorem isSelection_walk (h : tree.IsProper) (glob : Glob) :
    tree.IsSelection glob (tree.walk.filterMap (selected? glob)) where
  mem place content := by
    simp only [List.mem_filterMap, selected?_eq_some, fileAt?_eq_some, ← mem_walk h]
    exact ⟨fun ⟨_, mem, e, matched⟩ => ⟨e ▸ mem, matched⟩,
      fun ⟨mem, matched⟩ => ⟨_, mem, rfl, matched⟩⟩
  sorted := by
    refine (pairwise_walk h).filterMap _ fun a b lt file he file' he' => ?_
    obtain ⟨e, -⟩ := selected?_eq_some.1 he
    obtain ⟨e', -⟩ := selected?_eq_some.1 he'
    rwa [e, e'] at lt

end FileTree

namespace Dataset

open FileTree

variable {s : Storage} {path pattern : Text} {glob : Glob} {tree : FileTree}

/-- Whether a walk through a tree at a path can go into all of its directories: none of them has a
path that is too long. -/
def IsWalkable (path : Text) (tree : FileTree) : Prop :=
  ∀ place, Storage.isDirectoryAt tree place = true → Path.isUsable (Path.joinAll path place) = true

theorem isWalkable_iff (proper : tree.IsProper) : IsWalkable path tree ↔
    ∀ visit ∈ tree.walk, visit.2.isDirectory = true →
      Path.isUsable (Path.joinAll path visit.1) = true := by
  constructor
  · rintro h ⟨place, sub⟩ mem dir
    refine h place ?_
    rw [Storage.isDirectoryAt, (mem_walk proper).1 mem]
    exact dir
  · intro h place dir
    obtain ⟨sub, found, dir⟩ := (Option.any_eq_true _ _).1 dir
    exact h (place, sub) ((mem_walk proper).2 found) dir

theorem readVisit_eq {visit : List Text × FileTree}
    (usable : visit.2.isDirectory = true → Path.isUsable (Path.joinAll path visit.1) = true) :
    readVisit path glob visit = (selected? glob visit).elim (.ok []) fun selected =>
      (ofFile path selected.1 selected.2).map entries := by
  obtain ⟨place, tree⟩ := visit
  cases tree with
  | directory entries => exact if_pos (usable rfl)
  | file content =>
    rw [readVisit, selected?]
    split <;> rfl

/-- A walk that can go into all directories reads the matching files, one after another. -/
theorem load_eq (found : s.find? path = some tree) (isDir : tree.isDirectory = true)
    (proper : tree.IsProper) (valid : Glob.ofText? pattern = some glob)
    (walkable : IsWalkable path tree) :
    load s path pattern = ((tree.walk.filterMap (selected? glob)).mapM fun selected =>
      ofFile path selected.1 selected.2).map fun parts => ⟨parts.flatMap entries⟩ := by
  have read : (tree.walk.mapM (readVisit path glob)).map List.flatten = _ :=
    map_flatten_mapM fun visit mem => readVisit_eq ((isWalkable_iff proper).1 walkable visit mem)
  cases tree with
  | file content => cases isDir
  | directory below =>
    rw [load, found, valid]
    dsimp only
    generalize (directory below).walk.mapM (readVisit path glob) = parts at read ⊢
    generalize List.mapM (fun selected => ofFile path selected.1 selected.2)
      ((directory below).walk.filterMap (selected? glob)) = datasets at read ⊢
    have read := congrArg (Except.map Dataset.mk) read
    cases parts <;> cases datasets <;> exact read

/-- A directory is read as its matching files are, one after another in the order of their places,
until one of them cannot be read. Nothing else in it counts. -/
theorem load_directory (found : s.find? path = some tree) (isDir : tree.isDirectory = true)
    (proper : tree.IsProper) (walkable : IsWalkable path tree)
    (valid : Glob.ofText? pattern = some glob) :
    ∃ files, tree.IsSelection glob files ∧
      (∀ d, load s path pattern = .ok d ↔ ∃ parts,
        List.Forall₂ (fun file part => ofFile path file.1 file.2 = .ok part) files parts ∧
          d.entries = parts.flatMap entries) ∧
      ((∃ e, load s path pattern = .error e) ↔
        ∃ file ∈ files, ∃ e, ofFile path file.1 file.2 = .error e) ∧
      (∀ e, load s path pattern = .error e ↔ ∃ before file after, files = before ++ file :: after ∧
        (∀ f ∈ before, ∃ part, ofFile path f.1 f.2 = .ok part) ∧
          ofFile path file.1 file.2 = .error e) ∧
      ((∀ place content, tree.fileAt? place = some content →
        glob.isMatch (Text.join '/' place) = false) → load s path pattern = .ok ⟨[]⟩) ∧
      ∀ s' tree', s'.find? path = some tree' → tree'.isDirectory = true → tree'.IsProper →
        IsWalkable path tree' →
        (∀ place, glob.isMatch (Text.join '/' place) = true →
          tree'.fileAt? place = tree.fileAt? place) →
        load s' path pattern = load s path pattern := by
  have selection := isSelection_walk proper glob
  have eq := load_eq found isDir proper valid walkable
  refine ⟨_, selection, fun d => ?_, ?_, fun e => ?_, fun unmatched => ?_, ?_⟩
  · simp only [eq, map_eq_ok_iff, mapM_eq_ok_iff]
    refine exists_congr fun parts => and_congr_right fun _ => ?_
    exact ⟨fun e => e ▸ rfl, fun e => congrArg Dataset.mk e.symm⟩
  · simp only [eq, map_eq_error_iff, exists_mapM_eq_error_iff]
  · rw [eq, map_eq_error_iff, mapM_eq_error_iff]
  · have files : tree.walk.filterMap (selected? glob) = [] := by
      refine List.eq_nil_iff_forall_not_mem.2 fun ⟨place, content⟩ mem => ?_
      obtain ⟨found, matched⟩ := (selection.mem place content).1 mem
      rw [unmatched place content found] at matched
      cases matched
    rw [eq, files]
    rfl
  · intro s' tree' found' isDir' proper' walkable' same
    rw [eq, load_eq found' isDir' proper' valid walkable',
      selection.eq (isSelection_walk proper' glob) same]

/-- A source file with nothing but a path. -/
def unitOf (path : Text) : SourceUnit := ⟨[], path, [], [], []⟩

def fileOf (path : Text) : FileTree := .file (jsonLines [(unitOf path).toJson]).toBytes

/-- A directory with a file, a file of another kind and a directory. As texts the paths in it would
stand in another order: a dot comes before a slash. -/
def mixed : FileTree :=
  .directory [("a.jsonl".toList, fileOf ['A']), ("notes".toList, .file [255]),
    ("a".toList, .directory [("b.jsonl".toList, fileOf ['B'])])]

theorem isProper_mixed : mixed.IsProper := by
  refine .directory (by decide) ?_
  simp only [List.forall_mem_cons]
  exact ⟨.file _, .file _, .directory (by decide) (by simpa using .file _), nofun⟩

theorem walk_mixed : mixed.walk = [([], mixed),
    (["a".toList], .directory [("b.jsonl".toList, fileOf ['B'])]),
    (["a".toList, "b.jsonl".toList], fileOf ['B']), (["a.jsonl".toList], fileOf ['A']),
    (["notes".toList], .file [255])] := by
  simp [mixed, fileOf, walk, walksOf, List.mergeSort, List.MergeSort.Internal.splitInTwo,
    Text.isAtMost]

theorem load_directory_mixed :
    load ⟨.directory [("data".toList, mixed)], []⟩ "data".toList "*.jsonl".toList =
      .ok ⟨[unitOf ['B'], unitOf ['A']]⟩ := by
  have valid : Glob.ofText? "*.jsonl".toList = some (.star :: ".jsonl".toList.map .literal) := by
    simp [Glob.ofText?, Glob.read?, Glob.Draft.add, Glob.Draft.finish?, Glob.Draft.isNested]
  have walkable : IsWalkable "data".toList mixed :=
    (isWalkable_iff isProper_mixed).2 (by rw [walk_mixed]; decide +kernel)
  obtain ⟨files, selection, ok, -⟩ :=
    load_directory (s := ⟨.directory [("data".toList, mixed)], []⟩) rfl rfl isProper_mixed walkable
      valid
  have eq : files = [(["a".toList, "b.jsonl".toList], (jsonLines [(unitOf ['B']).toJson]).toBytes),
      (["a.jsonl".toList], (jsonLines [(unitOf ['A']).toJson]).toBytes)] :=
    ((isSelection_walk isProper_mixed _).eq selection fun _ _ => rfl).trans
      (by rw [walk_mixed]; decide +kernel)
  subst eq
  exact (ok _).2 ⟨_, .cons (ofBytes_jsonLines _ [unitOf ['B']])
    (.cons (ofBytes_jsonLines _ [unitOf ['A']]) .nil), rfl⟩

end Dataset

end DocHarvest
