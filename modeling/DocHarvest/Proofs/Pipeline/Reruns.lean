import DocHarvest.Proofs.Pipeline.Run
import DocHarvest.Proofs.Storage.Places

/-!
# Runs into one directory

A run writes the files of its own shards and leaves all other files alone
(`fileAt?_of_runShards_eq_ok`); nothing is ever removed. So after several runs into one directory a
file there is that of the latest run that had so many shards (`Runs.batchFile?_eq`), and behind the
files of the last run those of earlier ones may stand. `batchFile?_of_runs` says what is there, and
when it is the files of the last run only.
-/

namespace DocHarvest

open Text RunConfig

variable {grammar : Grammar} {config : RunConfig} {dir : List Text}

/-! ## Places of files -/

/-- The content of the file of a shard in a directory. -/
def Storage.batchFile? (s : Storage) (dir : List Text) (index : Nat) : Option Bytes :=
  s.root.fileAt? (dir ++ [shardName index])

theorem follow_shardName (dir : List Text) (index : Nat) :
    Storage.follow dir (shardName index) = dir ++ [shardName index] := by
  have begins : "batch_".toList = 'b' :: "atch_".toList := by decide
  obtain ⟨rest, name⟩ : ∃ rest, shardName index = 'b' :: rest :=
    ⟨_, congrArg (fun lead => lead ++ decimal index ++ "_data.jsonl".toList) begins⟩
  simp [Storage.follow, name, Path.same, Path.above]

theorem concat_shardName_inj {i j : Nat} (h : dir ++ [shardName i] = dir ++ [shardName j]) :
    i = j := by
  obtain ⟨same, -⟩ := List.cons.inj (List.append_cancel_left h)
  exact shardName_inj same

/-- The path of a shard leads to its place in the directory. -/
theorem place?_shardPath {s : Storage} {path : Text} {index : Nat} {place : List Text}
    (into : s.place? path = some dir) (h : s.place? (shardPath path index) = some place) :
    place = dir ++ [shardName index] := by
  rw [shardPath_eq, Storage.place?_join s path (not_mem_shardName index), into,
    Option.bind_some] at h
  split at h
  · rw [← Option.some.inj h, follow_shardName]
  · cases h

theorem batchFile?_of_readFile? {s : Storage} {path : Text} {index : Nat} {content : Bytes}
    (into : s.place? path = some dir) (h : s.readFile? (shardPath path index) = some content) :
    s.batchFile? dir index = some content := by
  rw [Storage.readFile?_eq] at h
  split at h
  · obtain ⟨place, found, file⟩ := Option.bind_eq_some_iff.1 h
    rw [place?_shardPath into found] at file
    exact file
  · cases h

/-! ## One run -/

/-- What holds before shards are run and is kept when the file of one of them is written holds
after all of them. -/
theorem runShards_induction {motive : Storage → Prop} {s s' : Storage} {index : Nat}
    {parts : List (List SourceUnit)} {summaries : List ShardSummary}
    (h : runShards grammar config s index parts = (.ok summaries, s')) (start : motive s)
    (write : ∀ {t : Storage} {i : Nat} {place : List Text} (content : Bytes), index ≤ i →
      i < index + parts.length → t.target? (shardPath config.outputDir i) = some place →
      motive t → motive (t.write place content)) : motive s' := by
  induction parts generalizing s index summaries with
  | nil =>
    obtain ⟨-, rfl⟩ := Prod.mk.inj h
    exact start
  | cons units parts ih =>
    obtain ⟨summary, s₁, rest, first, others⟩ := exists_of_runShards_cons_eq_ok h
    obtain ⟨place, content, target, rfl⟩ := exists_write_of_runShard_eq_ok first
    have kept := write content (Nat.le_refl _) (by rw [List.length_cons]; omega) target start
    refine ih others kept ?_
    intro t i place content le lt
    exact write content (by omega) (by rw [List.length_cons]; omega)

theorem place?_of_runShards_eq_ok {s s' : Storage} {index : Nat} {parts : List (List SourceUnit)}
    {summaries : List ShardSummary}
    (h : runShards grammar config s index parts = (.ok summaries, s')) (path : Text) :
    s'.place? path = s.place? path := by
  refine runShards_induction h (motive := fun t => t.place? path = s.place? path) rfl ?_
  intro t i place content _ _ target kept
  rw [Storage.place?_write target, kept]

/-- Shards that are run change their own files only. -/
theorem fileAt?_of_runShards_eq_ok {s s' : Storage} {index : Nat}
    {parts : List (List SourceUnit)} {summaries : List ShardSummary}
    (h : runShards grammar config s index parts = (.ok summaries, s'))
    (into : s.place? config.outputDir = some dir) {place : List Text}
    (other : ∀ i, index ≤ i → i < index + parts.length → place ≠ dir ++ [shardName i]) :
    s'.root.fileAt? place = s.root.fileAt? place := by
  have both : s'.place? config.outputDir = some dir ∧
      s'.root.fileAt? place = s.root.fileAt? place := by
    refine runShards_induction h (motive := fun t => t.place? config.outputDir = some dir ∧
      t.root.fileAt? place = s.root.fileAt? place) ⟨into, rfl⟩ ?_
    rintro t i target content le lt found ⟨here, kept⟩
    have own := place?_shardPath here (Storage.place?_of_target? found)
    refine ⟨by rw [Storage.place?_write found, here], ?_⟩
    rw [Storage.fileAt?_write found, if_neg (own ▸ other i le lt), kept]
  exact both.2

/-- The file that a run writes for one of its shards. -/
def RunConfig.file? (config : RunConfig) (grammar : Grammar) (d : Dataset) (index : Nat) :
    Option Bytes :=
  (config.parts (config.selected d))[index]?.map (config.linesOf grammar)

theorem RunConfig.file?_eq_none {d : Dataset} {index : Nat} :
    config.file? grammar d index = none ↔ (config.parts (config.selected d)).length ≤ index := by
  rw [file?, Option.map_eq_none_iff, List.getElem?_eq_none_iff]

/-- A run writes the files of its shards; any other file of that kind is as before. -/
theorem batchFile?_of_run_eq_ok {s s' : Storage} {d : Dataset} {summary : RunSummary}
    (ok : run grammar config s d = (.ok summary, s'))
    (into : s'.place? config.outputDir = some dir) (index : Nat) :
    s'.batchFile? dir index = (config.file? grammar d index).or (s.batchFile? dir index) := by
  cases part : (config.parts (config.selected d))[index]? with
  | some units =>
    -- what is read under the path of the shard is at its place
    have isOf := RunSummary.isOf_of_run_eq_ok ok
    rw [RunConfig.parts, List.getElem?_map] at part
    obtain ⟨range, found, rfl⟩ := Option.map_eq_some_iff.1 part
    rw [batchFile?_of_readFile? into (isOf.shards found).2, file?, RunConfig.parts,
      List.getElem?_map, found]
    rfl
  | none =>
    obtain ⟨-, -, shards⟩ := run_eq_ok.1 ok
    rw [place?_of_runShards_eq_ok shards] at into
    rw [file?, part, Option.map_none, Option.none_or, Storage.batchFile?, Storage.batchFile?,
      ← Storage.fileAt?_makeDirectories s config.outputDir]
    -- no shard of the run has this number
    refine fileAt?_of_runShards_eq_ok shards into ?_
    intro i _ lt same
    obtain rfl := concat_shardName_inj same
    rw [List.getElem?_eq_none_iff] at part
    omega

/-! ## Several runs -/

/-- Runs that came to their end one after another, each with the directory as its output
directory. -/
inductive Runs (grammar : Grammar) (dir : List Text) :
    Storage → List (RunConfig × Dataset) → Storage → Prop
  | nil {s : Storage} : Runs grammar dir s [] s
  | concat {s s₁ s₂ : Storage} {runs : List (RunConfig × Dataset)} {config : RunConfig}
      {d : Dataset} {summary : RunSummary} (earlier : Runs grammar dir s runs s₁)
      (ok : run grammar config s₁ d = (.ok summary, s₂))
      (into : s₂.place? config.outputDir = some dir) :
      Runs grammar dir s (runs ++ [(config, d)]) s₂

/-- The file that the latest of the runs with so many shards wrote. -/
def latestFile? (grammar : Grammar) (runs : List (RunConfig × Dataset)) (index : Nat) :
    Option Bytes :=
  runs.reverse.findSome? fun r => r.1.file? grammar r.2 index

theorem latestFile?_concat (grammar : Grammar) (runs : List (RunConfig × Dataset))
    (config : RunConfig) (d : Dataset) (index : Nat) :
    latestFile? grammar (runs ++ [(config, d)]) index =
      (config.file? grammar d index).or (latestFile? grammar runs index) := by
  rw [latestFile?, List.reverse_append, List.findSome?_append, latestFile?]
  simp

theorem latestFile?_eq_none {runs : List (RunConfig × Dataset)} {index : Nat} :
    latestFile? grammar runs index = none ↔
      ∀ r ∈ runs, (r.1.parts (r.1.selected r.2)).length ≤ index := by
  rw [latestFile?, List.findSome?_eq_none_iff]
  simp only [List.mem_reverse, file?_eq_none]

theorem Runs.batchFile?_eq {s s' : Storage} {runs : List (RunConfig × Dataset)}
    (h : Runs grammar dir s runs s') (index : Nat) :
    s'.batchFile? dir index = (latestFile? grammar runs index).or (s.batchFile? dir index) := by
  induction h with
  | nil => rfl
  | concat earlier ok into ih =>
    rw [batchFile?_of_run_eq_ok ok into, ih, latestFile?_concat, Option.or_assoc]

/-- The first `n` files of shards in a directory, put together. -/
def Storage.batchLines (s : Storage) (dir : List Text) (n : Nat) : Bytes :=
  (List.range n).flatMap fun i => (s.batchFile? dir i).getD []

theorem Storage.batchLines_add (s : Storage) (dir : List Text) (m n : Nat) :
    s.batchLines dir (m + n) =
      s.batchLines dir m ++ (List.range n).flatMap fun i => (s.batchFile? dir (m + i)).getD [] := by
  rw [batchLines, List.range_add, List.flatMap_append, List.flatMap_map, batchLines]

theorem RunSummary.IsOf.batchLines_eq {entries : List SourceUnit} {s : Storage}
    {summary : RunSummary} (h : summary.IsOf grammar config entries s)
    (into : s.place? config.outputDir = some dir) :
    s.batchLines dir summary.shards.length = config.linesOf grammar entries := by
  rw [← h.written, Storage.batchLines, RunConfig.written]
  have each : ∀ i ∈ List.range summary.shards.length, (s.batchFile? dir i).getD [] =
      (s.readFile? (shardPath config.outputDir i)).getD [] := by
    intro i mem
    have lt := List.mem_range.1 mem
    rw [h.length_eq] at lt
    have read := (h.shards (List.getElem?_eq_getElem lt)).2
    rw [read, batchFile?_of_readFile? into read]
  rw [List.flatMap_def, List.map_congr_left each, ← List.flatMap_def]

/-- After runs into one directory, the files of the last one are there, and behind them those that
earlier runs or something else before them left. Reading all files gives the lines of the last run
and then those; nothing of that kind is there just if no earlier run had more shards and there were
no such files at first. -/
theorem batchFile?_of_runs {s s₁ s' : Storage} {earlier : List (RunConfig × Dataset)} {d : Dataset}
    {summary : RunSummary} (history : Runs grammar dir s earlier s₁)
    (ok : run grammar config s₁ d = (.ok summary, s'))
    (into : s'.place? config.outputDir = some dir) :
    summary.IsOf grammar config (config.selected d) s' ∧
    (∀ i, s'.batchFile? dir i =
      (config.file? grammar d i).or ((latestFile? grammar earlier i).or (s.batchFile? dir i))) ∧
    (∀ n, s'.batchLines dir (summary.shards.length + n) =
      config.linesOf grammar (config.selected d) ++ (List.range n).flatMap fun i =>
        ((latestFile? grammar earlier (summary.shards.length + i)).or
          (s.batchFile? dir (summary.shards.length + i))).getD []) ∧
    ((∀ i, s'.batchFile? dir i = config.file? grammar d i) ↔
      (∀ r ∈ earlier, (r.1.parts (r.1.selected r.2)).length ≤ summary.shards.length) ∧
      ∀ i, summary.shards.length ≤ i → s.batchFile? dir i = none) := by
  have isOf := RunSummary.isOf_of_run_eq_ok ok
  have count : (config.parts (config.selected d)).length = summary.shards.length := by
    rw [isOf.length_eq, RunConfig.parts, List.length_map]
  have beyond : ∀ i, summary.shards.length ≤ i → config.file? grammar d i = none := by
    intro i le
    rw [file?_eq_none, count]
    exact le
  have files : ∀ i, s'.batchFile? dir i =
      (config.file? grammar d i).or ((latestFile? grammar earlier i).or (s.batchFile? dir i)) := by
    intro i
    rw [batchFile?_of_run_eq_ok ok into, history.batchFile?_eq]
  refine ⟨isOf, files, ?_, ?_, ?_⟩
  · intro n
    rw [Storage.batchLines_add, isOf.batchLines_eq into]
    simp only [files, beyond _ (Nat.le_add_right _ _), Option.none_or]
  · intro exact
    have left : ∀ i, summary.shards.length ≤ i →
        latestFile? grammar earlier i = none ∧ s.batchFile? dir i = none := by
      intro i le
      have same := files i
      rw [exact i, beyond i le, Option.none_or] at same
      exact Option.or_eq_none_iff.1 same.symm
    refine ⟨?_, fun i le => (left i le).2⟩
    exact latestFile?_eq_none.1 (left _ (Nat.le_refl _)).1
  · rintro ⟨fewer, none⟩ i
    rw [files]
    by_cases le : summary.shards.length ≤ i
    · have earlier_none : latestFile? grammar earlier i = Option.none :=
        latestFile?_eq_none.2 fun r mem => Nat.le_trans (fewer r mem) le
      rw [beyond i le, earlier_none, none i le]
      rfl
    · cases own : config.file? grammar d i with
      | some content => rfl
      | none =>
        rw [file?_eq_none, count] at own
        exact absurd own le

/-! ## A directory that is used twice -/

/-- A source file that is not there any more at the second run. -/
def oldUnit : SourceUnit := { padsUnit with repo := "old".toList }

/-- A run over two source files, each in a shard of its own. -/
def padsFirst : Except RunError RunSummary × Storage :=
  run (fun _ _ => padsTree) padsConfig ⟨.empty, []⟩ ⟨[padsUnit, oldUnit]⟩

/-- The same run after that, without the second source file. -/
def padsLast : Except RunError RunSummary × Storage :=
  run (fun _ _ => padsTree) padsConfig padsFirst.2 ⟨[padsUnit]⟩

/-- The directory that both runs write to. -/
def padsDir : List Text := ["out".toList]

theorem padsFirst_eq : ∃ summary,
    run (fun _ _ => padsTree) padsConfig ⟨.empty, []⟩ ⟨[padsUnit, oldUnit]⟩ =
      (.ok summary, padsFirst.2) := by
  have done : padsFirst.1 = .ok ⟨[
      padsConfig.summaryOf (fun _ _ => padsTree) 0 [padsUnit],
      padsConfig.summaryOf (fun _ _ => padsTree) 1 [oldUnit]]⟩ := by
    decide +kernel
  exact ⟨_, Prod.ext done rfl⟩

theorem runs_padsFirst : Runs (fun _ _ => padsTree) padsDir ⟨.empty, []⟩
    [(padsConfig, ⟨[padsUnit, oldUnit]⟩)] padsFirst.2 := by
  obtain ⟨summary, ok⟩ := padsFirst_eq
  exact .concat .nil ok (by decide +kernel)

theorem padsLast_eq :
    run (fun _ _ => padsTree) padsConfig padsFirst.2 ⟨[padsUnit]⟩ =
      (.ok ⟨[padsConfig.summaryOf (fun _ _ => padsTree) 0 [padsUnit]]⟩, padsLast.2) := by
  have done : padsLast.1 =
      .ok ⟨[padsConfig.summaryOf (fun _ _ => padsTree) 0 [padsUnit]]⟩ := by
    decide +kernel
  exact Prod.ext done rfl

theorem place?_padsLast : padsLast.2.place? padsConfig.outputDir = some padsDir := by
  decide +kernel

/-- All files of the directory, read back after the second run. -/
theorem batchLines_padsLast :
    Runs (fun _ _ => padsTree) padsDir ⟨.empty, []⟩ [(padsConfig, ⟨[padsUnit, oldUnit]⟩)]
        padsFirst.2 ∧
      (∃ summary, run (fun _ _ => padsTree) padsConfig padsFirst.2 ⟨[padsUnit]⟩ =
        (.ok summary, padsLast.2)) ∧
      padsLast.2.place? padsConfig.outputDir = some padsDir ∧
      padsLast.2.batchLines padsDir 2 =
        padsConfig.linesOf (fun _ _ => padsTree) [padsUnit] ++
          padsConfig.linesOf (fun _ _ => padsTree) [oldUnit] := by
  obtain ⟨-, -, lines, -⟩ := batchFile?_of_runs runs_padsFirst padsLast_eq place?_padsLast
  refine ⟨runs_padsFirst, ⟨_, padsLast_eq⟩, place?_padsLast, ?_⟩
  refine (lines 1).trans (congrArg (List.append _) ?_)
  exact List.append_nil _

/-- The file of the second shard is not one of the last run. -/
theorem batchFile?_padsLast_ne :
    Runs (fun _ _ => padsTree) padsDir ⟨.empty, []⟩ [(padsConfig, ⟨[padsUnit, oldUnit]⟩)]
        padsFirst.2 ∧
      (∃ summary, run (fun _ _ => padsTree) padsConfig padsFirst.2 ⟨[padsUnit]⟩ =
        (.ok summary, padsLast.2)) ∧
      padsLast.2.place? padsConfig.outputDir = some padsDir ∧
      ¬∀ i, padsLast.2.batchFile? padsDir i =
        padsConfig.file? (fun _ _ => padsTree) ⟨[padsUnit]⟩ i := by
  refine ⟨runs_padsFirst, ⟨_, padsLast_eq⟩, place?_padsLast, ?_⟩
  intro all
  have old : padsLast.2.batchFile? padsDir 1 =
      some (padsConfig.linesOf (fun _ _ => padsTree) [oldUnit]) := by
    decide +kernel
  rw [all 1] at old
  cases old

end DocHarvest
