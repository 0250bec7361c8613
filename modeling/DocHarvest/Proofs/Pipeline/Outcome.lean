import DocHarvest.Pipeline.Run
import DocHarvest.Proofs.Pipeline.Files
import DocHarvest.Proofs.Record.Written

/-!
# What a run leaves behind

`RunSummary.IsOf` says what a run over a list of entries leaves behind: the files, put together in
the order of the shards, hold the lines of the entries in their order, and the counts are those of
the entries. It does not mention how the entries were cut into shards, but for the counts and the
file of each of them. `isOf_of_parts` reads it off the files of the single shards.

The files hold the records themselves: each of them comes back from its line
(`RunSummary.IsOf.ofFile?_eq`).
-/

namespace DocHarvest

open Text

/-! ## One entry after another -/

namespace RunConfig

variable (config : RunConfig) (grammar : Grammar)

/-- What a source file gives: its records, or the reason why it gives none. -/
def process (unit : SourceUnit) : Except SkipReason (List ExtractionRecord) :=
  match Language.ofName? unit.language with
  | some language =>
    language.rules.records config.extractOptions config.bounds (grammar language unit.code) unit
  | none => .ok []

/-- The records of a source file; none if it is skipped. -/
def recordsOf (unit : SourceUnit) : List ExtractionRecord :=
  match config.process grammar unit with
  | .ok records => records
  | .error _ => []

/-- Whether a source file is skipped. -/
def isSkipped (unit : SourceUnit) : Bool :=
  match config.process grammar unit with
  | .ok _ => false
  | .error _ => true

/-- The lines of source files, one after another. -/
def linesOf (units : List SourceUnit) : Bytes :=
  units.flatMap fun unit =>
    (jsonLines ((config.recordsOf grammar unit).map ExtractionRecord.toJson)).toBytes

/-- The number of records of source files. -/
def recordCount (units : List SourceUnit) : Nat := (units.flatMap (config.recordsOf grammar)).length

/-- The number of source files that are skipped. -/
def skipCount (units : List SourceUnit) : Nat := units.countP (config.isSkipped grammar)

/-- What is said of a shard. -/
def summaryOf (index : Nat) (units : List SourceUnit) : ShardSummary :=
  ⟨index, units.length, config.skipCount grammar units, config.recordCount grammar units,
    shardPath config.outputDir index⟩

/-- The entries that are left by the choice of a language. -/
def selected (d : Dataset) : List SourceUnit :=
  match config.language with
  | none => d.entries
  | some name => d.entries.filter fun unit => Language.ofName? unit.language = Language.ofName? name

/-- The entries of each shard. -/
def parts (entries : List SourceUnit) : List (List SourceUnit) :=
  (shardRanges entries.length config.shards).map (entriesIn entries)

/-- The files of the first `n` shards, put together. -/
def written (s : Storage) (n : Nat) : Bytes :=
  (List.range n).flatMap fun i => (s.readFile? (shardPath config.outputDir i)).getD []

variable {config grammar}

theorem linesOf_append (a b : List SourceUnit) :
    config.linesOf grammar (a ++ b) = config.linesOf grammar a ++ config.linesOf grammar b :=
  List.flatMap_append

theorem linesOf_flatten (parts : List (List SourceUnit)) :
    config.linesOf grammar parts.flatten = parts.flatMap (config.linesOf grammar) := by
  induction parts with
  | nil => rfl
  | cons units parts ih => rw [List.flatten_cons, linesOf_append, ih, List.flatMap_cons]

theorem recordCount_append (a b : List SourceUnit) :
    config.recordCount grammar (a ++ b) =
      config.recordCount grammar a + config.recordCount grammar b := by
  rw [recordCount, List.flatMap_append, List.length_append]
  rfl

theorem skipCount_append (a b : List SourceUnit) :
    config.skipCount grammar (a ++ b) = config.skipCount grammar a + config.skipCount grammar b :=
  List.countP_append

theorem linesOf_eq (units : List SourceUnit) :
    config.linesOf grammar units = Text.toBytes
      (jsonLines ((units.flatMap (config.recordsOf grammar)).map ExtractionRecord.toJson)) := by
  induction units with
  | nil => rfl
  | cons unit units ih =>
    rw [List.flatMap_cons, List.map_append, jsonLines_append, Text.toBytes_append, ← ih]
    rfl

end RunConfig

/-- What a run over entries leaves behind. -/
structure RunSummary.IsOf (grammar : Grammar) (config : RunConfig) (entries : List SourceUnit)
    (s : Storage) (summary : RunSummary) : Prop where
  /-- The files hold the lines of all entries in order. -/
  written : config.written s summary.shards.length = config.linesOf grammar entries
  /-- The lines are the records, each written on one line. -/
  lines : ∃ t, config.written s summary.shards.length = t.toBytes ∧
    splitLines t = (entries.flatMap (config.recordsOf grammar)).map (·.toJson.render) ++ [[]]
  entries_eq : summary.entries = entries.length
  skipped_eq : summary.skipped = config.skipCount grammar entries
  records_eq : summary.records = config.recordCount grammar entries
  /-- There is one shard for every range. -/
  length_eq : summary.shards.length = (shardRanges entries.length config.shards).length
  /-- A shard has the counts and the lines of its range. -/
  shards : ∀ {i : Nat} {range : Nat × Nat},
    (shardRanges entries.length config.shards)[i]? = some range →
      summary.shards[i]? = some (config.summaryOf grammar i (entriesIn entries range)) ∧
      s.readFile? (shardPath config.outputDir i) =
        some (config.linesOf grammar (entriesIn entries range))

/-! ## Records read back -/

/-- The records of a file with one of them on each line. -/
def ExtractionRecord.ofFile? (content : Bytes) : Option (List ExtractionRecord) :=
  (ofBytes? content).bind fun t => (splitLines t).dropLast.mapM ofLine?

theorem RunConfig.ofFile?_linesOf (grammar : Grammar) (config : RunConfig)
    (units : List SourceUnit) : ExtractionRecord.ofFile? (config.linesOf grammar units) =
      some (units.flatMap (config.recordsOf grammar)) := by
  rw [linesOf_eq, ExtractionRecord.ofFile?, ofBytes?_toBytes, Option.bind_some,
    splitLines_jsonLines, List.dropLast_concat, List.map_map]
  exact mapM_map_eq_some fun r _ => ExtractionRecord.ofLine?_render r

/-- The records of all entries are read back from the files, in their order, and those of a range
from the file of its shard. -/
theorem RunSummary.IsOf.ofFile?_eq {grammar : Grammar} {config : RunConfig}
    {entries : List SourceUnit} {s : Storage} {summary : RunSummary}
    (h : summary.IsOf grammar config entries s) :
    ExtractionRecord.ofFile? (config.written s summary.shards.length) =
        some (entries.flatMap (config.recordsOf grammar)) ∧
      ∀ {i : Nat} {range : Nat × Nat},
        (shardRanges entries.length config.shards)[i]? = some range →
        (s.readFile? (shardPath config.outputDir i)).bind ExtractionRecord.ofFile? =
          some ((entriesIn entries range).flatMap (config.recordsOf grammar)) := by
  refine ⟨by rw [h.written, RunConfig.ofFile?_linesOf], fun hr => ?_⟩
  rw [(h.shards hr).2, Option.bind_some, RunConfig.ofFile?_linesOf]

/-! ## From shards to the run -/

/-- A sum over shards of what adds up over entries is that of all entries. -/
theorem RunSummary.total_zipIdx {grammar : Grammar} {config : RunConfig}
    {count : ShardSummary → Nat} {f : List SourceUnit → Nat} (nil : f [] = 0)
    (append : ∀ a b, f (a ++ b) = f a + f b)
    (counts : ∀ i units, count (config.summaryOf grammar i units) = f units)
    (parts : List (List SourceUnit)) (index : Nat) :
    total ⟨(parts.zipIdx index).map fun pair => config.summaryOf grammar pair.2 pair.1⟩ count =
      f parts.flatten := by
  unfold total
  induction parts generalizing index with
  | nil => exact nil.symm
  | cons units parts ih =>
    rw [List.zipIdx_cons, List.map_cons, List.foldr_cons, ih, List.flatten_cons, append, counts]

theorem RunConfig.written_of_parts {grammar : Grammar} {config : RunConfig} {s : Storage}
    {parts : List (List SourceUnit)}
    (files : ∀ {i : Nat} {units : List SourceUnit}, parts[i]? = some units →
      s.readFile? (shardPath config.outputDir i) = some (config.linesOf grammar units)) :
    config.written s parts.length = config.linesOf grammar parts.flatten := by
  have lists : List.range parts.length = parts.zipIdx.map Prod.snd := by
    rw [List.zipIdx_map_snd, List.range_eq_range']
  have each : ∀ pair ∈ parts.zipIdx,
      (s.readFile? (shardPath config.outputDir pair.2)).getD [] =
        config.linesOf grammar pair.1 := by
    rintro ⟨units, i⟩ mem
    rw [files (List.mem_zipIdx_iff_getElem?.1 mem), Option.getD_some]
  calc config.written s parts.length
      = parts.zipIdx.flatMap fun pair =>
          (s.readFile? (shardPath config.outputDir pair.2)).getD [] := by
        rw [written, lists, List.flatMap_map]
    _ = parts.zipIdx.flatMap fun pair => config.linesOf grammar pair.1 := by
        rw [List.flatMap_def, List.map_congr_left each, ← List.flatMap_def]
    _ = (parts.zipIdx.map Prod.fst).flatMap (config.linesOf grammar) := by rw [List.flatMap_map]
    _ = config.linesOf grammar parts.flatten := by rw [List.zipIdx_map_fst, linesOf_flatten]

/-- What a run leaves behind, from what its shards do. -/
theorem RunSummary.isOf_of_parts {grammar : Grammar} {config : RunConfig}
    {entries : List SourceUnit} {s : Storage} (pos : 0 < config.shards)
    (files : ∀ {i : Nat} {units : List SourceUnit}, (config.parts entries)[i]? = some units →
      s.readFile? (shardPath config.outputDir i) = some (config.linesOf grammar units)) :
    RunSummary.IsOf grammar config entries s
      ⟨(config.parts entries).zipIdx.map fun pair => config.summaryOf grammar pair.2 pair.1⟩ := by
  have flat : (config.parts entries).flatten = entries := by
    rw [RunConfig.parts, ← List.flatMap_def, flatMap_entriesIn_shardRanges entries pos]
  have written := RunConfig.written_of_parts files
  rw [flat] at written
  have count : ((config.parts entries).zipIdx.map
      fun pair => config.summaryOf grammar pair.2 pair.1).length =
        (config.parts entries).length := by
    rw [List.length_map, List.length_zipIdx]
  refine {
    written := by rw [count, written]
    lines := ⟨_, by rw [count, written, RunConfig.linesOf_eq], ?_⟩
    entries_eq := ?_
    skipped_eq := ?_
    records_eq := ?_
    length_eq := by rw [count, RunConfig.parts, List.length_map]
    shards := ?_ }
  · rw [splitLines_jsonLines, List.map_map]
    rfl
  · rw [RunSummary.entries, RunSummary.total_zipIdx (f := List.length) rfl
      (fun _ _ => List.length_append) (fun _ _ => rfl), flat]
  · rw [RunSummary.skipped, RunSummary.total_zipIdx (f := config.skipCount grammar) rfl
      RunConfig.skipCount_append (fun _ _ => rfl), flat]
  · rw [RunSummary.records, RunSummary.total_zipIdx (f := config.recordCount grammar) rfl
      RunConfig.recordCount_append (fun _ _ => rfl), flat]
  · intro i range hr
    have part : (config.parts entries)[i]? = some (entriesIn entries range) := by
      rw [RunConfig.parts, List.getElem?_map, hr, Option.map_some]
    refine ⟨?_, files part⟩
    rw [List.getElem?_map, List.getElem?_zipIdx, part]
    simp

end DocHarvest
