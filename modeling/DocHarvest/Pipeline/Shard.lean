import DocHarvest.Pipeline.Config
import DocHarvest.Record.Definition

/-!
# Shards

A dataset is cut into contiguous ranges of entries. Each range is a shard: its records go to a file of
its own, one JSON object on each line.

* `flatMap_entriesIn_shardRanges` : the ranges cover every entry once, in order
-/

namespace DocHarvest

/-! ## Ranges -/

/-- The ranges of entries, each with its start and its end. All have the same length but the last one,
which takes what is left over. There are no more ranges than entries. -/
def shardRanges (size shards : Nat) : List (Nat × Nat) :=
  let count := min shards size
  let chunk := size / count
  (List.range count).map fun i =>
    (i * chunk, if i + 1 = count then size else (i + 1) * chunk)

def entriesIn {α : Type} (entries : List α) (range : Nat × Nat) : List α :=
  (entries.drop range.1).take (range.2 - range.1)

/-- Consecutive pieces of one length make up a front part of the entries. -/
theorem flatMap_pieces {α : Type} (entries : List α) (chunk n : Nat) :
    (List.range n).flatMap (fun i => (entries.drop (i * chunk)).take chunk) =
      entries.take (n * chunk) := by
  induction n with
  | zero => simp
  | succ n ih => simp [List.range_succ, ih, Nat.succ_mul, List.take_add]

/-- With one shard at least, the ranges cover every entry once, in order. -/
theorem flatMap_entriesIn_shardRanges {α : Type} (entries : List α) {shards : Nat}
    (pos : 0 < shards) :
    (shardRanges entries.length shards).flatMap (entriesIn entries) = entries := by
  simp only [shardRanges]
  rcases hcount : min shards entries.length with _ | k
  · have empty : entries = [] := List.length_eq_zero_iff.1 (by omega)
    simp [empty]
  · generalize entries.length / (k + 1) = chunk
    have inner : ∀ i ∈ List.range k,
        entriesIn entries (i * chunk,
          if i + 1 = k + 1 then entries.length else (i + 1) * chunk) =
          (entries.drop (i * chunk)).take chunk := by
      intro i hi
      have below : i ≠ k := Nat.ne_of_lt (List.mem_range.1 hi)
      simp [entriesIn, below, Nat.succ_mul]
    have last : (entries.drop (k * chunk)).take (entries.length - k * chunk) =
        entries.drop (k * chunk) := List.take_of_length_le (by simp)
    simp only [List.flatMap_map, List.range_succ, List.flatMap_append, List.flatMap_singleton]
    rw [List.flatMap_def, List.map_congr_left inner, ← List.flatMap_def, flatMap_pieces]
    simp [entriesIn, last]

def shardPath (dir : Text) (index : Nat) : Text :=
  Path.join dir ("batch_".toList ++ Text.decimal index ++ "_data.jsonl".toList)

/-! ## Lines -/

def jsonLines (values : List Json) : Text := values.flatMap fun value => value.render ++ ['\n']

def Storage.writeJsonLines? (s : Storage) (path : Text) (values : List Json) : Option Storage :=
  s.writeFile? path (jsonLines values).toBytes

/-! ## Entries -/

/-- How the syntax tree of a source file is found. -/
abbrev Grammar := Language → Text → Node

/-- The records of a source file with a given syntax tree. Definitions whose documentation has too few
or too many words are left out. -/
def LanguageRules.records (rules : LanguageRules) (options : ExtractOptions) (bounds : TokenBounds)
    (tree : Node) (unit : SourceUnit) : Except SkipReason (List ExtractionRecord) :=
  (rules.extract tree unit.code options).map fun definitions =>
    (definitions.filter fun d => bounds.admits d.docstringTokens.length).map
      (ExtractionRecord.ofUnit unit)

/-- What the entries of a shard give. -/
structure ShardContent where
  records : List ExtractionRecord := []
  /-- The number of entries that give no records at all. -/
  skipped : Nat := 0

/-- What the entries give up to the first one whose language is not supported, and the error of that
one. -/
def shardContent (grammar : Grammar) (config : RunConfig) :
    List SourceUnit → ShardContent × Option RunError
  | [] => ({}, none)
  | unit :: units =>
    match Language.resolve unit.language with
    | .error e => ({}, some e)
    | .ok language =>
      let (content, fault) := shardContent grammar config units
      match language.rules.records config.extractOptions config.bounds
          (grammar language unit.code) unit with
      | .ok records => ({ content with records := records ++ content.records }, fault)
      | .error _ => ({ content with skipped := content.skipped + 1 }, fault)

/-- What was done for a shard. -/
structure ShardSummary where
  index : Nat
  entries : Nat
  /-- The number of entries that give no records at all. -/
  skipped : Nat
  records : Nat
  path : Text
deriving DecidableEq

/-- Writes the records of a shard. What comes before an error is written. -/
def runShard (grammar : Grammar) (config : RunConfig) (s : Storage) (index : Nat)
    (units : List SourceUnit) : Except RunError ShardSummary × Storage :=
  let path := shardPath config.outputDir index
  let (content, fault) := shardContent grammar config units
  match s.writeJsonLines? path (content.records.map ExtractionRecord.toJson) with
  | none => (.error .io, s)
  | some s =>
    match fault with
    | some e => (.error e, s)
    | none =>
      (.ok ⟨index, units.length, content.skipped, content.records.length, path⟩, s)

end DocHarvest
