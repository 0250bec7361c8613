import DocHarvest.Pipeline.Dataset
import DocHarvest.Pipeline.Shard

/-!
# Runs

A run writes the records of a dataset, shard by shard. Nothing is written before the settings and the
languages of all entries are known to be good; after that the first shard that fails ends the run.
-/

namespace DocHarvest

/-- What was done in a run. -/
structure RunSummary where
  shards : List ShardSummary := []
deriving DecidableEq

namespace RunSummary

def total (r : RunSummary) (count : ShardSummary → Nat) : Nat :=
  r.shards.foldr (fun shard sum => count shard + sum) 0

def entries (r : RunSummary) : Nat := r.total (·.entries)

/-- The number of entries that gave no records at all. -/
def skipped (r : RunSummary) : Nat := r.total (·.skipped)

def records (r : RunSummary) : Nat := r.total (·.records)

end RunSummary

/-- Runs shards that are numbered from `index` on, each with its entries. -/
def runShards (grammar : Grammar) (config : RunConfig) (s : Storage) (index : Nat) :
    List (List SourceUnit) → Except RunError (List ShardSummary) × Storage
  | [] => (.ok [], s)
  | units :: shards =>
    match runShard grammar config s index units with
    | (.error e, s) => (.error e, s)
    | (.ok summary, s) =>
      let (summaries, s) := runShards grammar config s (index + 1) shards
      (summaries.map (summary :: ·), s)

/-- The entries that a run goes through, if it can be done at all. -/
def admittedEntries (config : RunConfig) (d : Dataset) : Except RunError (List SourceUnit) := do
  config.validate
  let d ←
    match config.language with
    | some name => d.filterLanguage name
    | none => pure d
  d.entries.forM fun unit => (Language.resolve unit.language).map fun _ => ()
  return d.entries

/-- Writes the records of a dataset into the output directory. -/
def run (grammar : Grammar) (config : RunConfig) (s : Storage) (d : Dataset) :
    Except RunError RunSummary × Storage :=
  match admittedEntries config d with
  | .error e => (.error e, s)
  | .ok entries =>
    match s.makeDirectories config.outputDir with
    | (s, false) => (.error .io, s)
    | (s, true) =>
      let ranges := shardRanges entries.length config.shards
      let (summaries, s) := runShards grammar config s 0 (ranges.map (entriesIn entries))
      (summaries.map RunSummary.mk, s)

end DocHarvest
