import DocHarvest.Json.Record
import DocHarvest.Pipeline.Error
import DocHarvest.Storage.Basic
import DocHarvest.Yaml.Record

/-!
# Settings of a run

A `RunConfig` says what is read, what is kept and where it goes. Every setting has a default, so a
file only has to name those that it changes.

* `validate_eq_ok` : the settings that are accepted
-/

namespace DocHarvest

/-- Bounds on the number of words of documentation; both are outside. -/
structure TokenBounds where
  least : Nat := 3
  greatest : Nat := 256
deriving DecidableEq

/-- Whether a number lies between the bounds. -/
def TokenBounds.admits (bounds : TokenBounds) (count : Nat) : Bool :=
  bounds.least < count && count < bounds.greatest

/-- The settings of a run. -/
structure RunConfig where
  /-- The only language whose files are read. -/
  language : Option Text := none
  /-- A file of entries, or a directory of such files. -/
  dataPath : Text := "./cache".toList
  /-- Where the files of the shards are written. -/
  outputDir : Text := "./data".toList
  shards : Nat := 40
  /-- The number of workers, where it is not that of the processors. -/
  workers : Option Nat := none
  bounds : TokenBounds := {}
  /-- Whether a function whose body fits on one row is left out. -/
  skipSingleLineBodies : Bool := true
  /-- The files to read if `dataPath` is a directory. -/
  datasetGlob : Text := "**/*.jsonl".toList
deriving DecidableEq

namespace RunConfig

/-- How settings are written. -/
def schema : Schema RunConfig where
  title := "struct PipelineConfig"
  fields := [
    ⟨"language", [], .optionalText fun v c => { c with language := v }⟩,
    ⟨"data_path", [], .path fun v c => { c with dataPath := v }⟩,
    ⟨"output_dir", [], .path fun v c => { c with outputDir := v }⟩,
    ⟨"shards", [], .count fun v c => { c with shards := v }⟩,
    ⟨"workers", [], .count fun v c => { c with workers := some v }⟩,
    ⟨"min_docstring_tokens", [], .count fun v c => { c with bounds := { c.bounds with least := v } }⟩,
    ⟨"max_docstring_tokens", [],
      .count fun v c => { c with bounds := { c.bounds with greatest := v } }⟩,
    ⟨"skip_single_line_bodies", [], .flag fun v c => { c with skipSingleLineBodies := v }⟩,
    ⟨"dataset_glob", [], .text fun v c => { c with datasetGlob := v }⟩]
  blank := {}
  complete := false

def ofJson (text : Text) : Except RunError RunConfig :=
  (schema.readJson text).mapError .json

def ofYaml (text : Text) : Except RunError RunConfig :=
  match schema.readYaml? text with
  | some config => .ok config
  | none => .error .yaml

/-- Whether the name of a file ends like that of a JSON file. -/
def isJsonPath (path : Text) : Bool :=
  (Path.extension? path).any fun e => Text.lowerAscii e = "json".toList

/-- Settings from a file: JSON if its name ends so, otherwise YAML. -/
def ofFile (s : Storage) (path : Text) : Except RunError RunConfig :=
  match (s.readFile? path).bind Text.ofBytes? with
  | none => .error .io
  | some text => if isJsonPath path then ofJson text else ofYaml text

/-- Refuses settings with which no run can succeed. -/
def validate (c : RunConfig) : Except RunError Unit :=
  if c.shards = 0 then .error (.invalidConfig .noShards)
  else if c.workers = some 0 then .error (.invalidConfig .noWorkers)
  else if c.bounds.greatest ≤ c.bounds.least then
    .error (.invalidConfig (.boundsCrossed c.bounds.least c.bounds.greatest))
  else .ok ()

theorem validate_eq_ok {c : RunConfig} :
    c.validate = .ok () ↔ c.shards ≠ 0 ∧ c.workers ≠ some 0 ∧ c.bounds.least < c.bounds.greatest := by
  unfold validate
  split
  · next h => simp [h]
  · next h =>
    split
    · next h' => simp [h']
    · next h' =>
      split
      · next h'' => simp [h, h', Nat.not_lt.2 h'']
      · next h'' => simp [h, h', Nat.not_le.1 h'']

/-- What decides which definitions are kept. -/
def extractOptions (c : RunConfig) : ExtractOptions := ⟨c.skipSingleLineBodies⟩

end RunConfig

end DocHarvest
