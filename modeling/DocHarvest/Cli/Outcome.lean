import DocHarvest.Cli.Help
import DocHarvest.Pipeline.Run

/-!
# What the program does

`Command.execute` says what the program prints, with which code it ends, and what it leaves behind.
-/

namespace DocHarvest.Cli

/-- What the program prints and how it ends. -/
structure Outcome where
  /-- The code with which the program ends: zero, one after a failure, two for bad arguments. -/
  exit : Nat
  output : List Text := []
  failure : Option Text := none
  storage : Storage

/-- What the program prints, as one text. -/
def Outcome.printed (o : Outcome) : Text := o.output.flatMap (· ++ ['\n'])

/-- The settings of an extraction: those of a file, changed by what is given on the command line. -/
def ExtractArguments.apply (a : ExtractArguments) (config : RunConfig) : RunConfig :=
  { config with
    language := a.language <|> config.language
    outputDir := a.savePath.getD config.outputDir
    dataPath := a.dataPath.getD config.dataPath
    shards := a.shards.getD config.shards
    workers := a.workers <|> config.workers }

/-- The message for a failure in one of the steps of an extraction. -/
def failed (s : Storage) (step : String) (path : Text := []) : Outcome :=
  { exit := 1, failure := some ("Error: ".toList ++ step.toList ++ path), storage := s }

/-- The settings of an extraction, unless their file cannot be read. -/
def ExtractArguments.settings (a : ExtractArguments) (s : Storage) : Except RunError RunConfig :=
  match a.config with
  | none => .ok (a.apply {})
  | some path => (RunConfig.ofFile s path).map a.apply

/-- Extracts the records of a dataset. -/
def extract (grammar : Grammar) (s : Storage) (a : ExtractArguments) : Outcome :=
  match a.settings s with
  | .error _ => failed s "Failed to load config " (a.config.getD [])
  | .ok config =>
    match Dataset.load s config.dataPath config.datasetGlob with
    | .error _ => failed s "Failed to load dataset " config.dataPath
    | .ok d =>
      match run grammar config s d with
      | (.error _, s) => failed s "Extraction failed"
      | (.ok summary, s) =>
        { exit := 0
          output := ["Extracted ".toList ++ Text.decimal summary.records ++ " samples from ".toList
            ++ Text.decimal summary.entries ++ " entries into ".toList ++ config.outputDir]
          storage := s }

/-- Names with commas between them. -/
def listed (names : List String) : Text := (", ".intercalate names).toList

def languageLine (l : Language) : Text :=
  let aliases := l.rules.aliases
  "  ".toList ++ l.name.toList ++ " (extensions: ".toList ++ listed l.rules.extensions ++ [')'] ++
    if aliases.isEmpty then [] else ", aliases: ".toList ++ listed aliases

/-- Does what the program is asked to do. -/
def Command.execute (grammar : Grammar) (s : Storage) : Command → Outcome
  | extract a => Cli.extract grammar s a
  | languages =>
    { exit := 0
      output := "Supported languages:".toList :: Language.all.map languageLine
      storage := s }
  | help topic => { exit := 0, output := topic.lines.map String.toList, storage := s }
  | version => { exit := 0, output := [versionLine.toList], storage := s }

def answer (grammar : Grammar) (s : Storage) (arguments : List Text) : Outcome :=
  match Command.ofArguments? arguments with
  | some command => command.execute grammar s
  | none => { exit := 2, storage := s }

end DocHarvest.Cli
