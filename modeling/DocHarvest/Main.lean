import DocHarvest.Cli.Outcome
import DocHarvest.Source.Listing

/-!
# The program

Reads the files that a command needs into a `Storage`, lets `Cli.answer` decide what to do, and writes
what has changed. The syntax trees of source files come from a listing, which the environment variable
`SYNTAX_TREES` names.
-/

namespace DocHarvest.Main

/-! ## Reading -/

/-- A file or a directory with all that is in it. -/
partial def snapshot (entry : IO.FS.DirEntry) : IO FileTree := do
  if ← entry.path.isDir then
    let entries ← entry.path.readDir
    return .directory (← entries.toList.mapM fun below => do
      return (below.fileName.toList, ← snapshot below))
  else return .file (← IO.FS.readBinFile entry.path).toList

/-- The storage with what is under a path, if there is anything. -/
def load (s : Storage) (path : Text) : IO Storage := do
  let entry : IO.FS.DirEntry := { root := ← IO.currentDir, fileName := String.ofList path }
  if !path.isEmpty && (← entry.path.pathExists) then return s.graft path (← snapshot entry)
  else return s

/-- The storage with all that an extraction reads, and its output directory. -/
def loadFor (s : Storage) (a : Cli.ExtractArguments) : IO Storage := do
  let s ← match a.config with
    | some path => load s path
    | none => pure s
  match a.settings s with
  | .ok config => load (← load s config.dataPath) config.outputDir
  | .error _ => return s

/-- The node of a source file that no tree is known for. -/
def bareNode : Node :=
  .mk
    { kind := "", named := true, startByte := 0, endByte := 0, start := ⟨0, 0⟩, stop := ⟨0, 0⟩,
      field := none, place := 0 } []

def grammarOf (trees : List ListedTree) : Grammar := fun language code =>
  match trees.find? fun t => t.code = code && Language.ofName? t.language = some language with
  | some t => t.tree
  | none => bareNode

/-- The syntax trees that the environment names. -/
def loadGrammar : IO Grammar := do
  match ← IO.getEnv "SYNTAX_TREES" with
  | none => return grammarOf []
  | some path =>
    let content ← IO.FS.readBinFile path
    return grammarOf (((Text.ofBytes? content.toList).bind ListedTree.ofText?).getD [])

/-! ## Writing -/

/-- Writes what has changed. -/
def store (before after : Storage) : IO Unit := do
  for (place, content) in Storage.changedFiles before after do
    let dir := '/' :: Text.join '/' place.dropLast
    IO.FS.createDirAll (String.ofList dir)
    IO.FS.writeBinFile (String.ofList ('/' :: Text.join '/' place)) ⟨content.toArray⟩

/-- Seconds with two places. -/
def seconds (milliseconds : Nat) : String :=
  let hundredths := (milliseconds + 5) / 10
  let part := toString (hundredths % 100)
  toString (hundredths / 100) ++ "." ++ (if part.length = 1 then "0" ++ part else part)

/-- Does what the program is asked to do; `before` holds the files that it needs. -/
def perform (command : Cli.Command) (before : Storage) : IO UInt32 := do
  let started ← IO.monoMsNow
  let outcome := command.execute (← loadGrammar) before
  store before outcome.storage
  match command with
  | .extract a =>
    if let (.ok config, 0) := (a.settings before, outcome.exit) then
      IO.FS.createDirAll (String.ofList config.outputDir)
      IO.println ("Elapsed: " ++ seconds ((← IO.monoMsNow) - started) ++ "s")
  | _ => pure ()
  IO.print (String.ofList outcome.printed)
  if let some failure := outcome.failure then
    IO.eprintln (String.ofList failure)
  return outcome.exit.toUInt32

/-- Runs the program. -/
def start (arguments : List String) : IO UInt32 := do
  match Cli.Command.ofArguments? (arguments.map String.toList) with
  | none =>
    for line in Cli.Topic.program.lines do
      IO.eprintln line
    return 2
  | some command =>
    let here := (← IO.currentDir).toString.toList
    let place := (Path.pieces here).filter fun piece => !piece.isEmpty
    let s : Storage := ⟨FileTree.empty.put place .empty, place⟩
    let s ← match command with
      | .extract a => loadFor s a
      | _ => pure s
    perform command s

end DocHarvest.Main

/-- The program. -/
def main (arguments : List String) : IO UInt32 := DocHarvest.Main.start arguments
