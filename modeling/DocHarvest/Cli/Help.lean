import DocHarvest.Cli.Command

/-!
# Help

The texts that the program prints when it is asked for help or for its version.
-/

namespace DocHarvest.Cli

def Topic.lines : Topic → List String
  | program => [
    "Extracts function/docstring pairs from source corpora",
    "",
    "Usage: docpair <COMMAND>",
    "",
    "Commands:",
    "  extract    Extract documented definitions into sharded JSONL files",
    "  languages  Show supported languages",
    "  help       Print this message or the help of the given subcommand(s)",
    "",
    "Options:",
    "  -h, --help     Print help",
    "  -V, --version  Print version"]
  | extract => [
    "Extract documented definitions into sharded JSONL files",
    "",
    "Usage: docpair extract [OPTIONS]",
    "",
    "Options:",
    "      --language <LANGUAGE>    Only process entries of this language",
    "      --save-path <SAVE_PATH>  Directory the batch files are written to",
    "      --data-path <DATA_PATH>  JSONL file, or directory of JSONL files, to read",
    "  -s, --split <SHARDS>         Number of output shards",
    "      --workers <WORKERS>      Number of worker threads",
    "      --config <CONFIG>        YAML or JSON file with run settings; flags override its values",
    "  -h, --help                   Print help"]
  | languages => [
    "Show supported languages",
    "",
    "Usage: docpair languages",
    "",
    "Options:",
    "  -h, --help  Print help"]
  | help => [
    "Print this message or the help of the given subcommand(s)",
    "",
    "Usage: docpair help [COMMAND]...",
    "",
    "Arguments:",
    "  [COMMAND]...  Print help for the subcommand(s)"]

/-- The line that names the program and its version. -/
def versionLine : String := "docpair 0.1.0"

end DocHarvest.Cli
