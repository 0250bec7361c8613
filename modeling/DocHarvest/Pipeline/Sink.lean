import DocHarvest.Json.Value
import DocHarvest.Storage.Basic
import DocHarvest.Text.Bytes

/-!
# Files of lines

A `JsonSink` is a file that is written one JSON value after another, each on a line of its own. What
is written waits until the file is finished.
-/

namespace DocHarvest

/-- A file that is being written. -/
structure JsonSink where
  storage : Storage
  path : Text
  /-- What is not in the file yet. -/
  pending : Bytes := []
  /-- The number of lines. -/
  written : Nat := 0

namespace JsonSink

/-- Makes an empty file, in the place of one that is there. -/
def create? (s : Storage) (path : Text) : Option JsonSink :=
  (s.writeFile? path []).map fun storage => { storage, path }

/-- Writes a value as one line. -/
def write (sink : JsonSink) (value : Json) : JsonSink :=
  { sink with
    pending := sink.pending ++ (value.render ++ ['\n']).toBytes
    written := sink.written + 1 }

def writeAll (sink : JsonSink) (values : List Json) : JsonSink := values.foldl write sink

/-- Puts what is pending into the file, and gives the number of lines. -/
def finish? (sink : JsonSink) : Option (Storage × Nat) := do
  let content ← sink.storage.readFile? sink.path
  let storage ← sink.storage.writeFile? sink.path (content ++ sink.pending)
  return (storage, sink.written)

end JsonSink

end DocHarvest
