import DocHarvest.Glob.Match
import DocHarvest.Json.Record
import DocHarvest.Pipeline.Error
import DocHarvest.Record.Definition
import DocHarvest.Storage.Basic

/-!
# Datasets

A `Dataset` is the list of source files that a run goes through. It is read from lines of JSON, each
with one source file; a line that cannot be read makes the whole dataset unusable.
-/

namespace DocHarvest

/-- How a source file is written. -/
def SourceUnit.schema : Schema SourceUnit where
  title := "struct SourceUnit"
  fields := [
    ⟨"repo", ["repo_name"], .text fun v u => { u with repo := v }⟩,
    ⟨"path", [], .text fun v u => { u with path := v }⟩,
    ⟨"language", [], .text fun v u => { u with language := v }⟩,
    ⟨"license", [], .text fun v u => { u with license := v }⟩,
    ⟨"code", [], .text fun v u => { u with code := v }⟩]
  blank := ⟨[], [], [], [], []⟩
  complete := true

/-- The source files of a run, in order. -/
structure Dataset where
  entries : List SourceUnit
deriving DecidableEq

namespace Dataset

def size (d : Dataset) : Nat := d.entries.length

/-- Whether there are no entries. -/
def isEmpty (d : Dataset) : Bool := d.entries.isEmpty

/-- The lines of a file, without their ends. A carriage return belongs to the line feed behind it; a
last line without a line feed keeps it. -/
def byteLines : Bytes → List Bytes
  | [] => []
  | b :: bytes =>
    if b = 10 then [] :: byteLines bytes
    else
      match byteLines bytes, bytes with
      | [], _ => [[b]]
      | line :: lines, next :: _ =>
        if b = 13 && next = 10 then line :: lines else (b :: line) :: lines
      | line :: lines, [] => (b :: line) :: lines

/-- The entries on lines that are numbered from `number` on. Lines without content are passed over. -/
def readLines (source : Text) (number : Nat) : List Bytes → Except RunError (List SourceUnit)
  | [] => .ok []
  | line :: lines =>
    match Text.ofBytes? line with
    | none => .error .io
    | some text =>
      if text.isBlankText then readLines source (number + 1) lines
      else
        match SourceUnit.schema.readJson text with
        | .error e => .error (.badEntry source number e)
        | .ok unit => (readLines source (number + 1) lines).map (unit :: ·)

/-- The dataset in the bytes of a file; `source` names it in errors. -/
def ofBytes (source : Text) (content : Bytes) : Except RunError Dataset :=
  (readLines source 1 (byteLines content)).map Dataset.mk

/-- The dataset in a file at a place in a directory. -/
def ofFile (dir : Text) (place : List Text) (content : Bytes) : Except RunError Dataset :=
  let path := Path.joinAll dir place
  if Path.isUsable path then ofBytes path content else .error .io

/-- What is read where a walk through a directory comes by: nothing from a directory, which must have
a usable path, and nothing from a file that does not match the pattern. -/
def readVisit (dir : Text) (glob : Glob) : List Text × FileTree → Except RunError (List SourceUnit)
  | (place, .directory _) => if Path.isUsable (Path.joinAll dir place) then .ok [] else .error .walk
  | (place, .file content) =>
    if glob.isMatch (Text.join '/' place) then (ofFile dir place content).map entries else .ok []

/-- The dataset in a file, or in the files of a directory whose paths inside it match a pattern, one
after another. -/
def load (s : Storage) (path glob : Text) : Except RunError Dataset :=
  match s.find? path with
  | some (.file content) => ofBytes path content
  | found =>
    match Glob.ofText? glob, found with
    | none, _ => .error .glob
    | some _, none => .error .walk
    | some glob, some tree => (tree.walk.mapM (readVisit path glob)).map fun parts => ⟨parts.flatten⟩

/-- Only the entries of one language, under any of its names. -/
def filterLanguage (d : Dataset) (name : Text) : Except RunError Dataset :=
  (Language.resolve name).map fun wanted =>
    ⟨d.entries.filter fun unit => Language.ofName? unit.language = some wanted⟩

end Dataset

end DocHarvest
