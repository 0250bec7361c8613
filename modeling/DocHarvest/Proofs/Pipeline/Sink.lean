import DocHarvest.Pipeline.Sink
import DocHarvest.Proofs.Json.Records
import DocHarvest.Proofs.Pipeline.ByteLines
import DocHarvest.Proofs.Pipeline.Files

/-!
# Writing source files and reading them back

Writing values one by one leaves the same file as writing all their lines at once
(`JsonSink.finish?_writeAll`). The lines of such a file, cut at the bytes of line feeds, are the
objects that were written (`Dataset.byteLines_jsonLines`), and each is read as the source file it
comes from (`SourceUnit.readJson_render`); so the dataset in the file is the one that was written
(`Dataset.ofBytes_of_writeAll`).
-/

namespace DocHarvest

open Text

/-! ## One value after another -/

namespace JsonSink

/-- One write takes its line to the end and counts it; so do several. -/
theorem writeAll_eq (sink : JsonSink) (values : List Json) :
    sink.writeAll values =
      { sink with
        pending := sink.pending ++ (jsonLines values).toBytes
        written := sink.written + values.length } := by
  induction values generalizing sink with
  | nil => simp [writeAll, jsonLines, toBytes]
  | cons value values ih =>
    have lines : (jsonLines (value :: values)).toBytes =
        (value.render ++ ['\n']).toBytes ++ (jsonLines values).toBytes := by
      rw [jsonLines, List.flatMap_cons, toBytes_append]
      rfl
    rw [writeAll, List.foldl_cons, ← writeAll, ih, write, lines]
    simp only [List.append_assoc, List.length_cons, Nat.add_assoc, Nat.add_comm 1]

/-- Values that are written one by one are the lines of the file. -/
theorem finish?_writeAll {s : Storage} {path : Text} {sink : JsonSink}
    (h : create? s path = some sink) (values : List Json) :
    ∃ s', s.writeJsonLines? path values = some s' ∧
      (sink.writeAll values).finish? = some (s', values.length) ∧
      s'.readFile? path = some (jsonLines values).toBytes := by
  rw [create?, Storage.writeFile?_eq, Option.map_map, Option.map_eq_some_iff] at h
  obtain ⟨place, target, rfl⟩ := h
  refine ⟨s.write place (jsonLines values).toBytes, ?_, ?_, Storage.readFile?_write target _⟩
  · rw [Storage.writeJsonLines?, Storage.writeFile?_eq, target, Option.map_some]
  · -- the file was empty, and the second write goes to the same place
    rw [writeAll_eq, finish?]
    simp only [Function.comp_apply, Storage.readFile?_write target, Storage.writeFile?_eq,
      Storage.target?_write target, target, Storage.write_write, Option.map_some,
      Option.bind_eq_bind, Option.bind_some, List.nil_append, Nat.zero_add]
    rfl

end JsonSink

/-! ## Lines of bytes -/

/-- An object is written on one line, which begins and ends with a brace. -/
theorem Dataset.byteLines_jsonLines (objects : List (List (Text × Json))) :
    byteLines (jsonLines (objects.map Json.object)).toBytes =
      objects.map fun members => (Json.object members).render.toBytes := by
  induction objects with
  | nil => rfl
  | cons members objects ih =>
    have newline : (10 : UInt8) ∉ (Json.object members).render.toBytes := fun mem =>
      Json.not_mem_render _ (mem_toBytes.1 mem)
    have brace : (Json.object members).render.toBytes.getLast? = some 125 := by
      rw [Json.render, toBytes_append]
      exact List.getLast?_concat
    have eq : (jsonLines ((members :: objects).map Json.object)).toBytes =
        (Json.object members).render.toBytes ++
          10 :: (jsonLines (objects.map Json.object)).toBytes := by
      rw [List.map_cons, jsonLines, List.flatMap_cons, ← jsonLines, toBytes_append, toBytes_append,
        List.append_assoc]
      rfl
    have last : (Json.object members).render.toBytes.getLast? ≠ some 13 := by
      rw [brace]
      decide
    rw [eq, (IsFirstLine.lineFeed newline last).byteLines_eq, ih, List.map_cons]

/-! ## Source files -/

/-- The members of the object that a source file is written as. -/
def SourceUnit.members (unit : SourceUnit) : List (Text × Text) :=
  [("repo".toList, unit.repo), ("path".toList, unit.path), ("language".toList, unit.language),
    ("license".toList, unit.license), ("code".toList, unit.code)]

theorem SourceUnit.toJson_eq (unit : SourceUnit) :
    unit.toJson = .object (Json.textMembers unit.members) := rfl

theorem SourceUnit.readJson_render (unit : SourceUnit) :
    schema.readJson unit.toJson.render = .ok unit := by
  rw [toJson_eq]
  refine Json.readJson_render (p := ⟨unit, ["code", "license", "language", "path", "repo"]⟩)
    (List.cons_ne_nil _ _) ?_ ?_
  · rfl
  · rfl

theorem Dataset.readLines_render (source : Text) (number : Nat) (units : List SourceUnit) :
    readLines source number (units.map fun unit => unit.toJson.render.toBytes) = .ok units := by
  induction units generalizing number with
  | nil => rfl
  | cons unit units ih =>
    have content : isBlankText unit.toJson.render = false := by
      rw [SourceUnit.toJson_eq, Json.render]
      rfl
    rw [List.map_cons, readLines, ofBytes?_toBytes]
    simp only [content, SourceUnit.readJson_render, ih]
    rfl

theorem Dataset.ofBytes_jsonLines (source : Text) (units : List SourceUnit) :
    ofBytes source (jsonLines (units.map SourceUnit.toJson)).toBytes = .ok ⟨units⟩ := by
  have objects : units.map SourceUnit.toJson =
      (units.map fun unit => Json.textMembers unit.members).map Json.object := by
    rw [List.map_map]
    rfl
  have lines := byteLines_jsonLines (units.map fun unit => Json.textMembers unit.members)
  rw [← objects, List.map_map] at lines
  rw [ofBytes, lines]
  exact congrArg (Except.map Dataset.mk) (readLines_render source 1 units)

/-- Source files that are written one by one are read back as they were, and their number is
counted. -/
theorem Dataset.ofBytes_of_writeAll {s : Storage} {path : Text} {sink : JsonSink}
    (h : JsonSink.create? s path = some sink) (units : List SourceUnit) :
    ∃ s' content, (sink.writeAll (units.map SourceUnit.toJson)).finish? = some (s', units.length) ∧
      s'.readFile? path = some content ∧
      ∀ source, ofBytes source content = .ok ⟨units⟩ := by
  obtain ⟨s', -, finish, content⟩ := JsonSink.finish?_writeAll h (units.map SourceUnit.toJson)
  rw [List.length_map] at finish
  exact ⟨s', _, finish, content, fun source => ofBytes_jsonLines source units⟩

/-- A source file with quotes, line ends, separators and control characters in its fields. -/
def SourceUnit.awkward : SourceUnit :=
  ⟨"\"\\".toList, "\r\n".toList, "\x00\x1f\x7f".toList, "\u2028\u2029é".toList, []⟩

theorem Dataset.ofBytes_of_writeAll_awkward :
    ∃ sink s' content, JsonSink.create? ⟨.empty, []⟩ "out.jsonl".toList = some sink ∧
      (sink.writeAll ([.awkward, .awkward].map SourceUnit.toJson)).finish? = some (s', 2) ∧
      s'.readFile? "out.jsonl".toList = some content ∧
      ∀ source, ofBytes source content = .ok ⟨[.awkward, .awkward]⟩ := by
  obtain ⟨sink, create⟩ : ∃ sink,
      JsonSink.create? ⟨.empty, []⟩ "out.jsonl".toList = some sink := ⟨_, rfl⟩
  obtain ⟨s', content, all⟩ := ofBytes_of_writeAll create [.awkward, .awkward]
  exact ⟨sink, s', content, create, all⟩

end DocHarvest
