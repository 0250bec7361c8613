import DocHarvest.Proofs.Doc.FieldsJson
import DocHarvest.Proofs.Text.Runs
import DocHarvest.Proofs.Traversal
import DocHarvest.Record.Definition

/-!
# Written records

A record is one object, with the names of `ExtractionRecord.fieldNames` in their order.
`ExtractionRecord.ofJson?` reads such an object and no other, so that `ofLine?_render` says both: a
written record has every field in its place, and all of them come back from its text.

The documented fields are read in their places as well, whatever their names are
(`DocFields.ofJson?_toJson`). Looked up by name they are found only where no name repeats
(`StructuredDoc.isReadBack_iff`).
-/

namespace DocHarvest

open Text Doc

/-! ## Values -/

namespace Json

def number? : Json → Option Nat
  | number n => some n
  | _ => none

def texts? (j : Json) : Option (List Text) := j.items?.bind (·.mapM text?)

/-- A map from its members, each of which has a value that can be read. -/
def entries? {α : Type} (value? : Json → Option α) (members : List (Text × Json)) :
    Option (OrderedMap α) :=
  (members.mapM fun member => (value? member.2).map (member.1, ·)).map OrderedMap.mk

theorem texts?_textsJson (texts : List Text) : (textsJson texts).texts? = some texts :=
  mapM_map_eq_some fun _ _ => rfl

theorem entries?_map {α : Type} {value? : Json → Option α} {write : α → Json}
    (h : ∀ a, value? (write a) = some a) (m : OrderedMap α) :
    entries? value? (m.entries.map fun (name, a) => (name, write a)) = some m := by
  have read : (m.entries.map fun (name, a) => (name, write a)).mapM
      (fun member => (value? member.2).map (member.1, ·)) = some m.entries :=
    mapM_map_eq_some fun entry _ => by rw [h, Option.map_some]
  rw [entries?, read, Option.map_some]

end Json

open Json

def Point.ofJson? : Json → Option Point
  | .array [row, column] => return ⟨← row.number?, ← column.number?⟩
  | _ => none

theorem Point.ofJson?_toJson (p : Point) : ofJson? p.toJson = some p := rfl

/-- The documented fields: first the names outside the signature, then the parameters, and from the
first array on the tags. -/
def Doc.DocFields.ofJson? : Json → Option DocFields
  | .object ((name, .object others) :: members) =>
    if name = othersName then do
      return {
        others := ← entries? FieldDoc.ofJson? others
        params := ← entries? FieldDoc.ofJson? (members.takeWhile (·.2.items?.isNone))
        tags := ← entries? FieldDoc.listOfJson? (members.dropWhile (·.2.items?.isNone)) }
    else none
  | _ => none

theorem Doc.DocFields.ofJson?_toJson (fields : DocFields) :
    ofJson? fields.toJson = some fields := by
  have params := entries?_map FieldDoc.ofJson?_toJson fields.params
  have others := entries?_map FieldDoc.ofJson?_toJson fields.others
  have tags := entries?_map FieldDoc.listOfJson?_array fields.tags
  have entry : ∀ m ∈ fields.params.entries.map fun e => (e.1, e.2.toJson),
      m.2.items?.isNone = true := by
    intro m hm
    obtain ⟨e, -, rfl⟩ := List.mem_map.1 hm
    rfl
  have array : ∀ m ∈ (fields.tags.entries.map fun e =>
      (e.1, Json.array (e.2.map FieldDoc.toJson))).head?, m.2.items?.isNone = false := by
    intro m hm
    obtain ⟨e, -, rfl⟩ := List.mem_map.1 (List.mem_of_head? hm)
    rfl
  obtain ⟨front, back⟩ := takeWhile_append_of_stop entry array
  rw [toJson, List.cons_append, ofJson?, if_pos rfl, front, back, params, others, tags]
  rfl

/-! ## Records -/

namespace ExtractionRecord

/-- The names of the fields as they are written. -/
def fieldNames : List Text :=
  ["repo", "path", "language", "license", "identifier", "parameters", "function",
    "function_tokens", "original_docstring", "docstring", "docstring_tokens", "docstring_param",
    "comment", "start_point", "end_point"].map String.toList

/-- A record from the values of its fields. -/
def ofValues? : List Json → Option ExtractionRecord
  | [repo, path, language, license, identifier, .object parameters, function, functionTokens,
      writtenDocstring, docstring, docstringTokens, docstringFields, comments, start, stop] => do
    return {
      repo := ← repo.text?
      path := ← path.text?
      language := ← language.text?
      license := ← license.text?
      definition := {
        identifier := ← identifier.text?
        parameters := ← entries? text? parameters
        function := ← function.text?
        functionTokens := ← functionTokens.texts?
        writtenDocstring := ← writtenDocstring.text?
        docstring := ← docstring.text?
        docstringTokens := ← docstringTokens.texts?
        docstringFields := ← DocFields.ofJson? docstringFields
        comments := ← comments.texts?
        start := ← Point.ofJson? start
        stop := ← Point.ofJson? stop } }
  | _ => none

def ofJson? : Json → Option ExtractionRecord
  | .object members =>
    if members.map Prod.fst = fieldNames then ofValues? (members.map Prod.snd) else none
  | _ => none

theorem ofJson?_toJson (r : ExtractionRecord) : ofJson? r.toJson = some r := by
  have parameters := @entries?_map Text text? text (fun _ => rfl) r.definition.parameters
  simp [ofJson?, toJson, fieldNames, ofValues?, parametersJson, text?, texts?_textsJson, parameters,
    DocFields.ofJson?_toJson, Point.ofJson?_toJson]

/-- The record that is written on a line. -/
def ofLine? (line : Text) : Option ExtractionRecord := (Json.parse? line).bind ofJson?

/-- A record comes back from its line with all its fields. -/
theorem ofLine?_render (r : ExtractionRecord) : ofLine? r.toJson.render = some r := by
  rw [ofLine?, Json.parse?_render, Option.bind_some, ofJson?_toJson]

end ExtractionRecord

end DocHarvest
