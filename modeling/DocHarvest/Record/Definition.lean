import DocHarvest.Doc.FieldsJson
import DocHarvest.Source.Span

/-!
# What is known of a documented definition

`Definition` is what is found out about one documented function. Together with the provenance of its
file, the `SourceUnit`, it makes an `ExtractionRecord`, which is written as one JSON object.
-/

namespace DocHarvest

open Doc

/-- A source file and where it comes from. -/
structure SourceUnit where
  repo : Text
  path : Text
  language : Text
  license : Text
  code : Text
deriving DecidableEq

/-- The name and the signature of a function. -/
structure FunctionMetadata where
  identifier : Text
  parameters : Parameters
  returnType : Text := []
deriving DecidableEq

/-- The name of a class and the types it derives from. -/
structure ClassMetadata where
  identifier : Text
  superclasses : List Text := []
deriving DecidableEq

/-- What is found out about one documented function. -/
structure Definition where
  identifier : Text
  parameters : Parameters
  function : Text
  functionTokens : List Text
  writtenDocstring : Text
  docstring : Text
  docstringTokens : List Text
  docstringFields : DocFields
  comments : List Text
  start : Point
  stop : Point
deriving DecidableEq

/-- A documented function with the provenance of its file. -/
structure ExtractionRecord where
  repo : Text
  path : Text
  language : Text
  license : Text
  definition : Definition
deriving DecidableEq

/-- A definition with the provenance of the file that it was found in. -/
def ExtractionRecord.ofUnit (unit : SourceUnit) (definition : Definition) : ExtractionRecord :=
  ⟨unit.repo, unit.path, unit.language, unit.license, definition⟩

/-- A point as JSON: row and column. -/
def Point.toJson (p : Point) : Json := .array [.number p.row, .number p.column]

def textsJson (texts : List Text) : Json := .array (texts.map .text)

def SourceUnit.toJson (unit : SourceUnit) : Json :=
  .object [
    ("repo".toList, .text unit.repo),
    ("path".toList, .text unit.path),
    ("language".toList, .text unit.language),
    ("license".toList, .text unit.license),
    ("code".toList, .text unit.code)]

def ExtractionRecord.toJson (r : ExtractionRecord) : Json :=
  .object [
    ("repo".toList, .text r.repo),
    ("path".toList, .text r.path),
    ("language".toList, .text r.language),
    ("license".toList, .text r.license),
    ("identifier".toList, .text r.definition.identifier),
    ("parameters".toList, parametersJson r.definition.parameters),
    ("function".toList, .text r.definition.function),
    ("function_tokens".toList, textsJson r.definition.functionTokens),
    ("original_docstring".toList, .text r.definition.writtenDocstring),
    ("docstring".toList, .text r.definition.docstring),
    ("docstring_tokens".toList, textsJson r.definition.docstringTokens),
    ("docstring_param".toList, r.definition.docstringFields.toJson),
    ("comment".toList, textsJson r.definition.comments),
    ("start_point".toList, r.definition.start.toJson),
    ("end_point".toList, r.definition.stop.toJson)]

end DocHarvest
