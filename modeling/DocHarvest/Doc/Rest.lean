import DocHarvest.Doc.StructuredDoc
import DocHarvest.Doc.Indent
import DocHarvest.Doc.DefaultValue

/-!
# Field lists of reStructuredText

A field starts at a line `:keyword arguments: description` and runs to the next one. Types may stand
in fields of their own, which apply to the field that they name wherever that is.
-/

namespace DocHarvest.Doc.Rest

open Text

def fieldKeywords : List Text :=
  ["param", "parameter", "arg", "argument", "key", "keyword", "type", "return", "returns", "rtype",
    "raise", "raises", "except", "exception", "yield", "yields", "ytype"].map String.toList

/-- Whether a line starts a field: a colon and the whole of a keyword. -/
def startsField (line : Text) : Bool :=
  match trimStart line with
  | ':' :: t => fieldKeywords.contains (t.takeWhile Unicode.isWordChar)
  | _ => false

/-- The fields of a text, each with the lines that follow it; the first component holds the lines
before the first field. -/
def gatherFields : List Text → List Text × List (List Text)
  | [] => ([], [])
  | line :: ls =>
    let (before, fields) := gatherFields ls
    if startsField line then ([], (trimStart line :: before) :: fields)
    else (line :: before, fields)

/-- The description of a field: its first line, and the following ones without their common
indentation. -/
def fieldDescription (t : Text) : Text :=
  match splitOnce '\n' (trimStart t) with
  | some (first, rest) => trim (trim first ++ '\n' :: dedent ('\n' :: rest))
  | none => trim t

def fieldTag (keyword : Text) (arguments : List Text) (description field : Text) :
    Except DocError DocTag :=
  let tag := ({ keyword } : DocTag).withDescription description
  match tag.kind, arguments with
  | .param, [name] =>
    .ok { tag with argName := some name, default := defaultIn? tag.description }
  | .param, [typeName, name] =>
    let tag := { tag with argName := some name, default := defaultIn? tag.description }
    match dropTail? ['?'] typeName with
    | some base => .ok ({ tag with optional := some true }.withType (some base))
    | none => .ok (tag.withType (some typeName))
  | .param, _ => .error (.missingArgName keyword)
  | .other, _ => .ok tag
  | _, [] => .ok tag
  | _, [typeName] => .ok (tag.withType (some typeName))
  | _, _ => .error (.unexpectedArguments field)

/-- What a field says. -/
inductive Field where
  | tag (tag : DocTag)
  | typeOf (name typeName : Text)
  | returnType (typeName : Option Text)
  | yieldType (typeName : Option Text)

def readField (field : Text) : Except DocError Field :=
  match splitOnce ':' (field.drop 1) with
  | none => .error (.missingColon field)
  | some (head, description) =>
    let description := fieldDescription description
    match words head with
    | [] => .error (.unexpectedArguments field)
    | keyword :: arguments =>
      if keyword = "type".toList && arguments.length = 1 then
        .ok (.typeOf (arguments.headD []) description)
      else if keyword = "rtype".toList && arguments.isEmpty then
        .ok (.returnType (nonBlank? description))
      else if keyword = "ytype".toList && arguments.isEmpty then
        .ok (.yieldType (nonBlank? description))
      else (fieldTag keyword arguments description field).map .tag

/-- The tag that a field is, if it is one. -/
def Field.tag? : Field → Option DocTag
  | .tag t => some t
  | _ => none

/-- The type that the first field about a name gives it. -/
def typeOf? (fields : List Field) (name : Text) : Option Text :=
  (fields.findSome? fun
    | .typeOf n typeName => if n = name then some typeName else none
    | _ => none).bind nonBlank?

/-- The type of the result: the last one counts, even if it is blank. -/
def returnType? (fields : List Field) : Option Text :=
  (fields.reverse.findSome? fun | .returnType typeName => some typeName | _ => none).join

/-- The type of the values handed out: the last one counts, even if it is blank. -/
def yieldType? (fields : List Field) : Option Text :=
  (fields.reverse.findSome? fun | .yieldType typeName => some typeName | _ => none).join

/-- A tag with the type that another field gives it, if it has none of its own. -/
def withFieldType (fields : List Field) (tag : DocTag) : DocTag :=
  match tag.typeName with
  | some _ => tag
  | none =>
    match tag.kind with
    | .param => { tag with typeName := tag.argName.bind (typeOf? fields) }
    | .returns => { tag with typeName := returnType? fields }
    | .yields => { tag with typeName := yieldType? fields }
    | .raises | .other => tag

/-- Reads a docstring. -/
def read (t : Text) : Except DocError StructuredDoc := do
  let (before, fields) := gatherFields (lines (dedent t))
  let fields ← (fields.map joinLines).mapM readField
  return { StructuredDoc.ofDescription (joinLines before) with
    tags := (fields.filterMap Field.tag?).map (withFieldType fields) }

end DocHarvest.Doc.Rest
