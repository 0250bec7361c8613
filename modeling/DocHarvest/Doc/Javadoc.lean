import DocHarvest.Doc.Block

/-!
# Javadoc and JSDoc

A block is a keyword, a type between braces, for a parameter its name, and a description. An optional
parameter stands between square brackets, with a default after an equals sign, or has a type that
ends in one. An exception may name its type without braces.
-/

namespace DocHarvest.Doc.Javadoc

open Text

/-- A tag with the type that was written between braces. -/
def withBracedType (tag : DocTag) (written : Text) : DocTag :=
  match dropTail? ['='] (trim written) with
  | some base => { tag with optional := some true }.withType (some (trim base))
  | none => tag.withType (some (trim written))

/-- The description of a parameter, which a dash may set off. -/
def paramDescription (t : Text) : Text :=
  let t := trimStart t
  (dropLead? "- ".toList t).getD t

/-- Reads the name of a parameter and its description. -/
def readParam (tag : DocTag) (t : Text) : Except DocError DocTag := do
  match ← leadingBracket? '[' ']' tag.keyword t with
  | some (inner, rest) =>
    let (name, default) :=
      match splitOnce '=' inner with
      | some (name, default) => (trim name, nonBlank? default)
      | none => (trim inner, none)
    if name.isEmpty then .error (.missingArgName tag.keyword)
    else
      .ok ({ tag with argName := some name, default, optional := some true }.withDescription
        (paramDescription rest))
  | none =>
    let (name, rest) := splitFirstWord t
    if name.isEmpty then .error (.missingArgName tag.keyword)
    else .ok ({ tag with argName := some name }.withDescription (paramDescription rest))

def readBlock (block : Text) : Except DocError DocTag := do
  let (keyword, rest) := blockKeyword block
  let rest := trimStart rest
  let tag : DocTag := { keyword }
  let (tag, rest) :=
    match ← leadingBracket? '{' '}' keyword rest with
    | some (written, rest) => (withBracedType tag written, trimStart rest)
    | none => (tag, rest)
  match tag.kind, tag.typeName with
  | .param, _ => readParam tag rest
  | .raises, none =>
    let (exception, rest) := splitFirstWord rest
    return (tag.withType (nonBlank? exception)).withDescription rest
  | _, _ => return tag.withDescription rest

/-- Reads a comment. -/
def read (t : Text) : Except DocError StructuredDoc := readBlocks readBlock t

end DocHarvest.Doc.Javadoc
