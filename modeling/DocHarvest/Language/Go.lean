import DocHarvest.Language.Rules

/-!
# Go

Functions and methods of a file, documented by the comments right before them. A method has its
receiver as owner.
-/

namespace DocHarvest.Go

open Text Doc

/-- Methods of well-known interfaces. -/
def blacklist : List Text :=
  ["String", "Error", "Reset", "ProtoMessage", "Descriptor"].map String.toList

/-- What the names of generated methods begin with. -/
def generatedLead : Text := "XXX_".toList

/-- The names that a parameter declaration declares, with their common type. -/
def declared (param : Node) (source : SourceLines) : List (Text × Text) :=
  let variadic := param.kind = "variadic_parameter_declaration"
  if param.kind = "parameter_declaration" || variadic then
    let typeName := param.fieldText "type" source
    let typeName := if variadic then "...".toList ++ typeName else typeName
    (param.children.filter (·.kind = "identifier")).map fun name => (name.text source, typeName)
  else []

/-- The name and the signature of a function. -/
def functionMetadata (function : Node) (source : SourceLines) : FunctionMetadata where
  identifier := nameOf function source
  parameters := OrderedMap.ofList <|
    ((function.child? "parameters").map fun list =>
      list.children.flatMap (declared · source)).getD []
  returnType := function.fieldText "result" source

/-- The type of the receiver of a method, without pointer signs and type arguments. -/
def owner? (function : Node) (source : SourceLines) : Option Text := do
  let receiver ← function.child? "receiver"
  let param ← receiver.childOf? ["parameter_declaration"]
  let typeName ← param.child? "type"
  let typeName := dropLeading '*' (typeName.text source)
  nonBlank? (typeName.takeWhile (· ≠ '['))

/-- The block comment or the run of line comments right before a function. -/
def docComment (definition : DefinitionSite) (source : SourceLines) : Text :=
  match definition.previous with
  | none => []
  | some last =>
    if last.node.kind = "comment" && isAdjacent last.node definition.anchor then
      if beginsWith (last.node.text source) "/*".toList then
        trim (stripSlashMarkers (last.node.text source))
      else
        let run := commentRun last fun n =>
          n.kind = "comment" && beginsWith (n.text source) "//".toList
        trim (joinLines (run.map fun comment => stripSlashMarkers (comment.text source)))
    else []

/-- The functions and methods right inside a container. -/
def functions (container : Site) : List DefinitionSite :=
  definitionsIn container fun n =>
    if n.isOf ["function_declaration", "method_declaration"] then some n else none

/-- Where Go keeps its definitions and their documentation. -/
def rules : LanguageRules where
  name := "go"
  aliases := ["golang"]
  extensions := ["go"]
  docStyle := .plain
  commentKinds := ["comment"]
  stringKinds := ["interpreted_string_literal", "raw_string_literal"]
  stripComment := stripSlashMarkers
  isBlacklisted name := blacklist.contains name || beginsWith name generatedLead
  functions
  moduleFunctions root := functions { node := root }
  functionMetadata
  owner?
  docComment

end DocHarvest.Go
