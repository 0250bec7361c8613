import DocHarvest.Language.Rules

/-!
# Python

Functions of a file and methods of its classes, decorated or not. The string that opens the body of a
function documents it, in one of several conventions.
-/

namespace DocHarvest.Python

open Text Doc

/-- Hooks of test cases. -/
def blacklist : List Text := ["setUp", "tearDown", "setUpClass", "tearDownClass"].map String.toList

/-- Receivers, which are no part of the documented signature. -/
def receivers : List Text := ["self", "cls"].map String.toList

/-- The definition of a kind that a node is, perhaps behind decorators. -/
def definitionOf? (kind : String) (n : Node) : Option Node := do
  let n ← if n.kind = "decorated_definition" then n.child? "definition" else some n
  if n.kind = kind then some n else none

/-- The string that opens the body of a function. -/
def docNode? (function : Node) : Option Node := do
  let body ← function.child? "body"
  let first ← body.namedChildren.find? (·.kind ≠ "comment")
  if first.kind = "expression_statement" then
    first.namedChildren.head?.filter (·.kind = "string")
  else none

/-- The quotes around strings, longest first. -/
def quotes : List Text := ["\"\"\"", "'''", "\"", "'"].map String.toList

/-- What stands in a string literal, without the letters before it and the quotes around it. -/
def literalText (literal : Text) : Text :=
  let body := literal.dropWhile Char.isAlpha
  (quotes.findSome? fun quote => (dropLead? quote body).bind (dropTail? quote)).getD body

/-- The name of a starred parameter. -/
def starredName? (n : Node) : Option Node := n.childOf? ["identifier"]

/-- The kinds of starred parameters. -/
def starred : List String := ["list_splat_pattern", "dictionary_splat_pattern"]

def nameAndType (param : Node) : Option Node × Option Node :=
  if param.kind = "identifier" then (some param, none)
  else if param.isOf starred then (starredName? param, none)
  else if param.isOf ["default_parameter", "typed_default_parameter"] then
    (param.child? "name", param.child? "type")
  else if param.kind = "typed_parameter" then
    ((param.childOf? ("identifier" :: starred)).bind fun n =>
      if n.kind = "identifier" then some n else starredName? n,
      param.child? "type")
  else (none, none)

/-- The name and the type of a parameter, if it is part of the documented signature. -/
def parameter? (param : Node) (source : SourceLines) : Option (Text × Text) := do
  let name ← (nameAndType param).1
  let name := name.text source
  if receivers.contains name then none
  else return (name, ((nameAndType param).2.map (·.text source)).getD [])

/-- The name of a class and the types that it derives from. -/
def classMetadata (cls : Node) (source : SourceLines) : ClassMetadata where
  identifier := nameOf cls source
  superclasses :=
    ((cls.child? "superclasses").map fun list =>
      (list.children.filter (·.isOf ["identifier", "attribute"])).map (·.text source)).getD []

/-- The name and the signature of a function. -/
def functionMetadata (function : Node) (source : SourceLines) : FunctionMetadata where
  identifier := nameOf function source
  parameters := OrderedMap.ofList <|
    ((function.child? "parameters").map fun list =>
      list.namedChildren.filterMap (parameter? · source)).getD []
  returnType := function.fieldText "return_type" source

/-- The docstring of a function. -/
def docComment (definition : DefinitionSite) (source : SourceLines) : Text :=
  ((docNode? definition.node).map fun n => dedent (literalText (n.text source))).getD []

/-- Whether a name stands between double underscores. -/
def isDunder (name : Text) : Bool :=
  4 < byteLength name && beginsWith name "__".toList && finishesWith name "__".toList

/-- The functions right inside a container. -/
def functions (container : Site) : List DefinitionSite :=
  definitionsIn container (definitionOf? "function_definition")

/-- Where Python keeps its definitions and their documentation. -/
def rules : LanguageRules where
  name := "python"
  aliases := ["py"]
  extensions := ["py", "pyi"]
  docStyle := .plain
  commentKinds := ["comment"]
  stringKinds := ["string"]
  stripComment := stripHashMarkers
  isBlacklisted name := isDunder name || blacklist.contains name
  functions
  moduleFunctions root := functions { node := root }
  classes root := root.children.filterMap (definitionOf? "class_definition")
  classMetadata
  functionMetadata
  docComment
  readDoc? raw parameters := readComment? (DocStyle.detect raw) raw parameters
  bodyExtent function _ := function
  docNodes function := (docNode? function).toList

end DocHarvest.Python
