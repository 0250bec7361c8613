import DocHarvest.Language.Rules

/-!
# Ruby

Methods of a file and of its classes and modules, at any depth. The comments right before a method
document it.
-/

namespace DocHarvest.Ruby

open Text Doc

/-- Conversions, comparisons and hooks. -/
def blacklist : List Text :=
  ["initialize", "to_s", "to_str", "inspect", "hash", "eql?", "==", "===", "<=>",
    "method_missing", "respond_to_missing?"].map String.toList

/-- The kinds of parameters that have a name field. -/
def parameterKinds : List String :=
  ["optional_parameter", "keyword_parameter", "splat_parameter", "hash_splat_parameter",
    "block_parameter"]

/-- The body of a class, a module or a method. -/
def bodySite? (n : Node) : Option Site := (Site.child? n "body").or (Site.childOf? n ["body_statement"])

/-- The name of a parameter, if the node is one. -/
def parameterName? (param : Node) (source : SourceLines) : Option Text :=
  if param.kind = "identifier" then some (param.text source)
  else if param.isOf parameterKinds then (param.child? "name").map (·.text source)
  else none

/-- The name of a class and the type that it derives from. -/
def classMetadata (cls : Node) (source : SourceLines) : ClassMetadata where
  identifier := nameOf cls source
  superclasses :=
    ((cls.child? "superclass").map fun clause => clause.namedChildren.map (·.text source)).getD []

/-- The name and the parameters of a method. -/
def functionMetadata (function : Node) (source : SourceLines) : FunctionMetadata where
  identifier := nameOf function source
  parameters := OrderedMap.ofList <|
    ((function.child? "parameters").map fun list =>
      list.children.filterMap fun param =>
        (parameterName? param source).map fun name => (name, [])).getD []

/-- The fenced comment or the run of comments right before a method. -/
def docComment (definition : DefinitionSite) (source : SourceLines) : Text :=
  match definition.previous with
  | none => []
  | some last =>
    if last.node.kind = "comment" && isAdjacent last.node definition.anchor then
      if beginsWith (last.node.text source) "=begin".toList then
        trim (stripHashMarkers (last.node.text source))
      else
        let run := commentRun last fun n =>
          n.kind = "comment" && beginsWith (n.text source) "#".toList
        trim (joinLines (run.map fun comment => stripHashMarkers (comment.text source)))
    else []

/-- The methods right inside a container. -/
def functions (container : Site) : List DefinitionSite :=
  definitionsIn container fun n =>
    if n.isOf ["method", "singleton_method"] then some n else none

/-- Where Ruby keeps its definitions and their documentation. -/
def rules : LanguageRules where
  name := "ruby"
  aliases := ["rb"]
  extensions := ["rb", "rake", "gemspec"]
  docStyle := .yard
  commentKinds := ["comment"]
  stringKinds := ["string", "heredoc_body", "regex"]
  stripComment := stripHashMarkers
  isBlacklisted := blacklist.contains
  functions
  moduleFunctions root := functions { node := root }
  classes root := root.ofKinds ["class", "module"]
  classBody := bodySite?
  classMetadata
  functionMetadata
  docComment
  body? function := (bodySite? function).map Site.node
  bodyExtent function _ := function

end DocHarvest.Ruby
