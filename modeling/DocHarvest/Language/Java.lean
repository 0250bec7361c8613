import DocHarvest.Language.Rules

/-!
# Java

Methods of top-level classes, documented by the block comment right before them.
-/

namespace DocHarvest.Java

open Text Doc

/-- Overrides that say nothing new, however they are documented. -/
def blacklist : List Text :=
  ["toString", "hashCode", "equals", "finalize", "notify", "notifyAll", "clone"].map String.toList

mutual

/-- The types that a clause lists. -/
def typeNames (source : SourceLines) : Node → List Text
  | .mk _ children => typeNamesAll source children

/-- The types among the nodes of a clause; a list of types is looked into. -/
def typeNamesAll (source : SourceLines) : List Node → List Text
  | [] => []
  | n :: ns =>
    (if !n.named then []
      else if n.kind = "type_list" then typeNames source n
      else [n.text source]) ++ typeNamesAll source ns

end

/-- The name of a class and the types that it extends and implements. -/
def classMetadata (cls : Node) (source : SourceLines) : ClassMetadata where
  identifier := nameOf cls source
  superclasses := ["superclass", "interfaces"].flatMap fun field =>
    ((cls.child? field).map (typeNames source)).getD []

/-- The name and the type of a parameter, if the node is one. -/
def parameter? (param : Node) (source : SourceLines) : Option (Text × Text) :=
  if param.kind = "formal_parameter" then
    (param.child? "name").map fun name => (name.text source, param.fieldText "type" source)
  else if param.kind = "spread_parameter" then do
    let declarator ← param.childOf? ["variable_declarator"]
    let name ← declarator.child? "name"
    let type? := param.namedChildren.find? fun n => !n.isOf ["modifiers", "variable_declarator"]
    return (name.text source, (type?.map fun t => t.text source ++ "...".toList).getD [])
  else none

/-- The name and the signature of a method. -/
def functionMetadata (function : Node) (source : SourceLines) : FunctionMetadata where
  identifier := nameOf function source
  parameters := OrderedMap.ofList <|
    ((function.child? "parameters").map fun list =>
      list.children.filterMap (parameter? · source)).getD []
  returnType := function.fieldText "type" source

/-- The block comment right before a method. -/
def docComment (definition : DefinitionSite) (source : SourceLines) : Text :=
  match definition.previous with
  | some previous =>
    if previous.node.kind = "block_comment" && isAdjacent previous.node definition.anchor then
      trim (stripSlashMarkers (previous.node.text source))
    else []
  | none => []

/-- Where Java keeps its definitions and their documentation. -/
def rules : LanguageRules where
  name := "java"
  extensions := ["java"]
  docStyle := .javadoc
  commentKinds := ["line_comment", "block_comment"]
  stringKinds := ["string_literal"]
  stripComment := stripSlashMarkers
  isBlacklisted := blacklist.contains
  functions container :=
    definitionsIn container fun n => if n.kind = "method_declaration" then some n else none
  classes root := root.children.filter (·.kind = "class_declaration")
  classMetadata
  functionMetadata
  docComment

end DocHarvest.Java
