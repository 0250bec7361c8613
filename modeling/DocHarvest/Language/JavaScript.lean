import DocHarvest.Language.Rules

/-!
# JavaScript and TypeScript

Top-level functions, constants that hold one, and methods of top-level classes, exported or not. The
block comment right before a definition documents it. TypeScript adds declared types and abstract
classes.
-/

namespace DocHarvest.JavaScript

open Text Doc

/-- Methods that every object has. -/
def blacklist : List Text :=
  ["constructor", "toString", "toLocaleString", "valueOf", "toJSON"].map String.toList

/-- The kinds of values that are functions. -/
def functionValues : List String :=
  ["arrow_function", "function_expression", "function", "generator_function"]

/-- The kinds of declarations that name values. -/
def valueDeclarations : List String := ["lexical_declaration", "variable_declaration"]

/-- The declaration that a statement exports, or the node itself. -/
def exported? (n : Node) : Option Node :=
  if n.kind = "export_statement" then n.child? "declaration" else some n

/-- The declarator of a declaration that names a single value, a function. -/
def functionDeclarator? (declaration : Node) : Option Node :=
  match declaration.children.filter (·.kind = "variable_declarator") with
  | [declarator] => do
    let value ← declarator.child? "value"
    if value.isOf functionValues then some declarator else none
  | _ => none

/-- The node that has the parameters and the body of a definition. -/
def callable? (function : Node) : Option Node :=
  if function.isOf valueDeclarations then do
    let declarator ← functionDeclarator? function
    declarator.child? "value"
  else some function

/-- The classes of a file, of the given kinds. -/
def classesOf (kinds : List String) (root : Node) : List Node :=
  (root.children.filterMap exported?).filter (·.isOf kinds)

def methods (container : Site) : List DefinitionSite :=
  definitionsIn container fun n => if n.kind = "method_definition" then some n else none

/-- The function that a statement at the top level defines. -/
def topLevelFunction? (n : Node) : Option Node := do
  let declaration ← exported? n
  if declaration.isOf ["function_declaration", "generator_function_declaration"] then
    some declaration
  else if declaration.isOf valueDeclarations then
    (functionDeclarator? declaration).map fun _ => declaration
  else none

/-- The types that a clause of the head of a class names. -/
def heritage (clause : Node) (source : SourceLines) : List Text :=
  if clause.isOf ["extends_clause", "implements_clause"] then
    (clause.namedChildren.filter (·.kind ≠ "type_arguments")).map (·.text source)
  else [clause.text source]

/-- The name of a class and the types that it derives from. -/
def classMetadata (cls : Node) (source : SourceLines) : ClassMetadata where
  identifier := nameOf cls source
  superclasses :=
    ((cls.childOf? ["class_heritage"]).map fun clauses =>
      clauses.namedChildren.flatMap (heritage · source)).getD []

def annotatedType (written : Text) : Text := trim (dropLeading ':' written)

/-- The type that a field of a node declares; empty if there is none. -/
def declaredType (n : Node) (field : String) (source : SourceLines) : Text :=
  ((n.child? field).map fun t => annotatedType (t.text source)).getD []

/-- The name of a parameter that has no declared type of its own. -/
def patternName? (pattern : Node) (source : SourceLines) : Option Text :=
  if pattern.isOf ["identifier", "object_pattern", "array_pattern"] then some (pattern.text source)
  else if pattern.kind = "assignment_pattern" then (pattern.child? "left").map (·.text source)
  else if pattern.kind = "rest_pattern" then pattern.namedChildren.head?.map (·.text source)
  else none

mutual

/-- The name of a parameter; a parameter with a declared type holds a pattern, or another one. -/
def parameterName? (source : SourceLines) : Node → Option Text
  | .mk label children =>
    if ["required_parameter", "optional_parameter"].contains label.kind then
      fieldName? source "pattern" children
    else patternName? (.mk label children) source

/-- The name of the parameter among these nodes that fills a field. -/
def fieldName? (source : SourceLines) (field : String) : List Node → Option Text
  | [] => none
  | n :: ns =>
    if n.label.field = some field then parameterName? source n else fieldName? source field ns

end

/-- The name and the declared type of a parameter, if the node is one. -/
def parameter? (param : Node) (source : SourceLines) : Option (Text × Text) :=
  (parameterName? source param).map fun name =>
    (name,
      if param.isOf ["required_parameter", "optional_parameter"] then
        declaredType param "type" source
      else [])

/-- The parameters of a function; a single one may stand without parentheses. -/
def parameters (function : Node) (source : SourceLines) : Parameters :=
  match function.child? "parameters" with
  | some list => OrderedMap.ofList (list.namedChildren.filterMap (parameter? · source))
  | none =>
    OrderedMap.ofList ((function.child? "parameter").map fun n => (n.text source, [])).toList

/-- The name and the signature of a function. -/
def functionMetadata (function : Node) (source : SourceLines) : FunctionMetadata where
  identifier :=
    if function.isOf valueDeclarations then
      ((functionDeclarator? function).map (nameOf · source)).getD []
    else nameOf function source
  parameters := ((callable? function).map (parameters · source)).getD {}
  returnType := ((callable? function).map fun f => declaredType f "return_type" source).getD []

/-- The block comment right before a definition. -/
def docComment (definition : DefinitionSite) (source : SourceLines) : Text :=
  match definition.previous with
  | some previous =>
    if previous.node.kind = "comment" &&
        beginsWith (previous.node.text source) "/*".toList &&
        isAdjacent previous.node definition.anchor then
      trim (stripSlashMarkers (previous.node.text source))
    else []
  | none => []

/-- Where JavaScript keeps its definitions and their documentation. -/
def rules : LanguageRules where
  name := "javascript"
  aliases := ["js", "jsx"]
  extensions := ["js", "jsx", "mjs", "cjs"]
  docStyle := .javadoc
  commentKinds := ["comment"]
  stringKinds := ["string", "template_string"]
  stripComment := stripSlashMarkers
  isBlacklisted := blacklist.contains
  functions := methods
  moduleFunctions root := definitionsIn { node := root } topLevelFunction?
  classes := classesOf ["class_declaration"]
  classMetadata
  functionMetadata
  docComment
  body? function := (callable? function).bind (·.child? "body")

end DocHarvest.JavaScript

namespace DocHarvest.TypeScript

/-- Where TypeScript keeps its definitions and their documentation. -/
def rules : LanguageRules :=
  { JavaScript.rules with
    name := "typescript"
    aliases := ["ts"]
    extensions := ["ts", "mts", "cts"]
    classes := JavaScript.classesOf ["class_declaration", "abstract_class_declaration"] }

end DocHarvest.TypeScript
