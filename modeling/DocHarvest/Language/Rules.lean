import DocHarvest.Doc.Cleaning
import DocHarvest.Doc.Noise
import DocHarvest.Doc.Style
import DocHarvest.Doc.Token
import DocHarvest.Record.Definition
import DocHarvest.Source.Site
import DocHarvest.Text.Digits

/-!
# Extraction of documented definitions

`LanguageRules` collects what differs between languages: where functions and classes are in a syntax
tree, where their documentation stands and how it is written. `LanguageRules.extract` is the same for
all of them: it goes through the functions of a tree and keeps those with a body, a name that counts,
and documentation with content.
-/

namespace DocHarvest

open Text Doc

/-- What decides which definitions are kept. -/
structure ExtractOptions where
  /-- Whether a body that begins and ends on one row counts as empty. -/
  skipSingleLineBodies : Bool := true
deriving DecidableEq

/-- Why a source file gives no records at all. -/
inductive SkipReason where
  /-- A class of this kind has no name at this place. -/
  | missingIdentifier (kind : String) (place : Point)
deriving DecidableEq

def SkipReason.message : SkipReason → Text
  | missingIdentifier kind place =>
    kind.toList ++ " at ".toList ++ decimal place.row ++ ':' :: decimal place.column ++
      " has no identifier".toList

/-- The text of the name of a definition; empty if it has none. -/
def nameOf (n : Node) (source : SourceLines) : Text := n.fieldText "name" source

/-- What differs between languages. -/
structure LanguageRules where
  /-- The name of the language, in small letters. -/
  name : String
  /-- Other names of the language. -/
  aliases : List String := []
  extensions : List String
  /-- The convention of its documentation. -/
  docStyle : DocStyle
  /-- The kinds of nodes that are comments inside a function. -/
  commentKinds : List String
  /-- The kinds of nodes that stay whole when code is cut into tokens. -/
  stringKinds : List String
  /-- Takes the markers off a comment. -/
  stripComment : Text → Text
  /-- Whether functions of this name are left out even if they are documented. -/
  isBlacklisted : Text → Bool
  /-- The functions and methods right inside a container. -/
  functions : Site → List DefinitionSite
  /-- The functions of a tree outside any class. -/
  moduleFunctions : Node → List DefinitionSite := fun _ => []
  /-- The classes of a tree whose methods are extracted. -/
  classes : Node → List Node := fun _ => []
  /-- The node whose children are the methods of a class. -/
  classBody : Node → Option Site := fun cls => Site.child? cls "body"
  /-- The name of a class and the types it derives from. -/
  classMetadata : Node → SourceLines → ClassMetadata :=
    fun cls source => { identifier := nameOf cls source }
  /-- The name and the signature of a function. -/
  functionMetadata : Node → SourceLines → FunctionMetadata
  /-- The owner of a function outside any class. -/
  owner? : Node → SourceLines → Option Text := fun _ _ => none
  /-- The documentation of a definition without its markers; empty if it has none. -/
  docComment : DefinitionSite → SourceLines → Text
  /-- Reads documentation against a signature. -/
  readDoc? : Text → Parameters → Option DocRecord :=
    fun raw parameters => readComment? docStyle raw parameters
  body? : Node → Option Node := fun function => function.child? "body"
  /-- The node whose rows say whether the function is written on one line, given its body. -/
  bodyExtent : Node → Node → Node := fun _ body => body
  /-- The nodes of a function that are its documentation and not its code. -/
  docNodes : Node → List Node := fun _ => []

namespace LanguageRules

variable (rules : LanguageRules)

/-- Whether a function has no body, or one that counts as empty because it fits on one row. -/
def isBodyEmpty (function : Node) (options : ExtractOptions) : Bool :=
  match rules.body? function with
  | none => true
  | some body =>
    options.skipSingleLineBodies && (rules.bodyExtent function body).span.isSingleLine

/-- The comments inside a function, without their markers. -/
def bodyComments (function : Node) (source : SourceLines) : List Text :=
  (function.ofKinds rules.commentKinds).map fun comment => rules.stripComment (comment.text source)

/-- The comments inside a function as prose, without those that say nothing. -/
def proseComments (function : Node) (source : SourceLines) : List Text :=
  ((rules.bodyComments function source).map clean).filter (!List.isEmpty ·)

/-- The name of a function behind that of its owner. -/
def qualify (owner : Option Text) (name : Text) : Text :=
  match owner with
  | some owner => owner ++ '.' :: name
  | none => name

/-- What is found out about a definition, if it passes every filter. -/
def extractDefinition? (definition : DefinitionSite) (owner : Option Text) (source : SourceLines)
    (options : ExtractOptions) : Option Definition := do
  let node := definition.node
  if rules.isBodyEmpty node options then none
  else
    let metadata := rules.functionMetadata node source
    if metadata.identifier.isEmpty || rules.isBlacklisted metadata.identifier then none
    else
      let writtenDocstring := rules.docComment definition source
      if isBlankText writtenDocstring then none
      else
        let doc ← rules.readDoc? writtenDocstring metadata.parameters
        let docstring := clean doc.summary
        if docstring.isEmpty || isNoise metadata.identifier docstring then none
        else
          some {
            identifier := qualify owner metadata.identifier
            parameters := metadata.parameters
            function := node.text source
            functionTokens := node.tokens source rules.stringKinds (rules.docNodes node)
            writtenDocstring
            docstring
            docstringTokens := Doc.tokens docstring
            docstringFields := doc.fields
            comments := rules.proseComments node source
            start := node.label.start
            stop := node.label.stop }

/-- The documented functions of a tree outside any class. -/
def extractModule (root : Node) (source : SourceLines) (options : ExtractOptions) :
    List Definition :=
  (rules.moduleFunctions root).filterMap fun definition =>
    rules.extractDefinition? definition (rules.owner? definition.node source) source options

/-- The documented methods of a class. A class without a name makes the whole file unusable. -/
def extractClass (cls : Node) (source : SourceLines) (options : ExtractOptions) :
    Except SkipReason (List Definition) :=
  let name := (rules.classMetadata cls source).identifier
  if name.isEmpty then .error (.missingIdentifier cls.kind cls.label.start)
  else
    match rules.classBody cls with
    | none => .ok []
    | some body =>
      .ok ((rules.functions body).filterMap fun definition =>
        rules.extractDefinition? definition (some name) source options)

/-- Every documented definition of a tree that passes the filters. -/
def extract (root : Node) (source : Text) (options : ExtractOptions) :
    Except SkipReason (List Definition) := do
  let source := SourceLines.ofText source
  let methods ← (rules.classes root).mapM fun cls => rules.extractClass cls source options
  return rules.extractModule root source options ++ methods.flatten

end LanguageRules

end DocHarvest
