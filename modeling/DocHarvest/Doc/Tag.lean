import DocHarvest.Text.Quoted

/-!
# Block tags

A structured comment is a description and a list of block tags. A tag has a keyword, whose `TagKind`
says what it documents: a parameter, the result, an exception, or something else.
-/

namespace DocHarvest.Doc

open Text

/-- What a block tag documents. -/
inductive TagKind where
  | param
  | returns
  | raises
  | yields
  | other
deriving DecidableEq

namespace TagKind

/-- The keywords that document a parameter. -/
def paramKeywords : List Text :=
  ["param", "parameter", "arg", "argument", "attribute", "key", "keyword"].map String.toList

/-- The keywords that document the result. -/
def returnsKeywords : List Text := ["return", "returns"].map String.toList

/-- The keywords that document an exception. -/
def raisesKeywords : List Text :=
  ["raises", "raise", "except", "exception", "throws", "throw"].map String.toList

/-- The keywords that document a value handed out on the way. -/
def yieldsKeywords : List Text := ["yield", "yields"].map String.toList

/-- What a keyword documents; capitals do not matter. -/
def ofKeyword (keyword : Text) : TagKind :=
  let keyword := lowerAscii keyword
  if paramKeywords.contains keyword then .param
  else if returnsKeywords.contains keyword then .returns
  else if raisesKeywords.contains keyword then .raises
  else if yieldsKeywords.contains keyword then .yields
  else .other

/-- Whether tags of this kind may repeat and are collected in a list. -/
def isRepeatable : TagKind → Bool
  | .returns | .raises | .yields => true
  | .param | .other => false

end TagKind

/-- One block tag. -/
structure DocTag where
  keyword : Text
  /-- The parameter it documents. -/
  argName : Option Text := none
  typeName : Option Text := none
  default : Option Text := none
  optional : Option Bool := none
  description : Option Text := none
deriving DecidableEq

namespace DocTag

/-- What the tag documents. -/
def kind (tag : DocTag) : TagKind := TagKind.ofKeyword tag.keyword

/-- The tag with a type; an empty type is none. -/
def withType (tag : DocTag) (typeName : Option Text) : DocTag :=
  { tag with typeName := typeName.filter (!List.isEmpty ·) }

/-- The tag with a description, trimmed; a blank description is none. -/
def withDescription (tag : DocTag) (description : Text) : DocTag :=
  { tag with description := nonBlank? description }

end DocTag

/-- Why a comment could not be read. -/
inductive DocError where
  /-- A tag of a parameter does not name it. -/
  | missingArgName (keyword : Text)
  /-- A bracket around a type or a name is not closed. -/
  | unbalancedType (keyword : Text)
  /-- A field or an entry has no colon. -/
  | missingColon (field : Text)
  /-- A field has more words before its colon than it can use. -/
  | unexpectedArguments (field : Text)
deriving DecidableEq

def DocError.message : DocError → Text
  | missingArgName keyword => '@' :: keyword ++ " tag has no argument name".toList
  | unbalancedType keyword => "unbalanced type expression in @".toList ++ keyword ++ " tag".toList
  | missingColon field => "expected a colon in ".toList ++ quoted field
  | unexpectedArguments field => "unexpected arguments in field ".toList ++ quoted field

end DocHarvest.Doc
