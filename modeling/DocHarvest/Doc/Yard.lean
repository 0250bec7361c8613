import DocHarvest.Doc.Block

/-!
# YARD

A block is a keyword, types between square brackets, and a description. A parameter has a name, and
its types stand before or after it.
-/

namespace DocHarvest.Doc.Yard

open Text

/-- Reads the types at the front of a text, if there are any, and what follows. -/
def takeTypes (keyword t : Text) : Except DocError (Option Text × Text) := do
  let t := trimStart t
  match ← leadingBracket? '[' ']' keyword t with
  | some (types, rest) => return (some (trim types), trimStart rest)
  | none => return (none, t)

def readBlock (block : Text) : Except DocError DocTag := do
  let (keyword, rest) := blockKeyword block
  let tag : DocTag := { keyword }
  if tag.kind = .param then
    let (leading, rest) ← takeTypes keyword rest
    let (name, rest) := splitFirstWord rest
    if name.isEmpty then .error (.missingArgName keyword)
    else
      let (trailing, rest) ← takeTypes keyword rest
      return ({ tag with argName := some name }.withType (leading.or trailing)).withDescription rest
  else
    let (types, rest) ← takeTypes keyword rest
    return (tag.withType types).withDescription rest

/-- Reads a comment. -/
def read (t : Text) : Except DocError StructuredDoc := readBlocks readBlock t

end DocHarvest.Doc.Yard
