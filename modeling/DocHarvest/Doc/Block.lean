import DocHarvest.Doc.StructuredDoc
import DocHarvest.Doc.Bracket

/-!
# Comments with block tags

A block starts at a line that begins with an at-sign and a letter, and runs to the next such line.
What stands before the first block is the description. Blank lines inside a block do not count.
-/

namespace DocHarvest.Doc

open Text

def startsBlock (line : Text) : Bool :=
  match trim line with
  | '@' :: c :: _ => c.isAlpha
  | _ => false

/-- The lines of a comment from its first block on, block by block: trimmed, without blank lines.
The first component holds the lines before the first block. -/
def gatherBlocks : List Text → List Text × List (List Text)
  | [] => ([], [])
  | line :: ls =>
    let (before, blocks) := gatherBlocks ls
    if startsBlock line then ([], (trim line :: before) :: blocks)
    else if isBlankText line then (before, blocks)
    else (trim line :: before, blocks)

def blocksOf (t : Text) : List Text := (gatherBlocks (lines t)).2.map joinLines

/-- The part of a comment before its first block. -/
def descriptionOf (t : Text) : Text := joinLines ((lines t).takeWhile (!startsBlock ·))

/-- Reads a comment with block tags; `readBlock` reads one block. The first block that cannot be read
is the reason of failure. -/
def readBlocks (readBlock : Text → Except DocError DocTag) (t : Text) :
    Except DocError StructuredDoc := do
  let tags ← (blocksOf t).mapM readBlock
  return { StructuredDoc.ofDescription (descriptionOf t) with tags }

def blockKeyword (block : Text) : Text × Text := splitFirstWord (block.drop 1)

/-- Reads a bracketed expression that a tag begins with, if it does. -/
def leadingBracket? (opening closing : Char) (keyword t : Text) :
    Except DocError (Option (Text × Text)) :=
  if t.head? = some opening then
    match takeBracketed? opening closing t with
    | some parts => .ok (some parts)
    | none => .error (.unbalancedType keyword)
  else .ok none

end DocHarvest.Doc
