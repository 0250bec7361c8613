import DocHarvest.Text.Basic

/-!
# Comment markers

A comment is stored in a source file with markers: slashes and stars around it or hashes before each
line. `stripSlashMarkers` and `stripHashMarkers` take them off, line by line.
-/

namespace DocHarvest.Doc

open Text

/-- What follows the first of the markers that the text begins with. -/
def dropMarker? (markers : List Text) (t : Text) : Option Text :=
  markers.findSome? (dropLead? · t)

/-- The marker that ends a block comment. -/
def blockEnd : Text := "*/".toList

/-- The markers that may begin a line of a block comment or a line comment, longest first. -/
def slashMarkers : List Text := ["/**", "/*", "///", "//", "*"].map String.toList

/-- One line of a comment without slashes, stars and the white space around its text. -/
def stripSlashLine (line : Text) : Text :=
  let line := trim line
  let line := (dropTail? blockEnd line).getD line
  trim ((dropMarker? slashMarkers line).getD line)

/-- A comment written with slashes and stars, without them. -/
def stripSlashMarkers (comment : Text) : Text :=
  joinLines ((splitLines comment).map stripSlashLine)

/-- Whether a line opens or closes a fenced block comment. -/
def isFence (line : Text) : Bool :=
  beginsWith (trim line) "=begin".toList || beginsWith (trim line) "=end".toList

def stripHashLine (line : Text) : Text := trim (dropLeading '#' (trim line))

/-- A comment written with hashes or between fences, without them. -/
def stripHashMarkers (comment : Text) : Text :=
  joinLines (((splitLines comment).filter (!isFence ·)).map stripHashLine)

end DocHarvest.Doc
