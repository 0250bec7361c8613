import DocHarvest.Doc.Tag

/-!
# Structured comments

A comment after it was read: a short description, the rest of the description, and its block tags.
-/

namespace DocHarvest.Doc

open Text

/-- A comment after it was read. -/
structure StructuredDoc where
  short : Option Text := none
  long : Option Text := none
  tags : List DocTag := []
deriving DecidableEq

namespace StructuredDoc

/-- A comment that is all description: its first line is the short description. -/
def ofDescription (t : Text) : StructuredDoc :=
  let t := trim t
  let (short, long) := (splitOnce '\n' t).getD (t, [])
  { short := nonBlank? short, long := nonBlank? long }

/-- The description, without empty lines between its parts. -/
def summary (doc : StructuredDoc) : Text :=
  match doc.short, doc.long with
  | some short, some long => short ++ '\n' :: long
  | some short, none => short
  | none, some long => long
  | none, none => []

end StructuredDoc

end DocHarvest.Doc
