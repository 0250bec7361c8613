import DocHarvest.Doc.Indent

/-!
# Sections of a docstring

Some conventions divide a docstring into sections with titles. Inside a section, a line at the base
indentation starts an entry and deeper lines continue it.
-/

namespace DocHarvest.Doc

open Text

/-- A section: its title and its lines. -/
structure DocSection where
  title : Text
  body : List Text
deriving DecidableEq

/-- The entries of a section, their lines trimmed. -/
def entryLines (base : Nat) : List Text → List (List Text)
  | [] => []
  | line :: ls =>
    match entryLines base ls with
    | [] => [[trim line]]
    | entry :: entries =>
      if ls.head?.any (base < depth ·) then (trim line :: entry) :: entries
      else [trim line] :: entry :: entries

/-- The entries of a section: a line at the least depth starts one, deeper lines continue it. -/
def entriesOf (body : List Text) : List Text :=
  (entryLines (commonDepth body) (body.filter (!isBlankText ·))).map joinLines

end DocHarvest.Doc
