import DocHarvest.Doc.StructuredDoc
import DocHarvest.Doc.Section
import DocHarvest.Doc.DefaultValue

/-!
# Google sections

A section starts at a line that is its title and a colon. Parameters and exceptions are entries
`name (type): description`; a result has a description, which a type and a colon may precede.
-/

namespace DocHarvest.Doc.Google

open Text

def titles : List Text :=
  ["Args", "Arguments", "Parameters", "Params", "Keyword Args", "Keyword Arguments",
    "Other Parameters", "Attributes", "Returns", "Return", "Yields", "Yield", "Raises", "Raise",
    "Exceptions", "Except", "Example", "Examples", "Note", "Notes", "Warning", "Warnings",
    "See Also", "Todo", "References"].map String.toList

/-- The title that a line is, if it is the heading of a section. -/
def heading? (line : Text) : Option Text :=
  match splitOnce ':' line with
  | some (title, rest) =>
    if titles.contains title && rest.all (fun c => c = ' ' || c = '\t') then some title else none
  | none => none

/-- The keyword of the tags that a section holds. -/
def keywordOf? (title : Text) : Option Text :=
  if ["Args", "Arguments", "Parameters", "Params", "Keyword Args", "Keyword Arguments",
      "Other Parameters"].any (·.toList = title) then some "param".toList
  else if title = "Attributes".toList then some "attribute".toList
  else if ["Returns", "Return"].any (·.toList = title) then some "returns".toList
  else if ["Yields", "Yield"].any (·.toList = title) then some "yields".toList
  else if ["Raises", "Raise", "Exceptions", "Except"].any (·.toList = title) then
    some "raises".toList
  else none

/-- The sections of a docstring; the first component holds the lines before the first one. -/
def gatherSections : List Text → List Text × List DocSection
  | [] => ([], [])
  | line :: ls =>
    let (before, sections) := gatherSections ls
    match heading? line with
    | some title => ([], ⟨title, before⟩ :: sections)
    | none => (line :: before, sections)

/-- The type between parentheses at the front of a text that ends with them. -/
def parenthesised? : Text → Option Text
  | '(' :: t =>
    match dropTail? [')'] (trimEnd t) with
    | none => none
    | some inner =>
      let inner := trim inner
      if inner.isEmpty || inner.contains '\n' then none else some inner
  | _ => none

/-- Reads `name (type)`; the name is as short as it can be and stands on one line. -/
def typedName? (t : Text) : Option (Text × Text) :=
  go [] (trimStart t)
where
  /-- `name` is the name read so far, last character first. -/
  go (name : Text) : Text → Option (Text × Text)
    | [] => none
    | c :: t =>
      if c = '\n' then none
      else
        match parenthesised? (trimStart t) with
        | some typeName => some ((c :: name).reverse, typeName)
        | none => go (c :: name) t

/-- Reads an entry of a section whose tags have the given keyword. -/
def readEntry (keyword entry : Text) : Except DocError DocTag :=
  match splitOnce ':' entry with
  | none => .error (.missingColon entry)
  | some (head, description) =>
    let tag := ({ keyword } : DocTag).withDescription description
    if tag.kind = .raises then .ok (tag.withType (nonBlank? head))
    else
      let tag := { tag with default := defaultIn? tag.description }
      match typedName? head with
      | some (name, typeName) =>
        match dropTail? ", optional".toList typeName with
        | some base =>
          .ok ({ tag with argName := some name, optional := some true }.withType (nonBlank? base))
        | none => .ok ({ tag with argName := some name }.withType (nonBlank? typeName))
      | none =>
        let name := trim head
        if name.isEmpty then .error (.missingArgName keyword)
        else .ok { tag with argName := some name }

/-- Reads what is said about a result. Words before a colon on the first line are its type, if they
are one word or have a square bracket. -/
def readResult (keyword entry : Text) : DocTag :=
  let tag : DocTag := { keyword }
  match splitOnce ':' ((lines entry).headD []) with
  | some (typeName, _) =>
    if !(trim typeName).contains ' ' || typeName.contains '[' then
      (tag.withType (nonBlank? typeName)).withDescription
        (((splitOnce ':' entry).map Prod.snd).getD entry)
    else tag.withDescription entry
  | none => tag.withDescription entry

def readSection (s : DocSection) : Except DocError (List DocTag) :=
  match keywordOf? s.title with
  | none => .ok []
  | some keyword =>
    match TagKind.ofKeyword keyword with
    | .returns | .yields =>
      let entry := dedent ('\n' :: joinLines s.body)
      .ok (if entry.isEmpty then [] else [readResult keyword entry])
    | _ => (entriesOf s.body).mapM (readEntry keyword)

/-- Reads a docstring. -/
def read (t : Text) : Except DocError StructuredDoc := do
  let (before, sections) := gatherSections (lines (dedent t))
  let tags ← sections.mapM readSection
  return { StructuredDoc.ofDescription (joinLines before) with tags := tags.flatten }

end DocHarvest.Doc.Google
