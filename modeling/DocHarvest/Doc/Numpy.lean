import DocHarvest.Doc.StructuredDoc
import DocHarvest.Doc.Section
import DocHarvest.Doc.DefaultValue

/-!
# NumPy sections

A section starts at a title that is underlined with hyphens. A parameter is `name : type`, with its
description below it; the type may be followed by the word optional and a default.
-/

namespace DocHarvest.Doc.Numpy

open Text

def titles : List Text :=
  ["Parameters", "Other Parameters", "Attributes", "Returns", "Yields", "Receives", "Raises",
    "Warns", "See Also", "Notes", "References", "Examples"].map String.toList

/-- Whether a line underlines a title: three hyphens or more. -/
def isUnderline (line : Text) : Bool :=
  let line := trim line
  3 ≤ line.length && line.all (· = '-')

/-- Whether a line is a title and the next line underlines it. -/
def isTitle (line : Text) (next : Option Text) : Bool :=
  titles.contains (trim line) && next.any isUnderline

/-- The keyword of the tags that a section holds. -/
def keywordOf? (title : Text) : Option Text :=
  if ["Parameters", "Other Parameters", "Receives"].any (·.toList = title) then
    some "param".toList
  else if title = "Attributes".toList then some "attribute".toList
  else if title = "Returns".toList then some "returns".toList
  else if title = "Yields".toList then some "yields".toList
  else if title = "Raises".toList then some "raises".toList
  else none

/-- The sections of a docstring; the first component holds the lines before the first one. -/
def gatherSections : List Text → List Text × List DocSection
  | [] => ([], [])
  | [line] => ([line], [])
  | line :: next :: ls =>
    if isTitle line (some next) then
      let (before, sections) := gatherSections ls
      ([], ⟨trim line, before⟩ :: sections)
    else
      let (before, sections) := gatherSections (next :: ls)
      (line :: before, sections)

/-- What the text after a name says: a type, and whether and with what default it may be left out. -/
structure TypeSpec where
  types : List Text := []
  optional : Option Bool := none
  default : Option Text := none

/-- The value of a default, without what sets it off. -/
def defaultValue (t : Text) : Option Text :=
  nonBlank? (t.dropWhile fun c => c = ' ' || c = ':' || c = '=')

def TypeSpec.add (spec : TypeSpec) (part : Text) : TypeSpec :=
  let part := trim part
  if part = "optional".toList then { spec with optional := some true }
  else
    match dropLead? "default".toList part with
    | some value => { spec with default := defaultValue value }
    | none => if part.isEmpty then spec else { spec with types := spec.types ++ [part] }

/-- Reads the parts of a specification, which commas separate. -/
def TypeSpec.read (t : Text) : TypeSpec := (splitOn ',' t).foldl TypeSpec.add {}

/-- The parts of a type one after another, with a comma and a space between them. -/
def joinTypes : List Text → Text
  | [] => []
  | [part] => part
  | part :: parts => part ++ ", ".toList ++ joinTypes parts

/-- The name and the specification on the first line of a parameter. -/
def nameAndSpec (head : Text) : Text × Text :=
  match splitOnceText " : ".toList head with
  | some (name, spec) => (trim name, trim spec)
  | none => (trim (dropTrailing ':' (trim head)), [])

/-- Reads an entry of a section whose tags have the given keyword. -/
def readEntry (keyword entry : Text) : DocTag :=
  let (head, description) := (splitOnce '\n' entry).getD (entry, [])
  let tag := ({ keyword } : DocTag).withDescription description
  if tag.kind = .param then
    let (name, spec) := nameAndSpec head
    let spec := TypeSpec.read spec
    { tag with
      argName := some name
      optional := spec.optional
      default := spec.default.or (defaultIn? tag.description) }.withType
        (nonBlank? (joinTypes spec.types))
  else
    tag.withType (nonBlank? (((splitOnceText " : ".toList head).map Prod.snd).getD head))

def readSection (s : DocSection) : List DocTag :=
  match keywordOf? s.title with
  | none => []
  | some keyword => (entriesOf s.body).map (readEntry keyword)

/-- Reads a docstring. -/
def read (t : Text) : StructuredDoc :=
  let (before, sections) := gatherSections (lines (dedent t))
  { StructuredDoc.ofDescription (joinLines before) with tags := sections.flatMap readSection }

end DocHarvest.Doc.Numpy
