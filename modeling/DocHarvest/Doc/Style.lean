import DocHarvest.Doc.Fields
import DocHarvest.Doc.Javadoc
import DocHarvest.Doc.Yard
import DocHarvest.Doc.Rest
import DocHarvest.Doc.Google
import DocHarvest.Doc.Numpy

/-!
# Conventions of documentation

A `DocStyle` is a convention that comments are written in. `DocStyle.read` reads a comment in one of
them, `DocStyle.detect` finds out which of the docstring conventions a docstring follows, and
`readComment?` reads a comment against a signature.
-/

namespace DocHarvest.Doc

open Text

/-- A convention that comments are written in. -/
inductive DocStyle where
  | javadoc
  | rest
  | google
  | numpy
  | yard
  | plain
deriving DecidableEq

namespace DocStyle

/-- Every convention. -/
def all : List DocStyle := [javadoc, rest, google, numpy, yard, plain]

def name : DocStyle → String
  | javadoc => "javadoc"
  | rest => "rest"
  | google => "google"
  | numpy => "numpy"
  | yard => "yard"
  | plain => "plain"

/-- Reads a comment, whose markers were taken off. -/
def read : DocStyle → Text → Except DocError StructuredDoc
  | javadoc, t => Javadoc.read t
  | rest, t => Rest.read t
  | google, t => Google.read t
  | numpy, t => .ok (Numpy.read t)
  | yard, t => Yard.read t
  | plain, t => .ok (StructuredDoc.ofDescription t)

/-- Whether a line is a title and the next line underlines it. -/
def hasUnderlinedTitle : List Text → Bool
  | line :: next :: ls => Numpy.isTitle line (some next) || hasUnderlinedTitle (next :: ls)
  | _ => false

/-- The convention that a docstring follows: field lists count before underlined titles, and these
before titles with a colon. -/
def detect (t : Text) : DocStyle :=
  if (splitLines t).any Rest.startsField then rest
  else if hasUnderlinedTitle (lines t) then numpy
  else if (lines t).any fun line => (Google.heading? (trim line)).isSome then google
  else plain

end DocStyle

/-- A comment after it was read against a signature. -/
structure DocRecord where
  raw : Text
  summary : Text
  fields : DocFields
deriving DecidableEq

/-- Reads a comment against a signature; nothing if it is blank or cannot be read. -/
def readComment? (style : DocStyle) (raw : Text) (parameters : Parameters) : Option DocRecord :=
  if isBlankText raw then none
  else
    match style.read raw with
    | .error _ => none
    | .ok doc => some { raw, summary := doc.summary, fields := doc.fields parameters }

end DocHarvest.Doc
