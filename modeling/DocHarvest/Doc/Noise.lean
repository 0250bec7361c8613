import DocHarvest.Doc.Identifier
import DocHarvest.Doc.Stamp

/-!
# Comments without information

A comment is noise if it is empty, if it bears the stamp of a generator, or if all its words come
from the identifier that it documents or from a list of filler words.
-/

namespace DocHarvest.Doc

open Text

/-- The words that do not count as content. -/
def fillerWords : List Text :=
  ["a", "an", "the", "this", "that", "these", "those", "it", "its", "of", "for", "to", "in", "on",
    "at", "by", "with", "from", "and", "or", "is", "are", "be", "was", "if", "whether", "as", "get",
    "gets", "getter", "set", "sets", "setter", "return", "returns", "returned", "method",
    "function", "value", "values", "field", "property", "new", "given", "specified", "current",
    "true", "false", "object", "instance", "class", "param", "parameter", "called", "when", "s"].map
    String.toList

/-- The runs of the letters A to Z and digits that start with a letter, in small letters. -/
def asciiWords (t : Text) : List Text :=
  go [] t
where
  /-- `word` holds the word being read, last character first. -/
  go (word : Text) : Text → List Text
    | [] => if word.isEmpty then [] else [word.reverse]
    | c :: t =>
      if c.isAlpha || (c.isDigit && !word.isEmpty) then go (c.toLower :: word) t
      else if word.isEmpty then go [] t
      else word.reverse :: go [] t

/-- The words of a comment that could carry content. -/
def contentWords (t : Text) : List Text := (asciiWords t).filter (!fillerWords.contains ·)

/-- Whether a word repeats a word of the identifier, perhaps in the plural. -/
def repeatsName (names : List Text) (word : Text) : Bool :=
  names.contains word || names.contains (dropTrailing 's' word)

/-- Whether a comment only says again what the identifier says. -/
def isRestatement (identifier t : Text) : Bool :=
  let names := identifierWords identifier
  !names.isEmpty && (contentWords t).all (repeatsName names)

/-- Whether a comment was written by a machine or says nothing beyond the identifier. -/
def isNoise (identifier t : Text) : Bool :=
  let t := trim t
  t.isEmpty || generatorStamps.any (·.marks t) || isRestatement identifier t

end DocHarvest.Doc
