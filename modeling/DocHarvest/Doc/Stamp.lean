import DocHarvest.Text.Basic
import DocHarvest.Unicode.Word

/-!
# Stamps of generators and templates

Comments that a tool or a template wrote are known by set phrases. A `Phrase` is a list of parts that
follow one another; letters count in either case. `Stamp.marks` says whether a stamp is found in a
text, at its start or anywhere.
-/

namespace DocHarvest.Doc

open Text

/-- A part of a phrase. -/
inductive PhrasePart where
  /-- These characters, letters in either case. -/
  | spells (characters : Text)
  /-- One of these; the empty text makes the part optional. -/
  | oneOf (choices : List Text)
  /-- White space, as much as there is. -/
  | gap
  /-- A word begins or ends here. -/
  | edge
  /-- The text ends here. -/
  | finish

/-- Parts that follow one another. -/
abbrev Phrase := List PhrasePart

/-- Whether `c` is the letter `small` in either case, or that very character. The sign for kelvin is
a capital k, and the long s is a small s. -/
def sameLetter (small c : Char) : Bool :=
  c.toLower = small || (small = 'k' && c = '\u212a') || (small = 's' && c = 'ſ')

/-- Reads `characters` in either case: the last character read and what follows, where `before` is
the character just passed. -/
def readEitherCase? (before : Option Char) : Text → Text → Option (Option Char × Text)
  | [], t => some (before, t)
  | _ :: _, [] => none
  | small :: characters, c :: t =>
    if sameLetter small c then readEitherCase? (some c) characters t else none

/-- Whether the phrase stands at the front of the text, where `before` is the character just
passed. -/
def Phrase.matchesAt : Phrase → Option Char → Text → Bool
  | [], _, _ => true
  | .spells characters :: parts, before, t =>
    (readEitherCase? before characters t).any fun (before, t) => Phrase.matchesAt parts before t
  | .oneOf choices :: parts, before, t =>
    choices.any fun choice =>
      (readEitherCase? before choice t).any fun (before, t) => Phrase.matchesAt parts before t
  | .gap :: parts, before, t =>
    Phrase.matchesAt parts ((t.takeWhile isBlank).getLast?.or before) (t.dropWhile isBlank)
  | .edge :: parts, before, t =>
    Unicode.isWordEdge before t.head? && Phrase.matchesAt parts before t
  | .finish :: parts, before, t => t.isEmpty && Phrase.matchesAt parts before t

/-- Whether the phrase stands anywhere in the text, where `before` is the character just passed. -/
def Phrase.occursAfter (phrase : Phrase) : Option Char → Text → Bool
  | before, [] => phrase.matchesAt before []
  | before, c :: t => phrase.matchesAt before (c :: t) || phrase.occursAfter (some c) t

/-- A phrase that gives a comment away, either as its opening or wherever it stands. -/
structure Stamp where
  opening : Bool
  phrase : Phrase

def Stamp.marks (stamp : Stamp) (t : Text) : Bool :=
  if stamp.opening then stamp.phrase.matchesAt none t else stamp.phrase.occursAfter none t

namespace Stamp

/-- These characters. -/
def spells (s : String) : PhrasePart := .spells s.toList

def oneOf (choices : List String) : PhrasePart := .oneOf (choices.map String.toList)

/-- These characters or nothing. -/
def maybe (s : String) : PhrasePart := .oneOf [s.toList, []]

/-- A phrase that counts wherever it stands. -/
def anywhere (phrase : Phrase) : Stamp := ⟨false, phrase⟩

/-- A phrase that counts at the start of a text. -/
def atStart (phrase : Phrase) : Stamp := ⟨true, phrase⟩

end Stamp

open Stamp PhrasePart in
/-- The stamps of generators, placeholders and templates. Texts are looked at without white space at
their ends. -/
def generatorStamps : List Stamp := [
  anywhere [spells "auto", oneOf ["-", " ", ""], spells "generated"],
  anywhere [edge, spells "generated ", oneOf ["by", "with", "from", "using"], edge],
  anywhere [spells "@generated", edge],
  anywhere [edge, spells "do not ", oneOf ["edit", "modify"], edge],
  anywhere [edge, spells "method stub", edge],
  atStart [oneOf ["todo", "fixme", "xxx", "hack"], edge],
  anywhere [edge, oneOf ["todo", "fixme"], gap, spells ":"],
  atStart [spells "not ", maybe "yet ", spells "implemented", edge],
  anywhere [edge, spells "insert ", maybe "the ", spells "method", maybe "'", maybe "s",
    spells " description here", edge],
  anywhere [edge, spells "description of the method", edge],
  atStart [maybe "default ", spells "constructor", maybe ".", finish],
  atStart [spells "creates a new instance of", edge],
  atStart [oneOf ["\x7b@inheritdoc\x7d", "inheritdoc", "@inheritdoc"], finish],
  atStart [spells "@see", edge],
  atStart [maybe "no ", oneOf ["description", "comment", "documentation"], maybe ".", finish],
  atStart [spells "n", maybe "/", spells "a", maybe ".", finish],
  atStart [spells "placeholder", edge],
  atStart [spells "created by", edge]]

end DocHarvest.Doc
