import DocHarvest.Doc.Stamp

/-!
# Default values in prose

A description may name a default in words: "defaults to 3", "default is \x60x\x60". The value is the
first word after that, without quotation marks around it and without a full stop behind it.
-/

namespace DocHarvest.Doc

open Text

/-- Whether a text ends here or goes on with white space. -/
def endsWord (t : Text) : Bool := t.head?.all isBlank

/-- Whether a value ends here: a closing quotation mark and a full stop may follow it. -/
def endsValue (t : Text) : Bool :=
  let t := (dropLead? ['\x60'] t).getD t
  endsWord ((dropLead? ['.'] t).getD t)

def shortestValue? : Text → Option Text
  | [] => none
  | c :: t =>
    if c = '\x60' || isBlank c then none
    else if endsValue t then some [c]
    else (shortestValue? t).map (c :: ·)

/-- The value at the front of a text, which a quotation mark may open. -/
def quotedValue? (t : Text) : Option Text := shortestValue? ((dropLead? ['\x60'] t).getD t)

/-- The value after the words that announce it; a colon may stand before it. -/
def announcedValue? (t : Text) : Option Text :=
  let t := trimStart t
  match t with
  | ':' :: rest => (quotedValue? (trimStart rest)).or (shortestValue? t)
  | _ => quotedValue? t

/-- What follows "default to" or a form of it at the front of a text. -/
def announcement? (t : Text) : Option Text := do
  let (_, t) ← readEitherCase? none "default".toList t
  let t := ((readEitherCase? none ['s'] t).map Prod.snd).getD t
  if t.head?.any isBlank then
    let t := trimStart t
    ((readEitherCase? none "to".toList t).or (readEitherCase? none "is".toList t)).map Prod.snd
  else none

/-- The first default that a text names, where `before` is the character just passed. -/
def defaultAfter? (before : Option Char) : Text → Option Text
  | [] => none
  | c :: t =>
    let here :=
      if Unicode.isWordEdge before (some c) then (announcement? (c :: t)).bind announcedValue?
      else none
    here.or (defaultAfter? (some c) t)

/-- The default that a description names. -/
def defaultIn? (description : Option Text) : Option Text :=
  (description.bind (defaultAfter? none)).bind nonBlank?

end DocHarvest.Doc
