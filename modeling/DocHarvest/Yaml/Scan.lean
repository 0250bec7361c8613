import DocHarvest.Yaml.Scalar
import DocHarvest.Yaml.Token

/-!
# Cutting a YAML text into tokens

Collections outside brackets are opened and closed by their indentation, and a key is only known to be
one when its colon is met. A `Scan` keeps the indentation of the collections that are open and, for
each level of brackets, the spot where a key may have begun. `tokens?` gives all tokens of a text.
-/

namespace DocHarvest.Yaml

/-- The spot where a key may have begun. -/
structure KeySpot where
  /-- Whether it must be a key: it stands where the next key of a collection is due. -/
  required : Bool
  /-- The number of tokens before it. -/
  position : Nat
  place : Cursor

/-- A text while it is cut into tokens. -/
structure Scan where
  cursor : Cursor
  tokens : List Token := []
  /-- The spots where a key may have begun, for each level of brackets, the innermost first. -/
  spots : List (Option KeySpot) := [none]
  /-- Whether a key can begin at the place. -/
  keyAllowed : Bool := true
  /-- The column of the innermost collection outside brackets, or `-1`. -/
  indent : Int := -1
  /-- The columns of the collections around it. -/
  outer : List Int := []
  finished : Bool := false

namespace Scan

/-- Whether the place is inside brackets. -/
def inFlow (s : Scan) : Bool := 1 < s.spots.length

def emit (s : Scan) (token : Token) : Scan := { s with tokens := s.tokens ++ [token] }

/-- Appends a token and goes to the place behind it. -/
def emitTo (s : Scan) (token : Token) (cursor : Cursor) : Scan := { s.emit token with cursor }

/-- Appends a token of one character. -/
def emitSign (s : Scan) (token : Token) : Scan := s.emitTo token (s.cursor.skip 1)

def insert (s : Scan) (position : Nat) (token : Token) : Scan :=
  { s with tokens := s.tokens.take position ++ token :: s.tokens.drop position }

/-- Says whether a key can begin at the place. -/
def allowKey (s : Scan) (keyAllowed : Bool) : Scan := { s with keyAllowed }

/-! ## Keys -/

/-- The most bytes between the beginning of a key and its colon. -/
def longestKey : Nat := 1024

/-- Whether what began at a spot can no longer be a key: it is on an earlier line or too long. -/
def isStale (s : Scan) (spot : KeySpot) : Bool :=
  spot.place.line < s.cursor.line || spot.place.index + longestKey < s.cursor.index

/-- The spots without those that are stale; none of these may be required. -/
def dropStale? (s : Scan) : Option Scan := do
  let spots ← s.spots.mapM fun spot =>
    match spot with
    | none => some none
    | some spot => if s.isStale spot then if spot.required then none else some none else some (some spot)
  return { s with spots }

/-- Gives up the innermost spot, which must not be required. -/
def dropSpot? (s : Scan) : Option Scan :=
  match s.spots with
  | [] => some s
  | none :: _ => some s
  | some spot :: spots => if spot.required then none else some { s with spots := none :: spots }

/-- Notes that a key may begin at the place. -/
def noteKey? (s : Scan) : Option Scan := do
  if !s.keyAllowed then return s
  else
    let s ← s.dropSpot?
    let spot : KeySpot :=
      { required := !s.inFlow && s.indent = s.cursor.column
        position := s.tokens.length
        place := s.cursor }
    return { s with spots := some spot :: s.spots.drop 1 }

/-! ## Indentation -/

/-- Opens a collection at a column, if it is further in than the collection around it. Its token goes
in front of the token at `position`. -/
def openBlock (s : Scan) (column position : Nat) (token : Token) : Scan :=
  if !s.inFlow && s.indent < column then
    { s.insert position token with indent := column, outer := s.indent :: s.outer }
  else s

/-- The columns that are left when the collections further in than a column are closed, and the number
of those. -/
def closeFrom (column indent : Int) : List Int → Int × List Int × Nat
  | [] => (indent, [], 0)
  | next :: outer =>
    if column < indent then
      let (indent, outer, count) := closeFrom column next outer
      (indent, outer, count + 1)
    else (indent, next :: outer, 0)

/-- Closes the collections that are further in than a column. -/
def closeBlocks (s : Scan) (column : Int) : Scan :=
  if s.inFlow then s
  else
    let (indent, outer, count) := closeFrom column s.indent s.outer
    { s with indent, outer, tokens := s.tokens ++ List.replicate count .closeBlock }

/-! ## Tokens -/

/-- The end of the text. -/
def finish? (s : Scan) : Option Scan := do
  let s ← (s.closeBlocks (-1)).dropSpot?
  return { s with finished := true }

def addDirective? (s : Scan) : Option Scan := do
  let s ← (s.closeBlocks (-1)).dropSpot?
  let (token, c) ← directive? (s.cursor.skip 1)
  return (s.emitTo token c).allowKey false

/-- The line that starts or ends a document. -/
def addMarker? (s : Scan) (token : Token) : Option Scan := do
  let s ← (s.closeBlocks (-1)).dropSpot?
  return (s.emitTo token (s.cursor.skip 3)).allowKey false

def openFlow? (s : Scan) (token : Token) : Option Scan := do
  let s ← s.noteKey?
  return ({ s with spots := none :: s.spots }.emitSign token).allowKey true

def closeFlow? (s : Scan) (token : Token) : Option Scan := do
  let s ← s.dropSpot?
  let spots := if s.inFlow then s.spots.drop 1 else s.spots
  return ({ s with spots }.emitSign token).allowKey false

/-- A comma between brackets. -/
def addComma? (s : Scan) : Option Scan := do
  let s ← s.dropSpot?
  return (s.emitSign .comma).allowKey true

/-- A hyphen. -/
def addItem? (s : Scan) : Option Scan := do
  if !s.inFlow && !s.keyAllowed then none
  else
    let s ← (s.openBlock s.cursor.column s.tokens.length .openBlockSequence).dropSpot?
    return (s.emitSign .item).allowKey true

/-- A question mark. -/
def addKey? (s : Scan) : Option Scan := do
  if !s.inFlow && !s.keyAllowed then none
  else
    let s ← (s.openBlock s.cursor.column s.tokens.length .openBlockMapping).dropSpot?
    return (s.emitSign .key).allowKey !s.inFlow

/-- A colon: what began at the innermost spot is a key, or the key is empty. -/
def addValue? (s : Scan) : Option Scan :=
  match s.spots with
  | some spot :: spots =>
    let s := (s.insert spot.position .key).openBlock spot.place.column spot.position .openBlockMapping
    some (({ s with spots := none :: spots }.emitSign .value).allowKey false)
  | _ =>
    if !s.inFlow && !s.keyAllowed then none
    else
      let s := s.openBlock s.cursor.column s.tokens.length .openBlockMapping
      some ((s.emitSign .value).allowKey !s.inFlow)

/-- An alias or an anchor. -/
def addName? (s : Scan) (token : Text → Token) : Option Scan := do
  let s ← s.noteKey?
  let (name, c) ← anchorName? (s.cursor.skip 1)
  return (s.emitTo (token name) c).allowKey false

def addTag? (s : Scan) : Option Scan := do
  let s ← s.noteKey?
  let (token, c) ← tag? s.inFlow (s.cursor.skip 1)
  return (s.emitTo token c).allowKey false

def addBlock? (s : Scan) (folded : Bool) : Option Scan := do
  let s ← s.dropSpot?
  let (text, c) ← block? folded s.indent (s.cursor.skip 1)
  return (s.emitTo (.scalar (if folded then .quoted else .literal) text) c).allowKey true

/-- A scalar between quotes. -/
def addQuoted? (s : Scan) (isDouble : Bool) : Option Scan := do
  let s ← s.noteKey?
  let (text, c) ← quoted? isDouble [] .none (s.cursor.skip 1)
  return (s.emitTo (.scalar .quoted text) c).allowKey false

/-- A plain scalar. A key can follow it if a line break does. -/
def addPlain? (s : Scan) : Option Scan := do
  let s ← s.noteKey?
  let (text, gap, c) ← plain? s.inFlow (s.indent + 1).toNat [] .none s.cursor
  return (s.emitTo (.scalar .plain text) c).allowKey gap.isBroken

/-- Whether a plain scalar can begin with a character; `rest` follows it. -/
def beginsPlain (inFlow : Bool) (c : Char) (rest : Text) : Bool :=
  (!isBlank c && !"-?:,[]\x7b\x7d#&*!|>'\"%@\x60".toList.contains c) ||
    (c = '-' && !rest.head?.any isBlank) ||
    (!inFlow && (c = '?' || c = ':') && !beginsBlank rest)

def next? (s : Scan) : Option Scan := do
  let (cursor, keyAllowed) := skipGap s.inFlow s.keyAllowed false s.cursor
  let s ← { s with cursor, keyAllowed }.dropStale?
  let s := s.closeBlocks s.cursor.column
  match s.cursor.rest with
  | [] => s.finish?
  | c :: rest =>
    let atMargin := s.cursor.column = 0
    let standsAlone := beginsBlank rest
    if atMargin && c = '%' then s.addDirective?
    else if atMargin && isMarker s.cursor.rest then
      s.addMarker? (if c = '-' then .documentStart else .documentEnd)
    else if c = '[' then s.openFlow? .openSequence
    else if c = '\x7b' then s.openFlow? .openMapping
    else if c = ']' then s.closeFlow? .closeSequence
    else if c = '\x7d' then s.closeFlow? .closeMapping
    else if c = ',' then s.addComma?
    else if c = '-' && standsAlone then s.addItem?
    else if c = '?' && (s.inFlow || standsAlone) then s.addKey?
    else if c = ':' && (s.inFlow || standsAlone) then s.addValue?
    else if c = '*' then s.addName? .alias
    else if c = '&' then s.addName? .anchor
    else if c = '!' then s.addTag?
    else if c = '|' && !s.inFlow then s.addBlock? false
    else if c = '>' && !s.inFlow then s.addBlock? true
    else if c = '\'' then s.addQuoted? false
    else if c = '"' then s.addQuoted? true
    else if beginsPlain s.inFlow c rest then s.addPlain?
    else none

/-- Reads all tokens, `fuel` at most. -/
def run? : Nat → Scan → Option (List Token)
  | 0, _ => none
  | fuel + 1, s =>
    match s.next? with
    | none => none
    | some s => if s.finished then some s.tokens else run? fuel s

end Scan

/-- All tokens of a text. Every token takes a character at least. -/
def tokens? (t : Text) : Option (List Token) :=
  if t.all isAllowed then Scan.run? (t.length + 1) { cursor := { rest := t } } else none

end DocHarvest.Yaml
