import DocHarvest.Text.Bytes
import DocHarvest.Text.Digits
import DocHarvest.Yaml.Cursor

/-!
# YAML tokens

The tokens of a YAML text, and how those that consist of names are written: anchors, aliases, tags and
directives.
-/

namespace DocHarvest.Yaml

/-- How a scalar is written, as far as its meaning depends on it. -/
inductive ScalarForm where
  | plain
  /-- A block whose line breaks are kept. -/
  | literal
  /-- Between quotes, or as a block whose line breaks are folded. -/
  | quoted
deriving DecidableEq

/-- A token. -/
inductive Token where
  | version (major minor : Nat)
  | tagHandle (handle : Text) (lead : Bytes)
  | documentStart
  | documentEnd
  | openBlockSequence
  | openBlockMapping
  | closeBlock
  | openSequence
  | closeSequence
  | openMapping
  | closeMapping
  /-- A hyphen before an item. -/
  | item
  | comma
  | key
  | value
  | alias (name : Text)
  | anchor (name : Text)
  | tag (handle : Text) (name : Bytes)
  | scalar (form : ScalarForm) (text : Text)
deriving DecidableEq

/-! ## Anchors -/

def anchorName? (c : Cursor) : Option (Text × Cursor) :=
  let name := c.takeWhile isWordChar
  let c := c.skipWhile isWordChar
  if !name.isEmpty && (beginsBlank c.rest || c.rest.head?.any "?:,]\x7d%@\x60".toList.contains) then
    some (name, c)
  else none

/-! ## Tags -/

/-- The characters of the name of a tag, apart from escapes; in a wide name there may be commas and
brackets. -/
def isTagChar (wide : Bool) (c : Char) : Bool :=
  isWordChar c || ";/?:@&=+$.!~*'()".toList.contains c || (wide && ",[]".toList.contains c)

/-- The number of bytes that follow a first byte; there are none after a byte of ASCII. -/
def bytesAfter? (first : Nat) : Option Nat :=
  if first < 0x80 then some 0
  else if first / 32 = 6 then some 1
  else if first / 16 = 14 then some 2
  else if first / 8 = 30 then some 3
  else none

/-- Reads the name of a tag. Bytes are escaped by `%`, all bytes of a character one after another;
`due` of them are still missing. -/
def tagBytes? (wide : Bool) (due : Nat) : Text → Option (Bytes × Nat)
  | [] => if due = 0 then some ([], 0) else none
  | '%' :: a :: b :: t => do
    let byte ← Text.hexNumber? [a, b]
    let due ←
      if due = 0 then bytesAfter? byte else if byte / 64 = 2 then some (due - 1) else none
    let (bytes, width) ← tagBytes? wide due t
    return (byte.toUInt8 :: bytes, width + 3)
  | c :: t =>
    if due ≠ 0 then none
    else if isTagChar wide c then
      (tagBytes? wide 0 t).map fun (bytes, width) => (Text.toBytes [c] ++ bytes, width + 1)
    else if c = '%' then none
    else some ([], 0)

/-- Reads a tag after its exclamation mark: `!<name>`, `!handle!name`, `!name` or `!`. -/
def tag? (inFlow : Bool) (c : Cursor) : Option (Token × Cursor) := do
  let word := c.takeWhile isWordChar
  let afterWord := c.skipWhile isWordChar
  let (token, c) ←
    if c.rest.head? = some '<' then do
      let c := c.skip 1
      let (name, width) ← tagBytes? true 0 c.rest
      let c := c.skip width
      if !name.isEmpty && c.rest.head? = some '>' then some (Token.tag [] name, c.skip 1) else none
    else if afterWord.rest.head? = some '!' then do
      let c := afterWord.skip 1
      let (name, width) ← tagBytes? false 0 c.rest
      if name.isEmpty then none else some (.tag ('!' :: word ++ ['!']) name, c.skip width)
    else do
      let (name, width) ← tagBytes? false 0 afterWord.rest
      let name := word.toBytes ++ name
      let token := if name.isEmpty then Token.tag [] (Text.toBytes ['!']) else .tag ['!'] name
      some (token, afterWord.skip width)
  if (inFlow && c.rest.head? = some ',') || beginsBlank c.rest then some (token, c) else none

/-! ## Directives -/

def versionNumber? (c : Cursor) : Option (Nat × Cursor) :=
  let digits := c.takeWhile Char.isDigit
  if digits.isEmpty || 9 < digits.length then none
  else some (Text.decimalValue digits, c.skipWhile Char.isDigit)

def version? (c : Cursor) : Option (Token × Cursor) := do
  let (major, c) ← versionNumber? (c.skipWhile isBlank)
  if c.rest.head? = some '.' then
    let (minor, c) ← versionNumber? (c.skip 1)
    some (.version major minor, c)
  else none

def tagHandle? (c : Cursor) : Option (Token × Cursor) := do
  let c := c.skipWhile isBlank
  if c.rest.head? ≠ some '!' then none
  else
    let c := c.skip 1
    let word := c.takeWhile isWordChar
    let c := c.skipWhile isWordChar
    let (handle, c) ←
      if c.rest.head? = some '!' then some ('!' :: word ++ ['!'], c.skip 1)
      else if word.isEmpty then some (['!'], c)
      else none
    if !c.rest.head?.any isBlank then none
    else
      let c := c.skipWhile isBlank
      let (lead, width) ← tagBytes? true 0 c.rest
      if lead.isEmpty || !beginsBlank (c.rest.drop width) then none
      else some (.tagHandle handle lead, c.skip width)

/-- Reads a directive after its percent sign, up to the end of its line. -/
def directive? (c : Cursor) : Option (Token × Cursor) := do
  let name := c.takeWhile isWordChar
  let c := c.skipWhile isWordChar
  if !beginsBlank c.rest then none
  else
    let (token, c) ←
      if name = "YAML".toList then version? c
      else if name = "TAG".toList then tagHandle? c
      else none
    let c := c.skipWhile isBlank
    let c := if c.rest.head? = some '#' then c.skipWhile fun ch => !isBreak ch else c
    match c.rest, lineBreak? c.rest with
    | [], _ => some (token, c)
    | _, some b => some (token, c.breakLine b)
    | _, none => none

end DocHarvest.Yaml
