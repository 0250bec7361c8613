import DocHarvest.Text.Digits

/-!
# JSON text

A `Json` value keeps the members of an object in order, and a name may repeat. `Json.render` writes a
value without white space; in strings only quotes, backslashes and control characters are escaped.
-/

namespace DocHarvest

/-- A JSON value. -/
inductive Json where
  | null
  | bool (b : Bool)
  | number (n : Nat)
  | text (t : Text)
  | array (items : List Json)
  | object (members : List (Text × Json))

namespace Json

/-- A digit in base sixteen, with small letters. -/
def hexDigit (n : Nat) : Char := if n < 10 then Char.ofNat (48 + n) else Char.ofNat (87 + n)

/-- The form of one character inside a string. -/
def escape (c : Char) : Text :=
  if c = '"' then ['\\', '"']
  else if c = '\\' then ['\\', '\\']
  else if c = '\u0008' then ['\\', 'b']
  else if c = '\t' then ['\\', 't']
  else if c = '\n' then ['\\', 'n']
  else if c = '\u000c' then ['\\', 'f']
  else if c = '\r' then ['\\', 'r']
  else if c.toNat < 32 then
    ['\\', 'u', '0', '0', hexDigit (c.toNat / 16), hexDigit (c.toNat % 16)]
  else [c]

def renderText (t : Text) : Text := '"' :: t.flatMap escape ++ ['"']

mutual

def render : Json → Text
  | null => "null".toList
  | bool b => if b then "true".toList else "false".toList
  | number n => Text.decimal n
  | text t => renderText t
  | array items => '[' :: renderItems items ++ [']']
  | object members => '{' :: renderMembers members ++ ['}']

/-- Items with commas between them. -/
def renderItems : List Json → Text
  | [] => []
  | [item] => render item
  | item :: next :: items => render item ++ ',' :: renderItems (next :: items)

/-- Members with commas between them. -/
def renderMembers : List (Text × Json) → Text
  | [] => []
  | [(name, value)] => renderText name ++ ':' :: render value
  | (name, value) :: next :: members =>
    renderText name ++ ':' :: render value ++ ',' :: renderMembers (next :: members)

end

/-- The number or text, or `null` if there is none. -/
def ofOption {α : Type} (f : α → Json) : Option α → Json
  | none => null
  | some a => f a

end Json

end DocHarvest
