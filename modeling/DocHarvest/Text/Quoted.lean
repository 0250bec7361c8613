import DocHarvest.Text.Basic
import DocHarvest.Unicode.Printable

/-!
# Quoted text

A text between double quotes, for messages. What would be invisible or ambiguous is escaped: quotes,
backslashes, line ends, and every character that does not show as itself.
-/

namespace DocHarvest.Text

/-- A number in base sixteen, with small letters and no leading zeros. -/
def hexadecimal (n : Nat) : Text := Nat.toDigits 16 n

/-- The form of one character between double quotes. -/
def quoteChar (c : Char) : Text :=
  if c = '\u0000' then ['\\', '0']
  else if c = '\t' then ['\\', 't']
  else if c = '\n' then ['\\', 'n']
  else if c = '\r' then ['\\', 'r']
  else if c = '"' then ['\\', '"']
  else if c = '\\' then ['\\', '\\']
  else if Unicode.isPrintable c then [c]
  else ['\\', 'u', '\x7b'] ++ hexadecimal c.toNat ++ ['\x7d']

def quoted (t : Text) : Text := '"' :: t.flatMap quoteChar ++ ['"']

end DocHarvest.Text
