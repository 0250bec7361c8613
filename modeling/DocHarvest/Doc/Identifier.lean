import DocHarvest.Text.Basic
import DocHarvest.Unicode.LetterCase
import DocHarvest.Unicode.Numeric

/-!
# Words of an identifier

An identifier is read as words: `getHTTPResponse_code` says get, http, response, code. A word ends
before a character that is neither letter nor numeral, where small letters turn to capitals, before
the last of several capitals when a small letter follows it, and between letters and digits.
-/

namespace DocHarvest.Doc

open Unicode

/-- Whether a new word starts at `c`, between its neighbours `before` and `after`. -/
def startsWord (before c : Char) (after : Option Char) : Bool :=
  if isUppercase c && isLowercase before then true
  else if isUppercase c && isUppercase before then after.any isLowercase
  else c.isDigit != before.isDigit && isAlphanumeric before

/-- The words of an identifier, in small letters. -/
def identifierWords (identifier : Text) : List Text :=
  go none [] identifier
where
  /-- `before` is the character just passed and `word` the word being read, in small letters. -/
  go (before : Option Char) (word : Text) : Text → List Text
    | [] => if word.isEmpty then [] else [word]
    | c :: t =>
      if !isAlphanumeric c then
        if word.isEmpty then go (some c) [] t else word :: go (some c) [] t
      else if before.any (startsWord · c t.head?) && !word.isEmpty then
        word :: go (some c) (toLower c) t
      else go (some c) (word ++ toLower c) t

end DocHarvest.Doc
