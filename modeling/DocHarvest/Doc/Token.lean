import DocHarvest.Text.Replacement

/-!
# Words and punctuation of prose

Free text is cut into words and runs of one punctuation character; an empty pair of brackets is one
token. White space, commas and quotation marks separate tokens and are never part of one.
-/

namespace DocHarvest.Doc

open Text

/-- The characters that only separate tokens. -/
def isSeparator (c : Char) : Bool :=
  isBlank c || c = ',' || c = '\'' || c = '"' || c = '\x60'

/-- The characters whose runs are tokens of their own. -/
def isPunctuation (c : Char) : Bool :=
  ['.', '(', ')', ':', '[', ']', '=', '*', ';', '>', '{', '}', '+', '-', '/', '\\'].contains c

/-- The characters that words are made of: all others. -/
def isTokenLetter (c : Char) : Bool := !isSeparator c && !isPunctuation c

/-- The bracket that closes `c`. -/
def closingBracket? (c : Char) : Option Char :=
  if c = '(' then some ')' else if c = '{' then some '}' else if c = '[' then some ']' else none

/-- Whether the text begins with the bracket that closes `c`. -/
def closesAtOnce (c : Char) (t : Text) : Bool :=
  t.head?.any fun d => closingBracket? c = some d

/-- The tokens of a text, in order. -/
def tokens : Text → List Text
  | [] => []
  | c :: t =>
    if isSeparator c then tokens t
    else if isTokenLetter c then
      (c :: t.takeWhile isTokenLetter) :: tokens (t.dropWhile isTokenLetter)
    else if closesAtOnce c t then (c :: t.take 1) :: tokens (t.drop 1)
    else (c :: t.takeWhile (· = c)) :: tokens (t.dropWhile (· = c))
termination_by t => t.length
decreasing_by
  · simp
  · have := length_dropWhile_le isTokenLetter t
    simp; omega
  · simp only [List.length_drop, List.length_cons]; omega
  · have := length_dropWhile_le (· = c) t
    simp; omega

end DocHarvest.Doc
