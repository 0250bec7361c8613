import DocHarvest.Text.Bytes

/-!
# Places in a YAML text

A `Cursor` is a place in a text with its line and column. What ends a line, and what is white space
inside one, is decided here.

* `length_of_lineBreak?` : a line break is not empty
-/

namespace DocHarvest.Yaml

/-- White space inside a line. -/
def isBlank (c : Char) : Bool := c = ' ' || c = '\t'

/-- The characters that end a line. -/
def isBreak (c : Char) : Bool :=
  c = '\n' || c = '\r' || c = '\u0085' || c = '\u2028' || c = '\u2029'

/-- Whether white space, a line break or the end of the text comes first. -/
def beginsBlank : Text → Bool
  | [] => true
  | c :: _ => isBlank c || isBreak c

/-- The characters of the names of anchors, tags and directives. -/
def isWordChar (c : Char) : Bool := c.isAlphanum || c = '_' || c = '-'

/-- The characters that a text may hold. -/
def isAllowed (c : Char) : Bool :=
  c = '\t' || c = '\n' || c = '\r' || (' ' ≤ c && c ≤ '~') || c = '\u0085' ||
    ('\u00a0' ≤ c && c ≤ '\ud7ff') || ('\ue000' ≤ c && c ≤ '\ufffd') || 0x10000 ≤ c.toNat

/-- The mark of the byte order; it may stand in front of a line. -/
def orderMark : Char := '\ufeff'

/-- A line break: the character that it reads as, the number of bytes that it is written with, and
what follows. -/
structure LineBreak where
  form : Char
  width : Nat
  rest : Text

def lineBreak? : Text → Option LineBreak
  | [] => none
  | '\r' :: '\n' :: t => some ⟨'\n', 2, t⟩
  | c :: t =>
    if c = '\n' || c = '\r' || c = '\u0085' then some ⟨'\n', c.utf8Size, t⟩
    else if c = '\u2028' || c = '\u2029' then some ⟨c, c.utf8Size, t⟩
    else none

theorem length_of_lineBreak? {t : Text} {b : LineBreak} (h : lineBreak? t = some b) :
    b.rest.length < t.length := by
  unfold lineBreak? at h
  split at h
  · exact absurd h nofun
  · obtain rfl := Option.some.inj h
    simp only [List.length_cons]
    omega
  · split at h
    · obtain rfl := Option.some.inj h
      simp
    · split at h
      · obtain rfl := Option.some.inj h
        simp
      · exact absurd h nofun

/-- A place in a text. -/
structure Cursor where
  /-- What follows the place. -/
  rest : Text
  /-- The number of bytes before the place. -/
  index : Nat := 0
  line : Nat := 0
  column : Nat := 0

namespace Cursor

/-- The place some characters further on in the same line. -/
def skip (c : Cursor) (n : Nat) : Cursor :=
  { c with
    rest := c.rest.drop n
    index := c.index + Text.byteLength (c.rest.take n)
    column := c.column + n }

/-- The place behind a line break. -/
def breakLine (c : Cursor) (b : LineBreak) : Cursor :=
  ⟨b.rest, c.index + b.width, c.line + 1, 0⟩

@[simp] theorem rest_skip (c : Cursor) (n : Nat) : (c.skip n).rest = c.rest.drop n := rfl

/-- The place behind the characters of a kind. -/
def skipWhile (c : Cursor) (p : Char → Bool) : Cursor := c.skip (c.rest.takeWhile p).length

/-- The characters of a kind at the place. -/
def takeWhile (c : Cursor) (p : Char → Bool) : Text := c.rest.takeWhile p

end Cursor

/-- Whether a text begins with the line that starts or ends a document. -/
def isMarker (t : Text) : Bool :=
  (t.take 3 = "---".toList || t.take 3 = "...".toList) && beginsBlank (t.drop 3)

/-- The place of the next token: white space, comments, line breaks and the mark of the byte order in
front of a line are skipped. Outside flow collections a line break makes way for a key, and tabs cannot
stand where a key can. -/
def skipGap (inFlow keyAllowed inComment : Bool) (c : Cursor) : Cursor × Bool :=
  match _rest : c.rest with
  | [] => (c, keyAllowed)
  | first :: _ =>
    match _break : lineBreak? c.rest with
    | some b => skipGap inFlow (keyAllowed || !inFlow) false (c.breakLine b)
    | none =>
      if inComment || first = ' ' || ((inFlow || !keyAllowed) && first = '\t') ||
          (c.column = 0 && first = orderMark) then
        skipGap inFlow keyAllowed inComment (c.skip 1)
      else if first = '#' then skipGap inFlow keyAllowed true (c.skip 1)
      else (c, keyAllowed)
termination_by c.rest.length
decreasing_by
  · exact length_of_lineBreak? _break
  all_goals simp [_rest]

end DocHarvest.Yaml
