import DocHarvest.Text.Digits
import DocHarvest.Yaml.Cursor

/-!
# YAML scalars

The text of a scalar in each of its forms: plain, between quotes, and as a block of lines. In the
first two a line break reads as a space, and more of them as one less; white space around line breaks
is dropped.
-/

namespace DocHarvest.Yaml

/-! ## White space inside a scalar -/

/-- White space between two pieces of a scalar. -/
inductive Gap where
  /-- White space inside a line; perhaps none. -/
  | blanks (t : Text)
  /-- Line breaks. The first one is missing where a backslash stands in front of it. -/
  | breaks (first : Option Char) (others : Text)

namespace Gap

/-- No white space. -/
def none : Gap := blanks []

/-- Whether there is nothing between the pieces. -/
def isNone : Gap → Bool
  | blanks t => t.isEmpty
  | breaks _ _ => false

/-- Whether the gap goes over a line break. -/
def isBroken : Gap → Bool
  | blanks _ => false
  | breaks _ _ => true

/-- The gap with more white space. -/
def addBlank (c : Char) : Gap → Gap
  | blanks t => blanks (t ++ [c])
  | breaks first others => breaks first others

def addBreak (c : Char) : Gap → Gap
  | blanks _ => breaks (some c) []
  | breaks first others => breaks first (others ++ [c])

def text : Gap → Text
  | blanks t => t
  | breaks (some '\n') [] => [' ']
  | breaks (some '\n') others => others
  | breaks first others => first.toList ++ others

end Gap

/-! ## Plain scalars -/

/-- Whether a character belongs to the form of a flow collection. -/
def isFlowSign (c : Char) : Bool := ",[]\x7b\x7d".toList.contains c

/-- Whether a plain scalar ends at a place that holds no white space. -/
def endsPlain (inFlow : Bool) (indent : Nat) (gap : Gap) (c : Cursor) : Bool :=
  match c.rest with
  | [] => true
  | first :: rest =>
    (!gap.isNone && ((!inFlow && c.column < indent) || first = '#' ||
      (c.column = 0 && isMarker c.rest))) ||
    (first = ':' && beginsBlank rest) || (inFlow && isFlowSign first)

/-- Whether a colon stands where a plain scalar inside a flow collection cannot hold it. -/
def isBadColon (inFlow : Bool) (t : Text) : Bool :=
  inFlow && t.head? = some ':' && (t.drop 1).head?.any fun c => isFlowSign c || c = '?'

/-- Reads a plain scalar; `read` holds its text, last character first. Also gives the white space
behind it. -/
def plain? (inFlow : Bool) (indent : Nat) (read : Text) (gap : Gap) (c : Cursor) :
    Option (Text × Gap × Cursor) :=
  match _rest : c.rest with
  | [] => some (read.reverse, gap, c)
  | first :: _ =>
    match _break : lineBreak? c.rest with
    | some b => plain? inFlow indent read (gap.addBreak b.form) (c.breakLine b)
    | none =>
      if isBlank first then
        if gap.isBroken && c.column < indent && first = '\t' then none
        else plain? inFlow indent read (gap.addBlank first) (c.skip 1)
      else if endsPlain inFlow indent gap c then some (read.reverse, gap, c)
      else if isBadColon inFlow c.rest then none
      else plain? inFlow indent (first :: (gap.text.reverse ++ read)) .none (c.skip 1)
termination_by c.rest.length
decreasing_by
  · exact length_of_lineBreak? _break
  all_goals simp [_rest]

/-! ## Quoted scalars -/

/-- The character whose number is written with `count` digits. -/
def numbered? (count : Nat) (t : Text) : Option Char := do
  let digits := t.take count
  let n ← Text.hexNumber? digits
  if digits.length = count && n.isValidChar then some (Char.ofNat n) else none

/-- The characters that are escaped by a letter. -/
def letterEscapes : List (Char × Char) :=
  [('0', '\u0000'), ('a', '\u0007'), ('b', '\u0008'), ('t', '\t'), ('\t', '\t'), ('n', '\n'),
    ('v', '\u000b'), ('f', '\u000c'), ('r', '\r'), ('e', '\u001b'), (' ', ' '), ('"', '"'),
    ('/', '/'), ('\\', '\\'), ('N', '\u0085'), ('_', '\u00a0'), ('L', '\u2028'), ('P', '\u2029')]

/-- The character that is escaped at the front of a text, after a backslash, and the number of
characters that stand for it. -/
def escaped? : Text → Option (Char × Nat)
  | [] => none
  | 'x' :: t => (numbered? 2 t).map (·, 3)
  | 'u' :: t => (numbered? 4 t).map (·, 5)
  | 'U' :: t => (numbered? 8 t).map (·, 9)
  | c :: _ => (letterEscapes.find? (·.1 = c)).map fun e => (e.2, 1)

/-- What stands at a place inside quotes. -/
inductive QuotedItem where
  /-- A character that takes this many characters to write. -/
  | char (c : Char) (width : Nat)
  | close
  /-- A backslash before a line break. -/
  | continued (b : LineBreak)

/-- What stands at the front of a text inside quotes. -/
def quotedItem? (isDouble : Bool) : Text → Option QuotedItem
  | [] => none
  | c :: t =>
    if isDouble then
      if c = '"' then some .close
      else if c = '\\' then
        match lineBreak? t with
        | some b => some (.continued b)
        | none => (escaped? t).map fun (e, width) => .char e width
      else some (.char c 0)
    else if c = '\'' then if t.head? = some '\'' then some (.char c 1) else some .close
    else some (.char c 0)

theorem length_of_continued {isDouble : Bool} {t : Text} {b : LineBreak}
    (h : quotedItem? isDouble t = some (.continued b)) : b.rest.length < t.length := by
  unfold quotedItem? at h
  split at h
  · cases h
  · split at h
    · split at h
      · cases h
      · split at h
        · split at h
          · next hb =>
            obtain rfl := QuotedItem.continued.inj (Option.some.inj h)
            exact Nat.lt_succ_of_lt (length_of_lineBreak? hb)
          · obtain ⟨_, _, e⟩ := Option.map_eq_some_iff.1 h
            cases e
        · cases h
    · split at h
      · split at h <;> cases h
      · cases h

/-- Reads a scalar up to its closing quote; `read` holds its text, last character first. -/
def quoted? (isDouble : Bool) (read : Text) (gap : Gap) (c : Cursor) : Option (Text × Cursor) :=
  match _rest : c.rest with
  | [] => none
  | first :: _ =>
    match _break : lineBreak? c.rest with
    | some b => quoted? isDouble read (gap.addBreak b.form) (c.breakLine b)
    | none =>
      if isBlank first then quoted? isDouble read (gap.addBlank first) (c.skip 1)
      else if c.column = 0 && isMarker c.rest then none
      else
        let read := gap.text.reverse ++ read
        match _item : quotedItem? isDouble c.rest with
        | none => none
        | some .close => some (read.reverse, c.skip 1)
        | some (.char ch width) => quoted? isDouble (ch :: read) .none (c.skip (width + 1))
        | some (.continued b) => quoted? isDouble read (.breaks none []) ((c.skip 1).breakLine b)
termination_by c.rest.length
decreasing_by
  · exact length_of_lineBreak? _break
  · simp [_rest]
  · simp only [Cursor.rest_skip, _rest, List.length_drop, List.length_cons]; omega
  · exact length_of_continued _item

/-! ## Blocks of lines -/

/-- What becomes of the line breaks at the end of a block. -/
inductive Chomping where
  | strip
  | clip
  | keep
deriving DecidableEq

/-- The first line of a block: its chomping, and how far it is indented if that is written down. -/
structure BlockHead where
  chomping : Chomping := .clip
  increment : Nat := 0

/-- The chomping that a sign stands for. -/
def chomping? (c : Char) : Option Chomping :=
  if c = '+' then some .keep else if c = '-' then some .strip else none

/-- The indentation that a digit stands for. -/
def increment? (c : Char) : Option Nat :=
  if c.isDigit && c ≠ '0' then some (Text.digitValue c) else none

/-- Reads the signs behind the `|` or `>` of a block. -/
def blockHead (t : Text) : BlockHead × Nat :=
  match t with
  | [] => ({}, 0)
  | a :: t =>
    match chomping? a, t with
    | some chomping, [] => ({ chomping }, 1)
    | some chomping, b :: _ =>
      match increment? b with
      | some increment => (⟨chomping, increment⟩, 2)
      | none => ({ chomping }, 1)
    | none, t =>
      match increment? a with
      | none => ({}, 0)
      | some increment =>
        match t.head?.bind chomping? with
        | some chomping => (⟨chomping, increment⟩, 2)
        | none => ({ increment }, 1)

/-- Skips indentation and empty lines. With an `indent` of zero any indentation is skipped. Gives the
greatest indentation that was met, and the line breaks. -/
def blockBreaks? (indent widest : Nat) (breaks : Text) (c : Cursor) : Option (Nat × Text × Cursor) :=
  match _rest : c.rest with
  | [] => some (max widest c.column, breaks, c)
  | first :: _ =>
    if (indent = 0 || c.column < indent) && first = ' ' then
      blockBreaks? indent widest breaks (c.skip 1)
    else if (indent = 0 || c.column < indent) && first = '\t' then none
    else
      match _break : lineBreak? c.rest with
      | some b => blockBreaks? indent (max widest c.column) (breaks ++ [b.form]) (c.breakLine b)
      | none => some (max widest c.column, breaks, c)
termination_by c.rest.length
decreasing_by
  · simp [_rest]
  · exact length_of_lineBreak? _break

/-- A block while it is read. -/
structure Block where
  text : Text := []
  /-- The line break behind the last line that is not empty. -/
  first : Option Char := none
  /-- The line breaks of the empty lines behind it. -/
  others : Text := []
  /-- Whether that line begins with white space. -/
  isIndented : Bool := false

namespace Block

/-- Appends a line. Between lines that are folded a line break reads as a space, or is dropped before
empty lines. -/
def addLine (block : Block) (folded : Bool) (line : Text) : Block :=
  let isIndented := line.head?.any isBlank
  let joint :=
    if folded && block.first = some '\n' && !block.isIndented && !isIndented then
      if block.others.isEmpty then [' '] else []
    else block.first.toList
  { text := block.text ++ joint ++ block.others ++ line, isIndented }

def finish (block : Block) : Chomping → Text
  | .strip => block.text
  | .clip => block.text ++ block.first.toList
  | .keep => block.text ++ block.first.toList ++ block.others

end Block

/-- Reads the lines of a block, `fuel` at most. -/
def blockLines? (folded : Bool) (indent : Nat) : Nat → Block → Cursor → Option (Block × Cursor)
  | 0, _, _ => none
  | fuel + 1, block, c =>
    if c.rest.isEmpty || c.column ≠ indent then some (block, c)
    else
      let isInLine := fun ch => !isBreak ch
      let block := block.addLine folded (c.takeWhile isInLine)
      let c := c.skipWhile isInLine
      let (first, c) :=
        match lineBreak? c.rest with
        | some b => (some b.form, c.breakLine b)
        | none => (none, c)
      match blockBreaks? indent 0 [] c with
      | none => none
      | some (_, others, c) => blockLines? folded indent fuel { block with first, others } c

/-- Reads a block after its `|` or `>`, inside a collection with the given indentation. -/
def block? (folded : Bool) (outer : Int) (c : Cursor) : Option (Text × Cursor) := do
  let (head, width) := blockHead c.rest
  let c := (c.skip width).skipWhile isBlank
  let c := if c.rest.head? = some '#' then c.skipWhile fun ch => !isBreak ch else c
  let c ←
    match c.rest, lineBreak? c.rest with
    | [], _ => some c
    | _, some b => some (c.breakLine b)
    | _, none => none
  let written := if head.increment = 0 then 0 else (max outer 0).toNat + head.increment
  let (widest, breaks, c) ← blockBreaks? written 0 [] c
  let indent := if written = 0 then max (max widest (outer + 1).toNat) 1 else written
  let (block, c) ← blockLines? folded indent (c.rest.length + 1) { others := breaks } c
  return (block.finish head.chomping, c)

end DocHarvest.Yaml
