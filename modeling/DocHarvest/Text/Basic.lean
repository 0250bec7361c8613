/-!
# Texts

A text is the list of its characters. This module holds the operations that every reader in the
library is built from: white space and trimming, leading and trailing pieces, cutting a text at a
separator, and lines.

* `join_splitOn` : cutting at a separator and joining with it again gives the text back
* `splitOn_ne_nil` : a text always has at least one piece
-/

namespace DocHarvest

/-- A text, as the list of its characters. -/
abbrev Text := List Char

namespace Text

/-! ## White space -/

/-- The characters with the White_Space property. -/
def isBlank (c : Char) : Bool :=
  c = ' ' || ('\t' ≤ c && c ≤ '\r') || c = '\u0085' || c = '\u00a0' || c = '\u1680' ||
    ('\u2000' ≤ c && c ≤ '\u200a') || c = '\u2028' || c = '\u2029' || c = '\u202f' ||
    c = '\u205f' || c = '\u3000'

/-- The text without its leading white space. -/
def trimStart (t : Text) : Text := t.dropWhile isBlank

/-- The text without its trailing white space. -/
def trimEnd (t : Text) : Text := (t.reverse.dropWhile isBlank).reverse

/-- The text without white space at its ends. -/
def trim (t : Text) : Text := trimEnd (trimStart t)

/-- Whether the text holds nothing but white space. -/
def isBlankText (t : Text) : Bool := t.all isBlank

/-- The trimmed text, or nothing if that is empty. -/
def nonBlank? (t : Text) : Option Text :=
  let trimmed := trim t
  if trimmed.isEmpty then none else some trimmed

/-! ## Leading and trailing pieces -/

/-- What follows `lead` in a text that begins with it. -/
def dropLead? : Text → Text → Option Text
  | [], t => some t
  | _ :: _, [] => none
  | l :: lead, c :: t => if l = c then dropLead? lead t else none

/-- Whether the text begins with `lead`. -/
def beginsWith (t lead : Text) : Bool := (dropLead? lead t).isSome

/-- What stands before `tail` in a text that ends with it. -/
def dropTail? (tail t : Text) : Option Text :=
  (dropLead? tail.reverse t.reverse).map List.reverse

/-- Whether the text ends with `tail`. -/
def finishesWith (t tail : Text) : Bool := (dropTail? tail t).isSome

/-- The text without the copies of `c` that lead it. -/
def dropLeading (c : Char) (t : Text) : Text := t.dropWhile (· = c)

/-- The text without the copies of `c` that end it. -/
def dropTrailing (c : Char) (t : Text) : Text := (t.reverse.dropWhile (· = c)).reverse

theorem dropLead?_eq_some {lead t rest : Text} :
    dropLead? lead t = some rest ↔ t = lead ++ rest := by
  induction lead generalizing t with
  | nil => simp [dropLead?]
  | cons l lead ih =>
    cases t with
    | nil => simp [dropLead?]
    | cons c t =>
      by_cases h : l = c
      · simp [dropLead?, h, ih]
      · simp [dropLead?, h, Ne.symm h]

theorem dropLead?_eq_none {lead t : Text} : dropLead? lead t = none ↔ ¬lead <+: t := by
  rw [Option.eq_none_iff_forall_ne_some]
  simp only [ne_eq, dropLead?_eq_some]
  exact ⟨fun h ⟨rest, e⟩ => h rest e.symm, fun h rest e => h ⟨rest, e.symm⟩⟩

theorem dropTail?_eq_some {tail t rest : Text} :
    dropTail? tail t = some rest ↔ t = rest ++ tail := by
  simp only [dropTail?, Option.map_eq_some_iff, dropLead?_eq_some]
  constructor
  · rintro ⟨r, h, rfl⟩
    rw [← List.reverse_inj]
    simpa using h
  · rintro rfl
    exact ⟨rest.reverse, by simp, by simp⟩

theorem dropTail?_eq_none {tail t : Text} : dropTail? tail t = none ↔ ¬tail <:+ t := by
  rw [Option.eq_none_iff_forall_ne_some]
  simp only [ne_eq, dropTail?_eq_some]
  exact ⟨fun h ⟨rest, e⟩ => h rest e.symm, fun h rest e => h ⟨rest, e.symm⟩⟩

/-! ## Order -/

/-- Whether a text comes before another one or is the same, by the numbers of their characters. -/
def isAtMost : Text → Text → Bool
  | [], _ => true
  | _ :: _, [] => false
  | c :: a, d :: b => if c = d then isAtMost a b else c.toNat < d.toNat

/-! ## Cutting and joining -/

/-- The pieces between the copies of `sep`; one more than there are copies. -/
def splitOn (sep : Char) : Text → List Text
  | [] => [[]]
  | c :: t =>
    if c = sep then [] :: splitOn sep t
    else
      match splitOn sep t with
      | [] => [[c]]
      | piece :: pieces => (c :: piece) :: pieces

/-- The pieces one after another, with `sep` between neighbours. -/
def join (sep : Char) : List Text → Text
  | [] => []
  | [piece] => piece
  | piece :: next :: pieces => piece ++ sep :: join sep (next :: pieces)

/-- The text before the first copy of `sep` and the text after it. -/
def splitOnce (sep : Char) : Text → Option (Text × Text)
  | [] => none
  | c :: t =>
    if c = sep then some ([], t) else (splitOnce sep t).map fun (a, b) => (c :: a, b)

/-- The text before the first occurrence of the text `sep` and the text after it. -/
def splitOnceText (sep : Text) : Text → Option (Text × Text)
  | [] => (dropLead? sep []).map fun rest => ([], rest)
  | c :: t =>
    match dropLead? sep (c :: t) with
    | some rest => some ([], rest)
    | none => (splitOnceText sep t).map fun (a, b) => (c :: a, b)

theorem splitOn_ne_nil (sep : Char) (t : Text) : splitOn sep t ≠ [] := by
  cases t with
  | nil => simp [splitOn]
  | cons c t =>
    unfold splitOn
    split
    · simp
    · split <;> simp

theorem join_splitOn (sep : Char) (t : Text) : join sep (splitOn sep t) = t := by
  induction t with
  | nil => rfl
  | cons c t ih =>
    unfold splitOn
    split
    · next h =>
      cases hs : splitOn sep t with
      | nil => exact absurd hs (splitOn_ne_nil sep t)
      | cons piece pieces =>
        rw [hs] at ih
        simp [join, ih, h]
    · cases hs : splitOn sep t with
      | nil => exact absurd hs (splitOn_ne_nil sep t)
      | cons piece pieces =>
        rw [hs] at ih
        cases pieces with
        | nil => simpa [join] using ih
        | cons next pieces => simpa [join] using ih

/-- The words of a text: its longest pieces without white space. -/
def words (t : Text) : List Text :=
  go [] t
where
  /-- `word` holds the word being read, last character first. -/
  go (word : Text) : Text → List Text
    | [] => if word.isEmpty then [] else [word.reverse]
    | c :: t =>
      if isBlank c then
        if word.isEmpty then go [] t else word.reverse :: go [] t
      else go (c :: word) t

/-- The first word of a text and all that follows it. -/
def splitFirstWord (t : Text) : Text × Text :=
  (trimStart t).span (!isBlank ·)

/-! ## Lines -/

/-- The pieces between line feeds: the last line may be empty. -/
def splitLines (t : Text) : List Text := splitOn '\n' t

/-- Lines one below the other. -/
def joinLines (ls : List Text) : Text := join '\n' ls

/-- The lines of a text, without their ends. A line ends with a line feed, or with a carriage return
and a line feed; only a line that is not empty may lack its end. -/
def lines (t : Text) : List Text :=
  go (splitLines t)
where
  /-- Every piece but the last was followed by a line feed. -/
  go : List Text → List Text
    | [] => []
    | [last] => if last.isEmpty then [] else [last]
    | line :: rest => (dropTail? ['\r'] line).getD line :: go rest

/-! ## Letters of the English alphabet -/

/-- The text with the capitals A to Z made small. -/
def lowerAscii (t : Text) : Text := t.map Char.toLower

end Text

end DocHarvest
