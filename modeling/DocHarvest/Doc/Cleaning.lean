import DocHarvest.Text.Replacement
import DocHarvest.Doc.Marker
import DocHarvest.Unicode.Alphabetic
import DocHarvest.Unicode.Word

/-!
# Cleaned comments

`clean` turns the text of a comment into plain prose: inline tags give way to what they say, markup
goes, decoration lines go, white space is evened out while paragraphs stay apart. A comment without
letters, or one that only asks a question, says nothing and becomes empty.
-/

namespace DocHarvest.Doc

open Text

/-! ## Inline tags -/

/-- Reads `{@word body}`: the word, the body up to the first closing brace, and what follows. -/
def inlineTag? : Text → Option (Text × Text × Text)
  | '{' :: '@' :: t =>
    if (t.takeWhile Unicode.isWordChar).isEmpty then none
    else
      (splitOnce '}' (trimStart (t.dropWhile Unicode.isWordChar))).map fun (body, rest) =>
        (t.takeWhile Unicode.isWordChar, body, rest)
  | _ => none

/-- What a link says: its label, or its target as a dotted name. -/
def linkText (body : Text) : Text :=
  match splitOnceBlank body with
  | (target, label) =>
    match nonBlank? label with
    | some label => label
    | none => (dropLeading '#' target).map fun c => if c = '#' then '.' else c
where
  /-- The first word and all that follows it. -/
  splitOnceBlank (t : Text) : Text × Text := t.span (!isBlank ·)

def inlineText (word body : Text) : Text :=
  let word := lowerAscii word
  let body := trim body
  if word = "inheritdoc".toList then []
  else if word = "link".toList || word = "linkplain".toList then linkText body
  else body

theorem length_of_inlineTag? {t word body rest : Text} (h : inlineTag? t = some (word, body, rest)) :
    rest.length < t.length := by
  unfold inlineTag? at h
  split at h
  · next t =>
    split at h
    · simp at h
    · obtain ⟨⟨a, b⟩, hs, e⟩ := Option.map_eq_some_iff.1 h
      simp only [Prod.mk.injEq] at e
      obtain ⟨-, -, rfl⟩ := e
      have h1 := length_of_splitOnce hs
      have h2 := length_trimStart_le (t.dropWhile Unicode.isWordChar)
      have h3 := length_dropWhile_le Unicode.isWordChar t
      simp only [List.length_cons]
      omega
  · simp at h

/-- Inline tags give way to what they say. -/
def inlineTags : Replacement where
  find? t := (inlineTag? t).map fun (word, body, rest) => (inlineText word body, rest)
  shortens found := by
    obtain ⟨⟨word, body, rest⟩, h, e⟩ := Option.map_eq_some_iff.1 found
    obtain rfl := (Prod.mk.inj e).2
    exact length_of_inlineTag? h

/-! ## Markup -/

/-- A letter A to Z, small or capital. -/
def isAsciiLetter (c : Char) : Bool := c.isAlpha

/-- A letter A to Z or a digit. -/
def isAsciiAlphanumeric (c : Char) : Bool := c.isAlphanum

/-- What follows the end of a markup tag, whose closing slash may be there or not. -/
def markupEnd? : Text → Option Text
  | '>' :: t => some t
  | '/' :: '>' :: t => some t
  | _ => none

def markupName? : Text → Option Text
  | [] => none
  | c :: t =>
    if isAsciiLetter c then
      match t.dropWhile isAsciiAlphanumeric with
      | [] => none
      | d :: rest =>
        markupEnd? <|
          if isBlank d then rest.dropWhile (fun e => e ≠ '<' && e ≠ '>') else d :: rest
    else none

/-- What follows a markup tag such as `<p>`, `</b>` or `<a href="x">`. -/
def markupTag? : Text → Option Text
  | '<' :: '/' :: t => markupName? t
  | '<' :: t => markupName? t
  | _ => none

theorem length_of_markupEnd? {t rest : Text} (h : markupEnd? t = some rest) :
    rest.length < t.length := by
  unfold markupEnd? at h
  split at h
  · obtain rfl := Option.some.inj h
    simp only [List.length_cons]
    omega
  · obtain rfl := Option.some.inj h
    simp only [List.length_cons]
    omega
  · exact absurd h nofun

theorem length_of_markupName? {t rest : Text} (h : markupName? t = some rest) :
    rest.length < t.length := by
  unfold markupName? at h
  split at h
  · simp at h
  · next c t =>
    split at h
    · have h1 := length_dropWhile_le isAsciiAlphanumeric t
      split at h
      · simp at h
      · next d more hd =>
        rw [hd] at h1
        have h2 := length_of_markupEnd? h
        split at h2
        · have h3 := length_dropWhile_le (fun e => e ≠ '<' && e ≠ '>') more
          simp only [List.length_cons] at *
          omega
        · simp only [List.length_cons] at *
          omega
    · simp at h

theorem length_of_markupTag? {t rest : Text} (h : markupTag? t = some rest) :
    rest.length < t.length := by
  unfold markupTag? at h
  split at h
  · have := length_of_markupName? h
    simp only [List.length_cons]
    omega
  · have := length_of_markupName? h
    simp only [List.length_cons]
    omega
  · simp at h

/-- Markup tags vanish. -/
def markupTags : Replacement where
  find? t := (markupTag? t).map fun rest => ([], rest)
  shortens found := by
    obtain ⟨rest, h, e⟩ := Option.map_eq_some_iff.1 found
    obtain rfl := (Prod.mk.inj e).2
    exact length_of_markupTag? h

/-- The character entities that are known, with the characters they stand for. -/
def entities : List (Text × Text) :=
  [("&nbsp;", " "), ("&amp;", "&"), ("&lt;", "<"), ("&gt;", ">"), ("&quot;", "\""), ("&#39;", "'")].map
    fun (written, meant) => (written.toList, meant.toList)

/-- Character entities give way to their characters. -/
def entityNames : Replacement where
  find? t := entities.findSome? fun (written, meant) =>
    (dropLead? written t).map fun rest => (meant, rest)
  shortens found := by
    obtain ⟨⟨written, meant⟩, mem, found⟩ := List.exists_of_findSome?_eq_some found
    obtain ⟨rest, h, e⟩ := Option.map_eq_some_iff.1 found
    obtain rfl := (Prod.mk.inj e).2
    have := length_of_dropLead? h
    have pos : 0 < written.length := by
      simp [entities] at mem
      rcases mem with ⟨rfl, -⟩ | ⟨rfl, -⟩ | ⟨rfl, -⟩ | ⟨rfl, -⟩ | ⟨rfl, -⟩ | ⟨rfl, -⟩ <;> decide
    omega

/-! ## Lines -/

/-- The markers that may be left at the front of a line, longest first. -/
def lineMarkers : List Text := ["/**", "/*", "///", "//", "*", "#"].map String.toList

/-- A line without a comment marker left at either end. -/
def stripLineMarkers (line : Text) : Text :=
  let line := trim line
  let line := ((dropTail? blockEnd line).map trimEnd).getD line
  ((dropMarker? lineMarkers line).map trimStart).getD line

/-- The blanks that may stand inside a line. -/
def isInnerBlank (c : Char) : Bool := c = ' ' || c = '\t' || c = '\u00a0'

/-- Every run of blanks inside a line becomes one space. -/
def evenBlanks : Text → Text
  | [] => []
  | c :: t =>
    if isInnerBlank c then
      if t.head?.any isInnerBlank then evenBlanks t else ' ' :: evenBlanks t
    else c :: evenBlanks t

/-- A line of a comment as prose. -/
def cleanLine (line : Text) : Text := trim (evenBlanks (stripLineMarkers line))

/-- The characters that lines are decorated with. -/
def isDecoration (c : Char) : Bool :=
  isBlank c || ['-', '=', '*', '#', '~', '_', '+', '/'].contains c

def isSeparatorLine (line : Text) : Bool := !line.isEmpty && line.all isDecoration

/-- The lines with one empty line at most between two others, and none at either end. -/
def spaceParagraphs (ls : List Text) : List Text :=
  go false (ls.dropWhile List.isEmpty)
where
  /-- `gap` says whether empty lines were passed since the last line. -/
  go (gap : Bool) : List Text → List Text
    | [] => []
    | line :: ls =>
      if line.isEmpty then go true ls
      else if gap then [] :: line :: go false ls
      else line :: go false ls

/-! ## The whole comment -/

/-- Whether the text is one sentence that ends in a question mark. -/
def isQuestion (t : Text) : Bool :=
  match dropTail? ['?'] (trim t) with
  | none => false
  | some sentence => !sentence.any fun c => c = '.' || c = '!' || c = '?' || c = '\n'

/-- The text of a comment without inline tags, markup tags and entities. -/
def plainText (t : Text) : Text := entityNames.apply (markupTags.apply (inlineTags.apply t))

/-- The lines of a comment as prose, without decoration. -/
def proseLines (t : Text) : List Text :=
  spaceParagraphs (((splitLines t).map cleanLine).filter (!isSeparatorLine ·))

/-- A comment as plain prose, or the empty text if it says nothing. -/
def clean (t : Text) : Text :=
  let prose := joinLines (proseLines (plainText t))
  if prose.any Unicode.isAlphabetic && !isQuestion prose then prose else []

end DocHarvest.Doc
