import DocHarvest.Proofs.Doc.Bracket
import DocHarvest.Proofs.Doc.Markup
import DocHarvest.Proofs.Unicode.Words

/-!
# Inline tags in prose

A tag `{@word body}` between words is replaced by what it says of the part of its body in front of the
first closing brace, and all behind that brace is text again (`clean_writeInlineTag`). Two things can
then keep the body from coming out as it was written: a closing brace inside the body that is not
among those at its end (`clean_inlineTag_eq_iff`), and markup or an entity in the body, which is
replaced although it stood in the tag (`clean_codeTag_eq_iff`).
-/

namespace DocHarvest.Doc

open Text

variable {p s b w t mid : Text} {c : Char}

/-! ## One line between letters -/

/-- An ASCII character that is no letter. -/
def IsSign (c : Char) : Prop := c.toNat < 128 ∧ c.isAlpha = false

instance (c : Char) : Decidable (IsSign c) := inferInstanceAs (Decidable (_ ∧ _))

theorem IsSign.not_isAlphabetic (h : IsSign c) : ¬Unicode.isAlphabetic c = true := by
  rw [Unicode.isAlphabetic_of_toNat_lt h.1, h.2]
  exact Bool.false_ne_true

theorem isDecoration_of_isAlphabetic (h : Unicode.isAlphabetic c = true) :
    isDecoration c = false := by
  have signs : ['-', '=', '*', '#', '~', '_', '+', '/'].all (fun d => decide (IsSign d)) = true := by
    decide
  rw [isDecoration, Unicode.isBlank_of_isAlphabetic h, Bool.false_or]
  by_contra sign
  rw [Bool.not_eq_false, List.contains_iff_mem] at sign
  exact (of_decide_eq_true (List.all_eq_true.1 signs c sign)).not_isAlphabetic h

/-- One line that begins and ends with a letter. -/
structure IsLetteredLine (t : Text) : Prop where
  first : ∃ c ∈ t.head?, Unicode.isAlphabetic c = true
  last : ∃ c ∈ t.getLast?, Unicode.isAlphabetic c = true
  newline : '\n' ∉ t

namespace IsLetteredLine

theorem isTrimmed (h : IsLetteredLine t) : IsTrimmed t := by
  obtain ⟨c, head, letter⟩ := h.first
  obtain ⟨d, last, letter'⟩ := h.last
  constructor
  · intro e he
    obtain rfl := Option.some.inj (head.symm.trans he)
    exact Unicode.isBlank_of_isAlphabetic letter
  · intro e he
    obtain rfl := Option.some.inj (last.symm.trans he)
    exact Unicode.isBlank_of_isAlphabetic letter'

theorem isUnmarked (h : IsLetteredLine t) : IsUnmarked t := by
  constructor
  · obtain ⟨c, head, letter⟩ := h.first
    have opens : ∀ marker ∈ ["/*", "//", "*", "#"].map String.toList,
        marker.head?.any (fun o => decide (IsSign o)) = true := by decide
    rintro marker mem ⟨rest, e⟩
    obtain ⟨o, first, sign⟩ := (Option.any_eq_true _ _).1 (opens marker mem)
    rw [← e, List.head?_append, first] at head
    obtain rfl : o = c := Option.some.inj head
    exact (of_decide_eq_true sign).not_isAlphabetic letter
  · obtain ⟨d, last, letter⟩ := h.last
    rintro ⟨front, e⟩
    rw [← e, List.getLast?_append_of_ne_nil _ (by decide)] at last
    obtain rfl : '/' = d := Option.some.inj last
    have sign : IsSign '/' := by decide
    exact sign.not_isAlphabetic letter

theorem evenBlanks (h : IsLetteredLine t) : IsLetteredLine (evenBlanks t) where
  first := head?_evenBlanks_of_isTrimmed h.isTrimmed ▸ h.first
  last := getLast?_evenBlanks_of_isTrimmed h.isTrimmed ▸ h.last
  newline mem := (mem_of_mem_evenBlanks mem).elim (by decide) h.newline

theorem exists_isAlphabetic (h : IsLetteredLine t) : ∃ c ∈ t, Unicode.isAlphabetic c = true := by
  obtain ⟨c, head, letter⟩ := h.first
  exact ⟨c, List.mem_of_head? head, letter⟩

theorem isQuestion_eq (h : IsLetteredLine t) : isQuestion t = false := by
  rw [Bool.eq_false_iff, Ne, isQuestion_iff h.isTrimmed]
  rintro ⟨mark, -⟩
  obtain ⟨d, last, letter⟩ := h.last
  obtain rfl := Option.some.inj (mark.symm.trans last)
  have sign : IsSign '?' := by decide
  exact sign.not_isAlphabetic letter

theorem proseLines_eq (h : IsLetteredLine t) : proseLines t = [Doc.evenBlanks t] := by
  have line : cleanLine t = Doc.evenBlanks t := cleanLine_eq_evenBlanks h.isTrimmed h.isUnmarked
  have alone : splitLines t = [t] := splitOn_of_not_mem h.newline
  obtain ⟨c, mem, letter⟩ := h.evenBlanks.exists_isAlphabetic
  have full : Doc.evenBlanks t ≠ [] := List.ne_nil_of_mem mem
  have kept : isSeparatorLine (Doc.evenBlanks t) = false :=
    isSeparatorLine_eq_false_iff.2 fun _ => ⟨c, mem, isDecoration_of_isAlphabetic letter⟩
  simp [proseLines, alone, line, kept, spaceParagraphs, spaceParagraphs.go, full]

/-- A line that begins and ends with a letter loses no more than surplus blanks. -/
theorem clean_eq {z : Text} (h : IsLetteredLine z) (plain : plainText t = z) :
    clean t = Doc.evenBlanks z := by
  have letter := List.any_eq_true.2 h.evenBlanks.exists_isAlphabetic
  have alone : joinLines [Doc.evenBlanks z] = Doc.evenBlanks z := rfl
  rw [clean, plain, h.proseLines_eq, alone, letter, h.evenBlanks.isQuestion_eq]
  rfl

end IsLetteredLine

/-! ## Tags and the words around them -/

/-- An inline tag as it is written. -/
def writeInlineTag (word body : Text) : Text := '{' :: '@' :: word ++ ' ' :: body ++ ['}']

/-- Letters and single spaces. -/
structure IsWords (t : Text) : Prop where
  chars : ∀ c ∈ t, c = ' ' ∨ Unicode.isAlphabetic c = true
  single : t.IsChain fun c d => ¬(c = ' ' ∧ d = ' ')

/-- Words in front of a tag, with a space between. -/
structure IsLeadIn (p : Text) : Prop extends IsWords p where
  first : ∃ c ∈ p.head?, Unicode.isAlphabetic c = true
  last : p.getLast? = some ' '

/-- Words behind a tag, with a space between. -/
structure IsLeadOut (s : Text) : Prop extends IsWords s where
  first : s.head? = some ' '
  last : ∃ c ∈ s.getLast?, Unicode.isAlphabetic c = true

/-- The word of a tag: letters, digits and the like. -/
structure IsTagWord (w : Text) : Prop where
  ne : w ≠ []
  all : ∀ c ∈ w, Unicode.isWordChar c = true

/-- The body of a tag: on one line, trimmed, not empty and evenly spaced. -/
structure IsTagBody (b : Text) : Prop extends IsLine b, IsEven b

instance (t : Text) : Decidable (IsWords t) :=
  decidable_of_iff (t.all (fun c => decide (c = ' ') || Unicode.isAlphabetic c) = true ∧
      t.IsChain fun c d => ¬(c = ' ' ∧ d = ' ')) (by
    simp only [List.all_eq_true, Bool.or_eq_true, decide_eq_true_eq]
    exact ⟨fun h => ⟨h.1, h.2⟩, fun h => ⟨h.chars, h.single⟩⟩)

instance (p : Text) : Decidable (IsLeadIn p) :=
  decidable_of_iff (IsWords p ∧ p.head?.any Unicode.isAlphabetic = true ∧ p.getLast? = some ' ') (by
    rw [Option.any_eq_true]
    exact ⟨fun h => ⟨h.1, h.2.1, h.2.2⟩, fun h => ⟨h.toIsWords, h.first, h.last⟩⟩)

instance (s : Text) : Decidable (IsLeadOut s) :=
  decidable_of_iff (IsWords s ∧ s.head? = some ' ' ∧ s.getLast?.any Unicode.isAlphabetic = true) (by
    rw [Option.any_eq_true]
    exact ⟨fun h => ⟨h.1, h.2.1, h.2.2⟩, fun h => ⟨h.toIsWords, h.first, h.last⟩⟩)

instance (w : Text) : Decidable (IsTagWord w) :=
  decidable_of_iff (w ≠ [] ∧ w.all Unicode.isWordChar = true) (by
    rw [List.all_eq_true]
    exact ⟨fun h => ⟨h.1, h.2⟩, fun h => ⟨h.ne, h.all⟩⟩)

instance (b : Text) : Decidable (IsTagBody b) :=
  decidable_of_iff (IsLine b ∧ IsEven b) ⟨fun h => ⟨h.1, h.2⟩, fun h => ⟨h.toIsLine, h.toIsEven⟩⟩

theorem IsWords.not_mem (h : IsWords s) (sign : IsSign c) (other : c ≠ ' ') : c ∉ s := by
  intro mem
  exact (h.chars c mem).elim other sign.not_isAlphabetic

theorem IsWords.eq_space (h : IsWords s) (mem : c ∈ s) (blank : isBlank c = true) : c = ' ' := by
  rcases h.chars c mem with space | letter
  · exact space
  · rw [Unicode.isBlank_of_isAlphabetic letter] at blank
    cases blank

theorem IsWords.isEven (h : IsWords s) : IsEven s where
  tab mem := absurd (h.eq_space mem (by decide)) (by decide)
  noBreak mem := absurd (h.eq_space mem (by decide)) (by decide)
  single := h.single

theorem IsTagWord.not_mem (h : IsTagWord w)
    (sign : c.toNat < 128 ∧ (c.isAlphanum || c == '_') = false) : c ∉ w := by
  intro mem
  have part := h.all c mem
  rw [Unicode.isWordChar_of_toNat_lt sign.1, sign.2] at part
  cases part

theorem IsEven.append {a b : Text} (h : IsEven a) (h' : IsEven b)
    (apart : a.getLast? = some ' ' → b.head? ≠ some ' ') : IsEven (a ++ b) where
  tab mem := (List.mem_append.1 mem).elim h.tab h'.tab
  noBreak mem := (List.mem_append.1 mem).elim h.noBreak h'.noBreak
  single := List.isChain_append.2 ⟨h.single, h'.single, fun _ hc _ hd both =>
    apart (both.1 ▸ hc) (both.2 ▸ hd)⟩

/-! ## Words around a body -/

section
variable (lead : IsLeadIn p) (out : IsLeadOut s)
include lead out

theorem isLetteredLine_between (newline : '\n' ∉ mid) : IsLetteredLine (p ++ mid ++ s) where
  first := by
    obtain ⟨c, head, letter⟩ := lead.first
    refine ⟨c, ?_, letter⟩
    rw [Option.mem_def, List.append_assoc, List.head?_append, Option.mem_def.1 head]
    rfl
  last := by
    obtain ⟨c, last, letter⟩ := out.last
    refine ⟨c, ?_, letter⟩
    have ne : s ≠ [] := List.ne_nil_of_mem (List.mem_of_getLast? last)
    rw [Option.mem_def, List.getLast?_append_of_ne_nil _ ne]
    exact last
  newline := by
    simp only [List.mem_append, not_or]
    have sign : IsSign '\n' := by decide
    exact ⟨⟨lead.not_mem sign (by decide), newline⟩, out.not_mem sign (by decide)⟩

theorem isEven_between (body : IsTagBody b) : IsEven (p ++ b ++ s) := by
  have front : b.head? ≠ some ' ' := fun e => absurd (body.head ' ' e) (by decide)
  have back : b.getLast? ≠ some ' ' := fun e => absurd (body.last ' ' e) (by decide)
  refine (lead.isEven.append body.toIsEven fun _ => front).append out.isEven fun e => ?_
  rw [List.getLast?_append_of_ne_nil _ body.ne] at e
  exact absurd e back

end

/-! ## Reading a tag -/

/-- What stands between the first closing brace behind a tag's word and the end of the tag. -/
def afterBrace (b : Text) : Text := (b.dropWhile (· ≠ '}') ++ ['}']).tail

theorem dropWhile_concat_brace (b : Text) :
    b.dropWhile (· ≠ '}') ++ ['}'] = '}' :: afterBrace b := by
  have stop := List.head?_dropWhile_not (fun c => decide (c ≠ '}')) b
  rw [afterBrace]
  cases h : b.dropWhile (· ≠ '}') with
  | nil => rfl
  | cons c rest =>
    rw [h] at stop
    have brace : c = '}' := by simpa using stop
    rw [brace]
    rfl

theorem eq_takeWhile_append_brace (b s : Text) :
    b ++ '}' :: s = b.takeWhile (· ≠ '}') ++ '}' :: (afterBrace b ++ s) := by
  have whole : b.takeWhile (· ≠ '}') ++ b.dropWhile (· ≠ '}') = b :=
    List.takeWhile_append_dropWhile
  calc b ++ '}' :: s
    _ = b.takeWhile (· ≠ '}') ++ (b.dropWhile (· ≠ '}') ++ ['}']) ++ s := by
      rw [← List.append_assoc, whole, List.append_assoc, List.singleton_append]
    _ = b.takeWhile (· ≠ '}') ++ '}' :: (afterBrace b ++ s) := by
      rw [dropWhile_concat_brace, List.append_assoc, List.cons_append]

theorem brace_not_mem_takeWhile (b : Text) : '}' ∉ b.takeWhile (· ≠ '}') := by
  intro mem
  simpa using List.mem_takeWhile_imp mem

/-- A tag is read up to its first closing brace. -/
theorem inlineTag?_writeInlineTag (word : IsTagWord w) (body : IsLine b) (s : Text) :
    inlineTag? (writeInlineTag w b ++ s) =
      some (w, b.takeWhile (· ≠ '}'), afterBrace b ++ s) := by
  have shape : writeInlineTag w b ++ s = '{' :: '@' :: (w ++ ' ' :: (b ++ '}' :: s)) := by
    simp [writeInlineTag]
  have stop : ∀ c ∈ (' ' :: (b ++ '}' :: s)).head?, Unicode.isWordChar c = false := by
    rintro _ ⟨⟩
    exact Unicode.isWordChar_of_isBlank (by decide)
  have ⟨name, rest⟩ := takeWhile_append_of_stop word.all stop
  have start : trimStart (' ' :: (b ++ '}' :: s)) = b ++ '}' :: s := by
    refine trimStart_space fun c hc => body.head c ?_
    obtain ⟨d, b, rfl⟩ := List.exists_cons_of_ne_nil body.ne
    exact hc
  have named : w.isEmpty = false := by simpa using word.ne
  rw [shape, inlineTag?, name, rest, start, named, eq_takeWhile_append_brace,
    splitOnce_append_cons (brace_not_mem_takeWhile b)]
  rfl

/-- A link says a piece of its body, with dots for the hashes if that is the target. -/
theorem exists_infix_linkText (b : Text) : ∃ piece, piece <:+: b ∧
    (linkText b = piece ∨ linkText b = piece.map fun c => if c = '#' then '.' else c) := by
  have parts : linkText.splitOnceBlank b =
      (b.takeWhile (!isBlank ·), b.dropWhile (!isBlank ·)) := List.span_eq_takeWhile_dropWhile _ b
  rw [linkText, parts]
  simp only
  split
  · next label found =>
    have label_eq : trim (b.dropWhile (!isBlank ·)) = label := by
      simp only [nonBlank?] at found
      split at found
      · cases found
      · exact Option.some.inj found
    exact ⟨label, label_eq ▸ (trim_isInfix _).trans (List.dropWhile_suffix _).isInfix, .inl rfl⟩
  · exact ⟨dropLeading '#' (b.takeWhile (!isBlank ·)),
      (List.dropWhile_suffix _).isInfix.trans (List.takeWhile_prefix _).isInfix, .inr rfl⟩

theorem exists_infix_inlineText (w b : Text) : ∃ piece, piece <:+: b ∧
    (inlineText w b = piece ∨ inlineText w b = piece.map fun c => if c = '#' then '.' else c) := by
  simp only [inlineText]
  split
  · exact ⟨[], List.nil_infix, .inl rfl⟩
  · split
    · obtain ⟨piece, part, e⟩ := exists_infix_linkText (trim b)
      exact ⟨piece, part.trans (trim_isInfix b), e⟩
    · exact ⟨trim b, trim_isInfix b, .inl rfl⟩

theorem length_inlineText_le (w b : Text) : (inlineText w b).length ≤ b.length := by
  obtain ⟨piece, part, e | e⟩ := exists_infix_inlineText w b
  · rw [e]
    exact part.length_le
  · rw [e, List.length_map]
    exact part.length_le

theorem mem_of_mem_inlineText (h : c ∈ inlineText w b) : c = '.' ∨ c ∈ b := by
  obtain ⟨piece, part, e | e⟩ := exists_infix_inlineText w b
  · exact .inr (part.subset (e ▸ h))
  · rw [e] at h
    obtain ⟨d, mem, rfl⟩ := List.mem_map.1 h
    split
    · exact .inl rfl
    · exact .inr (part.subset mem)

/-! ## Cleaning a text with a tag -/

/-- Without an at sign no tag begins. -/
theorem misses_inlineTags (h : '@' ∉ t) : inlineTags.Misses t := by
  intro u part
  cases found : inlineTags.find? u with
  | none => rfl
  | some parts =>
    obtain ⟨parts, read, -⟩ := Option.map_eq_some_iff.1 found
    unfold inlineTag? at read
    split at read
    · exact absurd (part.subset (by simp)) h
    · cases read

theorem mem_of_mem_afterBrace (h : c ∈ afterBrace b) : c = '}' ∨ c ∈ b := by
  have mem : c ∈ b.dropWhile (· ≠ '}') ++ ['}'] := List.mem_of_mem_tail h
  rcases List.mem_append.1 mem with mem | mem
  · exact .inr ((List.dropWhile_suffix _).subset mem)
  · exact .inl (List.mem_singleton.1 mem)

/-- A character other than a dot and a closing brace is behind a tag's unwrapping only if it was in the
tag's body. -/
theorem not_mem_unwrapped (dot : c ≠ '.') (brace : c ≠ '}') (free : c ∉ b) :
    c ∉ inlineText w (b.takeWhile (· ≠ '}')) ++ afterBrace b := by
  rw [List.mem_append, not_or]
  constructor
  · intro mem
    rcases mem_of_mem_inlineText mem with e | mem
    · exact dot e
    · exact free ((List.takeWhile_prefix _).subset mem)
  · intro mem
    exact (mem_of_mem_afterBrace mem).elim brace free

/-- What the tag says of its body up to the first closing brace stands in place of the tag, and
markup and entities are looked for in that and what follows the brace. -/
theorem clean_writeInlineTag (lead : IsLeadIn p) (out : IsLeadOut s) (word : IsTagWord w)
    (body : IsLine b) (rest : inlineTags.Misses (afterBrace b ++ s)) :
    clean (p ++ writeInlineTag w b ++ s) = evenBlanks (p ++ entityNames.apply (markupTags.apply
      (inlineText w (b.takeWhile (· ≠ '}')) ++ afterBrace b)) ++ s) := by
  have absent : ∀ c, IsSign c → c ≠ ' ' → c ∉ p ∧ c ∉ s := fun c sign other =>
    ⟨lead.not_mem sign other, out.not_mem sign other⟩
  obtain ⟨braceIn, -⟩ := absent '{' (by decide) (by decide)
  obtain ⟨angleIn, angleOut⟩ := absent '<' (by decide) (by decide)
  obtain ⟨-, closeOut⟩ := absent '>' (by decide) (by decide)
  obtain ⟨ampIn, ampOut⟩ := absent '&' (by decide) (by decide)
  obtain ⟨-, semiOut⟩ := absent ';' (by decide) (by decide)
  have found : inlineTags.find? (writeInlineTag w b ++ s) =
      some (inlineText w (b.takeWhile (· ≠ '}')), afterBrace b ++ s) :=
    congrArg (Option.map _) (inlineTag?_writeInlineTag word body s)
  have unwrapped : inlineTags.apply (p ++ writeInlineTag w b ++ s) =
      p ++ (inlineText w (b.takeWhile (· ≠ '}')) ++ afterBrace b) ++ s := by
    rw [List.append_assoc, inlineTags_opensWith.apply_append braceIn,
      Replacement.apply_of_find? found, rest.apply_eq]
    simp only [List.append_assoc]
  refine IsLetteredLine.clean_eq (isLetteredLine_between lead out (newline_not_mem_apply
    (not_mem_unwrapped (by decide) (by decide) body.newline))) ?_
  rw [plainText, unwrapped, markupTags_apply_append angleOut closeOut,
    markupTags_opensWith.apply_append angleIn, entityNames_apply_append ampOut semiOut,
    entityNames_opensWith.apply_append ampIn]

/-! ## Braces in a body -/

theorem concat_eq_cons_iff : t ++ [c] = c :: t ↔ ∀ d ∈ t, d = c := by
  induction t with
  | nil => simp
  | cons d t ih =>
    rw [List.cons_append, List.cons.injEq, List.forall_mem_cons]
    refine and_congr_right fun e => ?_
    rw [e, ih]

theorem length_afterBrace (b : Text) :
    (b.takeWhile (· ≠ '}')).length + (afterBrace b).length = b.length := by
  have whole := congrArg List.length (eq_takeWhile_append_brace b [])
  simp only [List.length_append, List.length_cons, List.length_nil] at whole
  omega

/-- A tag gives its body back if it says what stands before the first closing brace as it is, and only
closing braces stand behind that brace. -/
theorem unwrapped_eq_iff (w b : Text) :
    inlineText w (b.takeWhile (· ≠ '}')) ++ afterBrace b = b ↔
      inlineText w (b.takeWhile (· ≠ '}')) = b.takeWhile (· ≠ '}') ∧
        ∀ c ∈ b.dropWhile (· ≠ '}'), c = '}' := by
  have whole : b.takeWhile (· ≠ '}') ++ b.dropWhile (· ≠ '}') = b :=
    List.takeWhile_append_dropWhile
  rw [← concat_eq_cons_iff, dropWhile_concat_brace, List.cons.injEq]
  constructor
  · intro e
    have lengths := congrArg List.length e
    have parts := length_afterBrace b
    rw [List.length_append] at lengths
    obtain ⟨front, back⟩ := List.append_inj (e.trans whole.symm) (by omega)
    exact ⟨front, rfl, back⟩
  · rintro ⟨front, -, back⟩
    rw [front, back, whole]

/-- Between words a body comes out of its tag as it was written exactly if it is what the tag is
replaced by. -/
theorem evenBlanks_between_eq_iff (lead : IsLeadIn p) (out : IsLeadOut s) (body : IsTagBody b)
    (tab : '\t' ∉ mid) (noBreak : '\u00a0' ∉ mid) (le : mid.length ≤ b.length) :
    evenBlanks (p ++ mid ++ s) = p ++ b ++ s ↔ mid = b := by
  constructor
  · intro e
    have spaces : ∀ c ∈ p ++ mid ++ s, isInnerBlank c = true → c = ' ' := by
      intro c mem blank
      rcases List.mem_append.1 mem with mem | mem
      · rcases List.mem_append.1 mem with mem | mem
        · exact lead.isEven.eq_space mem blank
        · rcases isInnerBlank_iff.1 blank with rfl | rfl | rfl
          · rfl
          · exact absurd mem tab
          · exact absurd mem noBreak
      · exact out.isEven.eq_space mem blank
    have same : (evenBlanks (p ++ mid ++ s)).length = (p ++ mid ++ s).length := by
      have shorter := length_evenBlanks_le (p ++ mid ++ s)
      have lengths := congrArg List.length e
      simp only [List.length_append] at shorter lengths ⊢
      omega
    rw [evenBlanks_eq_of_length spaces same] at e
    exact List.append_cancel_left (List.append_cancel_right e)
  · rintro rfl
    exact (isEven_between lead out body).evenBlanks_eq

/-- The braces of a tag with a balanced body match. -/
theorem takeBracketed?_writeInlineTag (word : IsTagWord w) (balanced : IsBalanced '{' '}' 0 b)
    (s : Text) :
    takeBracketed? '{' '}' (writeInlineTag w b ++ s) = some ('@' :: w ++ ' ' :: b, s) := by
  have free : ∀ c ∈ '@' :: w ++ [' '], c ≠ '{' ∧ c ≠ '}' := by
    intro c mem
    rcases List.mem_append.1 mem with mem | mem
    · rcases List.mem_cons.1 mem with rfl | mem
      · decide
      · exact ⟨fun e => word.not_mem (by decide) (e ▸ mem),
          fun e => word.not_mem (by decide) (e ▸ mem)⟩
    · rw [List.mem_singleton.1 mem]
      decide
  have inside : IsBalanced '{' '}' 0 ('@' :: w ++ ' ' :: b) := by
    simpa using balanced.append_left free
  have shape : writeInlineTag w b ++ s = '{' :: (('@' :: w ++ ' ' :: b) ++ '}' :: s) := by
    simp [writeInlineTag]
  rw [shape, takeBracketed?, if_pos rfl]
  exact inside.takeToClosing?_append (by decide) s

/-- The body of a tag without markup comes out as it was written exactly if the tag says the part in
front of the first closing brace as it is and nothing but closing braces stands behind it. -/
theorem clean_writeInlineTag_eq_iff (lead : IsLeadIn p) (out : IsLeadOut s) (word : IsTagWord w)
    (body : IsTagBody b) (free : ∀ c ∈ b, c ≠ '<' ∧ c ≠ '>' ∧ c ≠ '&' ∧ c ≠ '@') :
    clean (p ++ writeInlineTag w b ++ s) = p ++ b ++ s ↔
      inlineText w (b.takeWhile (· ≠ '}')) = b.takeWhile (· ≠ '}') ∧
        ∀ c ∈ b.dropWhile (· ≠ '}'), c = '}' := by
  have rest : inlineTags.Misses (afterBrace b ++ s) := by
    refine misses_inlineTags fun mem => ?_
    rcases List.mem_append.1 mem with mem | mem
    · exact (mem_of_mem_afterBrace mem).elim (by decide) fun mem => (free _ mem).2.2.2 rfl
    · exact out.not_mem (by decide) (by decide) mem
  have angle : '<' ∉ inlineText w (b.takeWhile (· ≠ '}')) ++ afterBrace b :=
    not_mem_unwrapped (by decide) (by decide) fun mem => (free _ mem).1 rfl
  have amp : '&' ∉ inlineText w (b.takeWhile (· ≠ '}')) ++ afterBrace b :=
    not_mem_unwrapped (by decide) (by decide) fun mem => (free _ mem).2.2.1 rfl
  have shorter : (inlineText w (b.takeWhile (· ≠ '}')) ++ afterBrace b).length ≤ b.length := by
    rw [List.length_append, ← length_afterBrace b]
    exact Nat.add_le_add_right (length_inlineText_le w _) _
  rw [clean_writeInlineTag lead out word body.toIsLine rest, markupTags_opensWith.apply_eq angle,
    entityNames_opensWith.apply_eq amp, ← unwrapped_eq_iff]
  exact evenBlanks_between_eq_iff lead out body
    (not_mem_unwrapped (by decide) (by decide) body.tab)
    (not_mem_unwrapped (by decide) (by decide) body.noBreak) shorter

theorem inlineText_of_plain
    (plain : lowerAscii w ∉ ["inheritdoc", "link", "linkplain"].map String.toList) (b : Text) :
    inlineText w b = trim b := by
  have inherits : lowerAscii w ≠ "inheritdoc".toList := fun e => plain (e ▸ by decide)
  have link : lowerAscii w ≠ "link".toList := fun e => plain (e ▸ by decide)
  have linkplain : lowerAscii w ≠ "linkplain".toList := fun e => plain (e ▸ by decide)
  have links : ¬(lowerAscii w = "link".toList || lowerAscii w = "linkplain".toList) = true := by
    rw [Bool.or_eq_true, decide_eq_true_eq, decide_eq_true_eq, not_or]
    exact ⟨link, linkplain⟩
  exact (if_neg inherits).trans (if_neg links)

/-- The braces of a tag match, but the tag is read up to its first closing brace: its body comes out as
it was written exactly if the tag says the part in front of that brace as it is and nothing but
closing braces stands behind it. A tag that neither links nor inherits says the part as it is if it
does not end with white space. -/
theorem clean_inlineTag_eq_iff (lead : IsLeadIn p) (out : IsLeadOut s) (word : IsTagWord w)
    (body : IsTagBody b) (free : ∀ c ∈ b, c ≠ '<' ∧ c ≠ '>' ∧ c ≠ '&' ∧ c ≠ '@')
    (balanced : IsBalanced '{' '}' 0 b) :
    takeBracketed? '{' '}' (writeInlineTag w b ++ s) = some ('@' :: w ++ ' ' :: b, s) ∧
    (clean (p ++ writeInlineTag w b ++ s) = p ++ b ++ s ↔
      inlineText w (b.takeWhile (· ≠ '}')) = b.takeWhile (· ≠ '}') ∧
        ∀ c ∈ b.dropWhile (· ≠ '}'), c = '}') ∧
    (lowerAscii w ∉ ["inheritdoc", "link", "linkplain"].map String.toList →
      (inlineText w (b.takeWhile (· ≠ '}')) = b.takeWhile (· ≠ '}') ↔
        ∀ c ∈ (b.takeWhile (· ≠ '}')).getLast?, isBlank c = false)) := by
  refine ⟨takeBracketed?_writeInlineTag word balanced s,
    clean_writeInlineTag_eq_iff lead out word body free, fun plain => ?_⟩
  have head : ∀ c ∈ (b.takeWhile (· ≠ '}')).head?, isBlank c = false := by
    intro c hc
    rw [List.head?_takeWhile] at hc
    exact body.head c (Option.eq_some_of_filter_eq_some hc)
  rw [inlineText_of_plain plain, trim_eq_self_iff]
  exact ⟨IsTrimmed.last, fun last => ⟨head, last⟩⟩

theorem clean_codeTag_arrayLiteral :
    IsLeadIn "Starts with ".toList ∧ IsLeadOut " unless told otherwise".toList ∧
    IsTagWord "code".toList ∧ IsTagBody "new int[] \x7b1, 2\x7d".toList ∧
    (∀ c ∈ "new int[] \x7b1, 2\x7d".toList, c ≠ '<' ∧ c ≠ '>' ∧ c ≠ '&' ∧ c ≠ '@') ∧
    IsBalanced '{' '}' 0 "new int[] \x7b1, 2\x7d".toList ∧
    clean ("Starts with ".toList ++
        writeInlineTag "code".toList "new int[] \x7b1, 2\x7d".toList ++
        " unless told otherwise".toList) =
      "Starts with ".toList ++ "new int[] \x7b1, 2\x7d".toList ++
        " unless told otherwise".toList := by
  obtain ⟨lead, out, word⟩ : IsLeadIn "Starts with ".toList ∧
      IsLeadOut " unless told otherwise".toList ∧ IsTagWord "code".toList := by decide +kernel
  have body : IsTagBody "new int[] \x7b1, 2\x7d".toList := by decide
  have free : ∀ c ∈ "new int[] \x7b1, 2\x7d".toList, c ≠ '<' ∧ c ≠ '>' ∧ c ≠ '&' ∧ c ≠ '@' := by
    simp
  have balanced : IsBalanced '{' '}' 0 "new int[] \x7b1, 2\x7d".toList := by decide
  exact ⟨lead, out, word, body, free, balanced,
    (clean_inlineTag_eq_iff lead out word body free balanced).2.1.2 ⟨by decide, by simp⟩⟩

/-- Of two braced groups in a body the first one loses its closing brace to the end of the text. -/
theorem clean_codeTag_twoGroups :
    IsLeadIn "Joins ".toList ∧ IsLeadOut " in one".toList ∧ IsTagWord "code".toList ∧
    lowerAscii "code".toList ∉ ["inheritdoc", "link", "linkplain"].map String.toList ∧
    IsTagBody "\x7ba\x7d and \x7bb\x7d".toList ∧
    (∀ c ∈ "\x7ba\x7d and \x7bb\x7d".toList, c ≠ '<' ∧ c ≠ '>' ∧ c ≠ '&' ∧ c ≠ '@') ∧
    IsBalanced '{' '}' 0 "\x7ba\x7d and \x7bb\x7d".toList ∧
    clean ("Joins ".toList ++ writeInlineTag "code".toList "\x7ba\x7d and \x7bb\x7d".toList ++
        " in one".toList) = "Joins \x7ba and \x7bb\x7d\x7d in one".toList ∧
    clean ("Joins ".toList ++ writeInlineTag "code".toList "\x7ba\x7d and \x7bb\x7d".toList ++
        " in one".toList) ≠
      "Joins ".toList ++ "\x7ba\x7d and \x7bb\x7d".toList ++ " in one".toList := by
  obtain ⟨lead, out, word, result⟩ : IsLeadIn "Joins ".toList ∧ IsLeadOut " in one".toList ∧
      IsTagWord "code".toList ∧ clean ("Joins ".toList ++
        writeInlineTag "code".toList "\x7ba\x7d and \x7bb\x7d".toList ++ " in one".toList) =
        "Joins \x7ba and \x7bb\x7d\x7d in one".toList := by decide +kernel
  refine ⟨lead, out, word, by decide, by decide, by simp, by decide, result, ?_⟩
  rw [result]
  decide

/-! ## Markup in a body -/

/-- A body without braces comes out of `{@code ...}` and `{@literal ...}` as it was written exactly if
no piece of it is a markup tag or an entity: those are replaced there as anywhere else. -/
theorem clean_codeTag_eq_iff (lead : IsLeadIn p) (out : IsLeadOut s)
    (word : w = "code".toList ∨ w = "literal".toList) (body : IsTagBody b)
    (free : ∀ c ∈ b, c ≠ '{' ∧ c ≠ '}') :
    clean (p ++ writeInlineTag w b ++ s) = p ++ b ++ s ↔
      (∀ tag, IsMarkupTag tag → ¬tag <:+: b) ∧ ∀ entity ∈ entities, ¬entity.1 <:+: b := by
  have front : b.takeWhile (· ≠ '}') = b :=
    List.takeWhile_eq_self_iff.2 fun c hc => by simpa using (free c hc).2
  have back : afterBrace b = [] := by
    have lengths := length_afterBrace b
    rw [front] at lengths
    exact List.length_eq_zero_iff.1 (by omega)
  have isWord : IsTagWord w := by rcases word with rfl | rfl <;> decide +kernel
  have plain : lowerAscii w ∉ ["inheritdoc", "link", "linkplain"].map String.toList := by
    rcases word with rfl | rfl <;> decide
  have rest : inlineTags.Misses (afterBrace b ++ s) := by
    rw [back, List.nil_append]
    exact misses_inlineTags (out.not_mem (by decide) (by decide))
  rw [clean_writeInlineTag lead out isWord body.toIsLine rest, front, back, List.append_nil,
    inlineText_of_plain plain, body.toIsTrimmed.trim_eq, ← misses_markupTags_iff,
    ← misses_entityNames_iff]
  constructor
  · intro e
    have shorter := length_evenBlanks_le (p ++ entityNames.apply (markupTags.apply b) ++ s)
    have entities := entityNames_shrinks.length_apply_le (markupTags.apply b)
    have tags := markupTags_shrinks.length_apply_le b
    rw [e] at shorter
    simp only [List.length_append] at shorter
    have untagged : markupTags.Misses b := markupTags_shrinks.misses_of_length (by omega)
    rw [untagged.apply_eq] at shorter entities
    exact ⟨untagged, entityNames_shrinks.misses_of_length (by omega)⟩
  · rintro ⟨tags, entities⟩
    rw [tags.apply_eq, entities.apply_eq]
    exact (isEven_between lead out body).evenBlanks_eq

theorem clean_codeTag_wildcardType :
    IsLeadIn "Takes a ".toList ∧ IsLeadOut " as key".toList ∧
    IsTagBody "Class<?> & Runnable".toList ∧
    (∀ c ∈ "Class<?> & Runnable".toList, c ≠ '{' ∧ c ≠ '}') ∧
    clean ("Takes a ".toList ++ writeInlineTag "code".toList "Class<?> & Runnable".toList ++
        " as key".toList) =
      "Takes a ".toList ++ "Class<?> & Runnable".toList ++ " as key".toList := by
  obtain ⟨lead, out, misses, misses'⟩ : IsLeadIn "Takes a ".toList ∧ IsLeadOut " as key".toList ∧
      markupTags.Misses "Class<?> & Runnable".toList ∧
      entityNames.Misses "Class<?> & Runnable".toList := by decide +kernel
  have body : IsTagBody "Class<?> & Runnable".toList := by decide
  have free : ∀ c ∈ "Class<?> & Runnable".toList, c ≠ '{' ∧ c ≠ '}' := by simp
  have tags := misses_markupTags_iff.1 misses
  have entities := misses_entityNames_iff.1 misses'
  exact ⟨lead, out, body, free,
    (clean_codeTag_eq_iff lead out (.inl rfl) body free).2 ⟨tags, entities⟩⟩

/-- The argument of a generic type is lost as if it were markup. -/
theorem clean_codeTag_genericType :
    IsLeadIn "Returns a ".toList ∧ IsLeadOut " of names".toList ∧
    IsTagBody "List<String>".toList ∧ (∀ c ∈ "List<String>".toList, c ≠ '{' ∧ c ≠ '}') ∧
    clean ("Returns a ".toList ++ writeInlineTag "code".toList "List<String>".toList ++
        " of names".toList) = "Returns a List of names".toList ∧
    clean ("Returns a ".toList ++ writeInlineTag "code".toList "List<String>".toList ++
        " of names".toList) ≠
      "Returns a ".toList ++ "List<String>".toList ++ " of names".toList := by
  obtain ⟨lead, out, result⟩ : IsLeadIn "Returns a ".toList ∧ IsLeadOut " of names".toList ∧
      clean ("Returns a ".toList ++
        writeInlineTag "code".toList "List<String>".toList ++ " of names".toList) =
        "Returns a List of names".toList := by decide +kernel
  refine ⟨lead, out, by decide, by simp, result, ?_⟩
  rw [result]
  decide

end DocHarvest.Doc
