import DocHarvest.Proofs.Doc.Noise

/-!
# Comments made of the words of an identifier

The words of an identifier are found where its letters change, and those of a comment where it has
neither letters nor digits. The two meet on every word: a comment that is made of filler words and of
the words of its identifier, in any order and in letters of any case, also in the plural, is a
restatement (`isNoise_of_isMadeOf`). A number in the identifier is passed over in the comment, and its
plural is left as the filler word `s`.
-/

namespace DocHarvest.Doc

open Text

variable {identifier t word : Text}

/-- The words that repeat an identifier, in small letters. -/
inductive IsEcho (identifier : Text) : Text → Prop
  | filler {word : Text} : word ∈ fillerWords → IsEcho identifier word
  | name {word : Text} : word ∈ identifierWords identifier → IsEcho identifier word
  | plural {word : Text} : word ∈ identifierWords identifier → word.getLast? ≠ some 's' →
      IsEcho identifier (word ++ ['s'])

/-- Words one after another, in any number, with characters between each two of them that are neither
letters A to Z nor digits. Such characters may also end the text. -/
inductive IsMadeOf (isWord : Text → Prop) : Text → Prop
  | nil : IsMadeOf isWord []
  | word {word : Text} : isWord word → IsMadeOf isWord word
  | cons {word gap rest : Text} : isWord word → gap ≠ [] → (∀ c ∈ gap, c.isAlphanum = false) →
      IsMadeOf isWord rest → IsMadeOf isWord (word ++ gap ++ rest)

/-! ## Words in letters of any case -/

theorem lowerAscii_dropWhile_isDigit (word : Text) :
    lowerAscii (word.dropWhile Char.isDigit) = (lowerAscii word).dropWhile Char.isDigit := by
  have same : Char.isDigit ∘ Char.toLower = Char.isDigit := funext Unicode.isDigit_toLower
  rw [lowerAscii, lowerAscii, List.dropWhile_map, same]

theorem isAlphanum_of_lowerAscii (h : ∀ c ∈ lowerAscii word, c.isAlphanum = true) :
    ∀ c ∈ word, c.isAlphanum = true := by
  intro c hc
  rw [← Unicode.isAlphanum_toLower]
  exact h _ (List.mem_map_of_mem hc)

/-- A word is found as it is in small letters, without the digits that lead it. -/
theorem eq_of_mem_asciiWords {w : Text} (h : ∀ c ∈ lowerAscii word, c.isAlphanum = true)
    (mem : w ∈ asciiWords word) : w ≠ [] ∧ w = (lowerAscii word).dropWhile Char.isDigit := by
  rw [asciiWords_of_all (isAlphanum_of_lowerAscii h)] at mem
  split at mem
  · exact absurd mem List.not_mem_nil
  · next ne =>
    obtain rfl := List.mem_singleton.1 mem
    exact ⟨fun empty => ne (List.map_eq_nil_iff.1 empty), lowerAscii_dropWhile_isDigit word⟩

/-- The digits that lead a text which begins with a word of an identifier take all of the word or
nothing. -/
theorem dropWhile_isDigit_of_mem_identifierWords (h : word ∈ identifierWords identifier) (t : Text) :
    (word ++ t).dropWhile Char.isDigit = t.dropWhile Char.isDigit ∨
    (word ++ t).dropWhile Char.isDigit = word ++ t := by
  obtain ⟨d, same⟩ := isDigit_eq_of_mem_identifierWords h
  cases d with
  | true => exact .inl (List.dropWhile_append_of_pos same)
  | false =>
    cases word with
    | nil => exact .inl rfl
    | cons c word =>
      have letter := same c List.mem_cons_self
      exact .inr (List.dropWhile_cons_of_neg (by simp [letter]))

theorem dropTrailing_concat {c : Char} (ne : word.getLast? ≠ some c) :
    dropTrailing c (word ++ [c]) = word := by
  have keep : word.reverse.dropWhile (· = c) = word.reverse := by
    cases e : word.reverse with
    | nil => rfl
    | cons d rest =>
      rw [← List.head?_reverse, e] at ne
      exact List.dropWhile_cons_of_neg (by simpa using ne)
  simp [dropTrailing, keep]

/-! ## Echoes are no news -/

theorem isAlphanum_of_isEcho (ascii : ∀ c ∈ identifier, c.toNat < 128) (h : IsEcho identifier word) :
    ∀ c ∈ word, c.isAlphanum = true := by
  cases h with
  | filler h =>
    have all : ∀ word ∈ fillerWords, word.all Char.isAlphanum = true := by decide
    exact List.all_eq_true.1 (all word h)
  | name h => exact isAlphanum_of_mem_identifierWords ascii h
  | plural h _ =>
    exact List.forall_mem_append.2
      ⟨isAlphanum_of_mem_identifierWords ascii h, List.forall_mem_singleton.2 (by decide)⟩

/-- Without the digits that lead it, an echo is gone or no news. -/
theorem IsEcho.not_isNews (h : IsEcho identifier word)
    (ne : word.dropWhile Char.isDigit ≠ []) :
    ¬ IsNews identifier (word.dropWhile Char.isDigit) := by
  rintro ⟨notFiller, notName, notPlural⟩
  cases h with
  | filler h =>
    have digitless : ∀ word ∈ fillerWords, word.dropWhile Char.isDigit = word := by decide
    rw [digitless word h] at notFiller
    exact notFiller h
  | name h =>
    have cut := dropWhile_isDigit_of_mem_identifierWords h []
    rw [List.append_nil] at cut
    rcases cut with gone | whole
    · exact ne gone
    · rw [whole] at notName
      exact notName h
  | @plural name h unended =>
    rcases dropWhile_isDigit_of_mem_identifierWords h ['s'] with number | whole
    · -- of the plural of a number the `s` is left
      rw [number] at notFiller
      exact notFiller (by decide)
    · rw [whole, dropTrailing_concat unended] at notPlural
      exact notPlural h

theorem not_isNews_of_isMadeOf (ascii : ∀ c ∈ identifier, c.toNat < 128)
    (h : IsMadeOf (fun word => IsEcho identifier (lowerAscii word)) t) :
    ∀ w ∈ asciiWords t, ¬ IsNews identifier w := by
  have echo : ∀ {word}, IsEcho identifier (lowerAscii word) →
      ∀ w ∈ asciiWords word, ¬ IsNews identifier w := by
    intro word h w mem
    obtain ⟨ne, rfl⟩ := eq_of_mem_asciiWords (isAlphanum_of_isEcho ascii h) mem
    exact h.not_isNews ne
  induction h with
  | nil => exact List.forall_mem_nil _
  | word h => exact echo h
  | cons h ne gap _ ih =>
    rw [asciiWords_append_append gap ne]
    exact List.forall_mem_append.2 ⟨echo h, ih⟩

/-- A comment made of filler words and of the words of its ASCII identifier is noise. -/
theorem isNoise_of_isMadeOf (ascii : ∀ c ∈ identifier, c.toNat < 128)
    (named : identifierWords identifier ≠ [])
    (h : IsMadeOf (fun word => IsEcho identifier (lowerAscii word)) t) :
    isNoise identifier t = true := by
  have restated : isRestatement identifier (trim t) = true := by
    by_contra kept
    rw [Bool.not_eq_true, isRestatement_eq_false_iff] at kept
    obtain ⟨w, english, news⟩ := kept.resolve_left named
    have mem : lowerAscii w ∈ asciiWords (trim t) := mem_asciiWords.2 ⟨w, english, rfl⟩
    rw [asciiWords_trim] at mem
    exact not_isNews_of_isMadeOf ascii h _ mem news
  simp [isNoise, restated]

theorem isNoise_numberedResponses :
    (∀ c ∈ "getHTTPResponse2Code".toList, c.toNat < 128) ∧
    identifierWords "getHTTPResponse2Code".toList ≠ [] ∧
    IsMadeOf (fun word => IsEcho "getHTTPResponse2Code".toList (lowerAscii word))
      "Gets the http-RESPONSES, 2s".toList ∧
    isNoise "getHTTPResponse2Code".toList "Gets the http-RESPONSES, 2s".toList = true := by
  have ascii : ∀ c ∈ "getHTTPResponse2Code".toList, c.toNat < 128 := by simp
  have words : identifierWords "getHTTPResponse2Code".toList =
      ["get", "http", "response", "2", "code"].map String.toList := by decide +kernel
  have named : identifierWords "getHTTPResponse2Code".toList ≠ [] := words ▸ List.cons_ne_nil _ _
  have number : IsEcho "getHTTPResponse2Code".toList (lowerAscii "2s".toList) :=
    @IsEcho.plural _ "2".toList (words ▸ by decide) (by decide)
  have responses : IsEcho "getHTTPResponse2Code".toList (lowerAscii "RESPONSES".toList) :=
    @IsEcho.plural _ "response".toList (words ▸ by decide) (by decide)
  have http : IsEcho "getHTTPResponse2Code".toList (lowerAscii "http".toList) :=
    .name (words ▸ by decide)
  have the : IsEcho "getHTTPResponse2Code".toList (lowerAscii "the".toList) := .filler (by decide)
  have gets : IsEcho "getHTTPResponse2Code".toList (lowerAscii "Gets".toList) := .filler (by decide)
  have made : IsMadeOf (fun word => IsEcho "getHTTPResponse2Code".toList (lowerAscii word))
      "Gets the http-RESPONSES, 2s".toList :=
    @IsMadeOf.cons _ "Gets".toList " ".toList _ gets (by decide) (by simp)
      (@IsMadeOf.cons _ "the".toList " ".toList _ the (by decide) (by simp)
        (@IsMadeOf.cons _ "http".toList "-".toList _ http (by decide) (by simp)
          (@IsMadeOf.cons _ "RESPONSES".toList ", ".toList _ responses (by decide) (by simp)
            (.word number))))
  exact ⟨ascii, named, made, isNoise_of_isMadeOf ascii named made⟩

end DocHarvest.Doc
