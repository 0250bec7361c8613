import DocHarvest.Doc.Noise
import DocHarvest.Proofs.Doc.Identifier
import DocHarvest.Proofs.Text.Runs
import DocHarvest.Proofs.Text.Trim

/-!
# Which comments count as restatements

`mem_asciiWords` : the words that `asciiWords` finds are the longest pieces of the letters A to Z and
digits, without the digits that lead them. A comment with a word that is news to the reader is kept if
the word is in those letters; if it is in others, the comment is kept only for the sake of another
word (`isNoise_eq_false_iff_of_isNews`).
-/

namespace DocHarvest.Doc

open Text

variable {identifier t word run : Text} {c : Char}

/-! ## English words -/

/-- A longest piece of the letters A to Z and digits, without the digits that lead it. -/
def IsEnglishWord (word t : Text) : Prop :=
  ∃ run, IsRunIn Char.isAlphanum run t ∧ word = run.dropWhile Char.isDigit ∧ word ≠ []

theorem asciiWords.go_of_all (h : ∀ c ∈ t, c.isAlphanum = true) (ne : word ≠ []) :
    asciiWords.go word t = [word.reverse ++ lowerAscii t] := by
  induction t generalizing word with
  | nil => simp [asciiWords.go, lowerAscii, ne]
  | cons c t ih =>
    have hc : c.isAlpha = true ∨ c.isDigit = true := by
      simpa [Char.isAlphanum] using h c List.mem_cons_self
    have tail : asciiWords.go (c.toLower :: word) t = _ :=
      ih (fun x hx => h x (List.mem_cons_of_mem _ hx)) (List.cons_ne_nil _ _)
    simp [asciiWords.go, hc, ne, tail, lowerAscii]

/-- In a text of letters and digits the digits that lead it are passed over. -/
theorem asciiWords_of_all (h : ∀ c ∈ t, c.isAlphanum = true) :
    asciiWords t = if t.dropWhile Char.isDigit = [] then []
      else [lowerAscii (t.dropWhile Char.isDigit)] := by
  induction t with
  | nil => rfl
  | cons c t ih =>
    have tail : ∀ x ∈ t, x.isAlphanum = true := fun x hx => h x (List.mem_cons_of_mem _ hx)
    by_cases letter : c.isAlpha = true
    · rw [List.dropWhile_cons_of_neg (by simp [Unicode.isDigit_of_isAlpha letter]),
        if_neg (List.cons_ne_nil _ _), asciiWords, asciiWords.go, if_pos (by simp [letter]),
        asciiWords.go_of_all tail (List.cons_ne_nil _ _)]
      simp [lowerAscii]
    · have digit : c.isDigit = true := by
        simpa [Char.isAlphanum, letter] using h c List.mem_cons_self
      rw [List.dropWhile_cons_of_pos digit, ← ih tail]
      simp [asciiWords, asciiWords.go, letter]

/-- A character that is neither a letter nor a digit ends the word before it. -/
theorem asciiWords.go_append_cons (hc : c.isAlphanum = false) (word a b : Text) :
    asciiWords.go word (a ++ c :: b) = asciiWords.go word a ++ asciiWords b := by
  have none : c.isAlpha = false ∧ c.isDigit = false := by simpa [Char.isAlphanum] using hc
  induction a generalizing word with
  | nil => by_cases ne : word = [] <;> simp [asciiWords.go, asciiWords, none, ne]
  | cons d a ih =>
    rw [List.cons_append, asciiWords.go, asciiWords.go]
    split
    · exact ih _
    · split
      · exact ih _
      · rw [ih, List.cons_append]

theorem asciiWords_append_cons (hc : c.isAlphanum = false) (a b : Text) :
    asciiWords (a ++ c :: b) = asciiWords a ++ asciiWords b := asciiWords.go_append_cons hc [] a b

theorem asciiWords_append_left {lead : Text} (h : ∀ c ∈ lead, c.isAlphanum = false) (t : Text) :
    asciiWords (lead ++ t) = asciiWords t := by
  induction lead with
  | nil => rfl
  | cons c lead ih =>
    exact (asciiWords_append_cons (h c List.mem_cons_self) [] (lead ++ t)).trans
      (ih fun x hx => h x (List.mem_cons_of_mem _ hx))

/-- What stands between two words, or between two texts, does not count. -/
theorem asciiWords_append_append {gap : Text} (h : ∀ c ∈ gap, c.isAlphanum = false) (ne : gap ≠ [])
    (a b : Text) : asciiWords (a ++ gap ++ b) = asciiWords a ++ asciiWords b := by
  obtain ⟨c, gap, rfl⟩ := List.exists_cons_of_ne_nil ne
  rw [List.append_assoc, List.cons_append, asciiWords_append_cons (h c List.mem_cons_self),
    asciiWords_append_left fun x hx => h x (List.mem_cons_of_mem _ hx)]

theorem asciiWords_append_right {tail : Text} (h : ∀ c ∈ tail, c.isAlphanum = false) (t : Text) :
    asciiWords (t ++ tail) = asciiWords t := by
  by_cases ne : tail = []
  · rw [ne, List.append_nil]
  · simpa [asciiWords, asciiWords.go] using asciiWords_append_append h ne t []

theorem isEnglishWord_of_all (h : ∀ c ∈ t, c.isAlphanum = true) :
    IsEnglishWord word t ↔ word = t.dropWhile Char.isDigit ∧ word ≠ [] := by
  simp only [IsEnglishWord, isRunIn_of_all h]
  constructor
  · rintro ⟨_, ⟨rfl, -⟩, e, ne⟩
    exact ⟨e, ne⟩
  · rintro ⟨rfl, ne⟩
    exact ⟨t, ⟨rfl, fun e => ne (by simp [e])⟩, rfl, ne⟩

theorem isEnglishWord_append_cons (hc : c.isAlphanum = false) {a b : Text} :
    IsEnglishWord word (a ++ c :: b) ↔ IsEnglishWord word a ∨ IsEnglishWord word b := by
  simp only [IsEnglishWord, isRunIn_append_cons hc, or_and_right, exists_or]

theorem mem_asciiWords_of_all (h : ∀ c ∈ t, c.isAlphanum = true) :
    word ∈ asciiWords t ↔ ∃ w, IsEnglishWord w t ∧ word = lowerAscii w := by
  simp only [asciiWords_of_all h, isEnglishWord_of_all h]
  constructor
  · intro mem
    split at mem
    · exact absurd mem List.not_mem_nil
    · next ne => exact ⟨_, ⟨rfl, ne⟩, List.mem_singleton.1 mem⟩
  · rintro ⟨w, ⟨rfl, ne⟩, rfl⟩
    rw [if_neg ne]
    exact List.mem_singleton_self _

/-- The words that are found are those of the text, in small letters. -/
theorem mem_asciiWords : word ∈ asciiWords t ↔ ∃ w, IsEnglishWord w t ∧ word = lowerAscii w := by
  induction t using cut_induction Char.isAlphanum with
  | all a ha => exact mem_asciiWords_of_all ha
  | cut a c b ha hc ih =>
    simp only [asciiWords_append_cons hc, isEnglishWord_append_cons hc, List.mem_append, or_and_right,
      exists_or, mem_asciiWords_of_all ha, ih]

theorem asciiWords_trim (t : Text) : asciiWords (trim t) = asciiWords t := by
  obtain ⟨lead, tail, e, blank, blank'⟩ := exists_eq_trim t
  calc asciiWords (trim t)
    _ = asciiWords (lead ++ trim t ++ tail) := by
      rw [asciiWords_append_right fun c hc => Unicode.isAlphanum_of_isBlank (blank' c hc),
        asciiWords_append_left fun c hc => Unicode.isAlphanum_of_isBlank (blank c hc)]
    _ = asciiWords t := congrArg asciiWords e.symm

/-! ## News -/

/-- A word that is neither a filler word nor a word of the identifier, also not in the plural. -/
def IsNews (identifier word : Text) : Prop :=
  word ∉ fillerWords ∧ word ∉ identifierWords identifier ∧
    dropTrailing 's' word ∉ identifierWords identifier

instance (identifier word : Text) : Decidable (IsNews identifier word) :=
  inferInstanceAs (Decidable (_ ∧ _ ∧ _))

theorem isRestatement_eq_false_iff : isRestatement identifier t = false ↔
    identifierWords identifier = [] ∨ ∃ w, IsEnglishWord w t ∧ IsNews identifier (lowerAscii w) := by
  have kept : (contentWords t).all (repeatsName (identifierWords identifier)) = false ↔
      ∃ word ∈ asciiWords t, IsNews identifier word := by
    simp [contentWords, repeatsName, IsNews]
  rw [isRestatement, Bool.and_eq_false_iff, kept]
  simp only [mem_asciiWords, List.isEmpty_iff, Bool.not_eq_false']
  refine or_congr Iff.rfl ⟨?_, ?_⟩
  · rintro ⟨_, ⟨w, hw, rfl⟩, news⟩
    exact ⟨w, hw, news⟩
  · rintro ⟨w, hw, news⟩
    exact ⟨_, ⟨w, hw, rfl⟩, news⟩

theorem isNoise_eq_false_iff (ne : trim t ≠ [])
    (unmarked : ∀ stamp ∈ generatorStamps, stamp.marks (trim t) = false) :
    isNoise identifier t = false ↔ identifierWords identifier = [] ∨
      ∃ w, IsEnglishWord w t ∧ IsNews identifier (lowerAscii w) := by
  have same : isRestatement identifier (trim t) = isRestatement identifier t := by
    simp only [isRestatement, contentWords, asciiWords_trim]
  have unmarked : generatorStamps.any (·.marks (trim t)) = false := by simpa using unmarked
  rw [isNoise, List.isEmpty_eq_false_iff.2 ne, unmarked, same, Bool.false_or, Bool.false_or,
    isRestatement_eq_false_iff]

theorem dropTrailing_append_cons {d : Char} (ne : d ≠ c) (a b : Text) :
    dropTrailing c (a ++ d :: b) = a ++ d :: dropTrailing c b := by
  have rest : (d :: a.reverse).dropWhile (· = c) = d :: a.reverse :=
    List.dropWhile_cons_of_neg (by simpa using ne)
  rw [dropTrailing, List.reverse_append, List.reverse_cons, List.append_assoc, List.singleton_append,
    List.dropWhile_append, rest, dropTrailing]
  split
  · next empty => simp [List.isEmpty_iff.1 empty]
  · simp

/-- A word that begins with a letter and holds a digit is always news. -/
theorem isNews_of_isDigit {x : Char} {w : Text} (letter : c.isDigit = false) (mem : x ∈ w)
    (digit : x.isDigit = true) (identifier : Text) : IsNews identifier (c :: w) := by
  have mixed : ∀ {v : Text}, c ∈ v → x ∈ v → v ∉ identifierWords identifier := by
    intro v hc hx h
    obtain ⟨d, same⟩ := isDigit_eq_of_mem_identifierWords h
    rw [same c hc] at letter
    rw [same x hx, letter] at digit
    exact absurd digit nofun
  have digitless : fillerWords.all (·.all (!·.isDigit)) = true := by decide
  simp only [List.all_eq_true, Bool.not_eq_true'] at digitless
  have not_s : x ≠ 's' := by
    rintro rfl
    exact absurd digit (by decide)
  obtain ⟨a, b, rfl⟩ := List.append_of_mem mem
  refine ⟨fun h => ?_, mixed (by simp) (by simp), ?_⟩
  · exact absurd digit (by simp [digitless _ h x (by simp)])
  · rw [← List.cons_append, dropTrailing_append_cons not_s]
    exact mixed (by simp) (by simp)

/-- A word that does not begin with a digit but holds one is news. -/
theorem isNews_lowerAscii {w : Text} (head : ∀ c ∈ w.head?, c.isDigit = false)
    (digits : ∃ d ∈ w, d.isDigit = true) (identifier : Text) :
    IsNews identifier (lowerAscii w) := by
  obtain ⟨d, mem, digit⟩ := digits
  cases w with
  | nil => exact absurd mem List.not_mem_nil
  | cons c w =>
    have letter : c.toLower.isDigit = false := by
      rw [Unicode.isDigit_toLower]
      exact head c rfl
    have digit' : d.toLower.isDigit = true := by rwa [Unicode.isDigit_toLower]
    rcases List.mem_cons.1 mem with rfl | mem
    · exact absurd digit' (by simp [letter])
    · exact isNews_of_isDigit letter (List.mem_map_of_mem mem) digit' identifier

/-- A longest piece of letters that are all A to Z and whose small form is news comes with a word that
is news: the piece itself, or one with digits in it. -/
theorem exists_isEnglishWord (letters : IsRunIn Unicode.isAlphabetic run t)
    (english : ∀ c ∈ run, c.isAlpha = true)
    (news : IsNews identifier (run.flatMap Unicode.toLower)) :
    ∃ w, IsEnglishWord w t ∧ IsNews identifier (lowerAscii w) := by
  obtain ⟨before, behind, rfl, longest⟩ := letters
  obtain ⟨before', x, y, behind', rfl, rfl, wider⟩ := exists_isLongest longest.ne
    (fun c hc => Unicode.isAlphanum_of_isAlpha (english c hc)) before behind
  have split : (x ++ run ++ y).dropWhile Char.isDigit = x.dropWhile Char.isDigit ++ run ++ y :=
    dropWhile_append_append longest.ne fun c hc =>
      Unicode.isDigit_of_isAlpha (english c (List.mem_of_head? hc))
  have word : IsEnglishWord (x.dropWhile Char.isDigit ++ run ++ y)
      (before' ++ x ++ run ++ (y ++ behind')) :=
    ⟨x ++ run ++ y, ⟨before', behind', by simp, wider⟩, split.symm, by simp [longest.ne]⟩
  have alnum : ∀ c ∈ x.dropWhile Char.isDigit ++ run ++ y, c.isAlphanum = true := fun c hc =>
    wider.all c ((List.dropWhile_suffix _).subset (split ▸ hc))
  by_cases digits : ∃ d ∈ x.dropWhile Char.isDigit ++ run ++ y, d.isDigit = true
  · refine ⟨_, word, isNews_lowerAscii (fun c hc => ?_) digits identifier⟩
    rw [← split] at hc
    exact eq_false_of_mem_head?_dropWhile hc
  · -- without digits the word is of letters, so that it is no longer than the run
    have letters : ∀ c ∈ x.dropWhile Char.isDigit ++ run ++ y, Unicode.isAlphabetic c = true := by
      intro c hc
      have : c.isAlpha = true ∨ c.isDigit = true := by simpa [Char.isAlphanum] using alnum c hc
      exact Unicode.isAlphabetic_of_isAlpha (this.resolve_right fun digit => digits ⟨c, hc, digit⟩)
    have no_more : y = [] := longest.behind_eq_nil fun c hc => letters c (by simp [hc])
    have no_less : x.dropWhile Char.isDigit = [] := by
      rw [← List.takeWhile_append_dropWhile (p := Char.isDigit) (l := x), ← List.append_assoc]
        at longest
      exact longest.before_eq_nil fun c hc => letters c (by simp [hc])
    rw [no_more, no_less, List.nil_append, List.append_nil] at word
    rw [Unicode.flatMap_toLower english] at news
    exact ⟨run, by simpa [no_more] using word, news⟩

theorem trim_ne_nil_of_isRunIn (letters : IsRunIn Unicode.isAlphabetic run t) : trim t ≠ [] := by
  obtain ⟨before, behind, rfl, longest⟩ := letters
  obtain ⟨c, rest, rfl⟩ := List.exists_cons_of_ne_nil longest.ne
  intro empty
  have letter := longest.all c List.mem_cons_self
  rw [Unicode.isAlphabetic_of_isBlank (trim_eq_nil_iff.1 empty c (by simp))] at letter
  exact absurd letter nofun

/-- A comment without a generator's stamp that holds a word that is news, in letters of any script, is
kept exactly if the identifier has no words or a word in the letters A to Z and digits is news. If
the word is in the letters A to Z, it is kept. -/
theorem isNoise_eq_false_iff_of_isNews
    (unmarked : ∀ stamp ∈ generatorStamps, stamp.marks (trim t) = false)
    (letters : IsRunIn Unicode.isAlphabetic run t)
    (news : IsNews identifier (run.flatMap Unicode.toLower)) :
    (isNoise identifier t = false ↔ identifierWords identifier = [] ∨
      ∃ w, IsEnglishWord w t ∧ IsNews identifier (lowerAscii w)) ∧
    ((∀ c ∈ run, c.isAlpha = true) → isNoise identifier t = false) := by
  have kept : isNoise identifier t = false ↔ _ :=
    isNoise_eq_false_iff (trim_ne_nil_of_isRunIn letters) unmarked
  exact ⟨kept, fun english => kept.2 (.inr (exists_isEnglishWord letters english news))⟩

theorem isNoise_mixed_scripts :
    (∀ stamp ∈ generatorStamps, stamp.marks (trim "Загружает cache.".toList) = false) ∧
    IsRunIn Unicode.isAlphabetic "Загружает".toList "Загружает cache.".toList ∧
    IsNews "load".toList ("Загружает".toList.flatMap Unicode.toLower) ∧
    isNoise "load".toList "Загружает cache.".toList = false := by
  have unmarked : ∀ stamp ∈ generatorStamps, stamp.marks (trim "Загружает cache.".toList) = false := by
    decide +kernel
  have letters : IsRunIn Unicode.isAlphabetic "Загружает".toList "Загружает cache.".toList :=
    ⟨[], " cache.".toList, rfl, by decide +kernel⟩
  have news : IsNews "load".toList ("Загружает".toList.flatMap Unicode.toLower) := by decide +kernel
  have word : IsEnglishWord "cache".toList "Загружает cache.".toList :=
    ⟨"cache".toList, ⟨"Загружает ".toList, ".".toList, rfl, by decide⟩, rfl, by decide⟩
  exact ⟨unmarked, letters, news,
    (isNoise_eq_false_iff_of_isNews unmarked letters news).1.2 (.inr ⟨_, word, by decide +kernel⟩)⟩

/-- A word in other letters than A to Z does not keep a comment. -/
theorem isNoise_russian_comment :
    (∀ stamp ∈ generatorStamps, stamp.marks (trim "Загружает таблицу из файла.".toList) = false) ∧
    IsRunIn Unicode.isAlphabetic "Загружает".toList "Загружает таблицу из файла.".toList ∧
    IsNews "load".toList ("Загружает".toList.flatMap Unicode.toLower) ∧
    isNoise "load".toList "Загружает таблицу из файла.".toList = true := by
  exact ⟨by decide +kernel, ⟨[], " таблицу из файла.".toList, by decide +kernel, by decide +kernel⟩,
    by decide +kernel, by decide +kernel⟩

end DocHarvest.Doc
