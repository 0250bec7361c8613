import DocHarvest.Proofs.Doc.Identifier
import DocHarvest.Proofs.Text.Lines
import Mathlib.Data.List.Chain

/-!
# Words written as an identifier

No letter and no numeral of an identifier is lost: its words are all of them in small letters
(`identifierWords.flatten_go`). The other way round, words in the letters a to z are found again in
the identifier that they are written as, always with underscores between them (`identifierWords_join`)
and in camel case exactly if behind the first word no two of a single letter follow each other
(`identifierWords_camelCase_iff`): capitals in a row are read as an acronym.
-/

namespace DocHarvest.Doc

open Text Unicode

variable {t word run w : Text} {c p : Char} {before : Option Char} {ws : List Text}

/-! ## Writing identifiers -/

/-- A word in the letters a to z. -/
structure IsSmallWord (word : Text) : Prop where
  ne : word ≠ []
  small : ∀ c ∈ word, c.isLower = true

instance (word : Text) : Decidable (IsSmallWord word) :=
  decidable_of_iff (word ≠ [] ∧ word.all Char.isLower = true)
    ⟨fun h => ⟨h.1, List.all_eq_true.1 h.2⟩, fun h => ⟨h.ne, List.all_eq_true.2 h.small⟩⟩

/-- The word with a capital at its front. -/
def capitalize : Text → Text
  | [] => []
  | c :: t => c.toUpper :: t

/-- Words one behind the other, all but the first with a capital at the front. -/
def camelCase : List Text → Text
  | [] => []
  | first :: rest => first ++ rest.flatMap capitalize

namespace identifierWords

/-! ## Nothing is lost -/

/-- The words that are found are the word being read and all letters and numerals behind it. -/
theorem flatten_go (before : Option Char) (word t : Text) :
    (go before word t).flatten = word ++ (t.filter isAlphanumeric).flatMap toLower := by
  fun_induction go before word t with
  | case1 before word empty => simpa using empty
  | case2 before word full => simp
  | case3 before word c t other empty ih =>
    rw [ih, List.isEmpty_iff.1 empty, List.filter_cons_of_neg (by simpa using other)]
  | case4 before word c t other full ih =>
    rw [List.flatten_cons, ih, List.filter_cons_of_neg (by simpa using other), List.nil_append]
  | case5 before word c t letter starts ih =>
    rw [List.flatten_cons, ih, List.filter_cons_of_pos (by simpa using letter), List.flatMap_cons]
  | case6 before word c t letter inside ih =>
    rw [ih, List.filter_cons_of_pos (by simpa using letter), List.flatMap_cons, List.append_assoc]

theorem ne_nil_of_mem_go (h : w ∈ go before word t) : w ≠ [] := by
  fun_induction go before word t with
  | case1 => exact absurd h List.not_mem_nil
  | case2 before word full =>
    rw [List.mem_singleton.1 h]
    simpa using full
  | case3 before word c t other empty ih => exact ih h
  | case4 before word c t other full ih =>
    rcases List.mem_cons.1 h with rfl | h
    · simpa using full
    · exact ih h
  | case5 before word c t letter starts ih =>
    rw [Bool.and_eq_true] at starts
    rcases List.mem_cons.1 h with rfl | h
    · simpa using starts.2
    · exact ih h
  | case6 before word c t letter inside ih => exact ih h

/-! ## One character -/

/-- A character that is neither a letter nor a numeral ends the word before it. -/
theorem go_cons_of_not (h : isAlphanumeric c = false) (ne : word ≠ []) :
    go before word (c :: t) = word :: go (some c) [] t := by
  simp [go, h, ne]

/-- A letter that starts a word ends the one before it. -/
theorem go_cons_of_startsWord (h : isAlphanumeric c = true)
    (starts : startsWord p c t.head? = true) (ne : word ≠ []) :
    go (some p) word (c :: t) = word :: go (some c) (toLower c) t := by
  simp [go, h, starts, ne]

/-- Any other letter goes on with the word being read. -/
theorem go_cons_of_inside (h : isAlphanumeric c = true)
    (inside : ∀ p ∈ before, startsWord p c t.head? = false) :
    go before word (c :: t) = go (some c) (word ++ toLower c) t := by
  cases before with
  | none => simp [go, h]
  | some p => simp [go, h, inside p rfl]

/-- The word being read is the beginning of the next word that is found. -/
theorem exists_go_eq (before : Option Char) (ne : word ≠ []) (t : Text) :
    ∃ more rest, go before word t = (word ++ more) :: rest := by
  fun_induction go before word t with
  | case1 before word empty => exact absurd (List.isEmpty_iff.1 empty) ne
  | case2 before word full => exact ⟨[], [], by simp⟩
  | case3 before word c t other empty ih => exact absurd (List.isEmpty_iff.1 empty) ne
  | case4 before word c t other full ih => exact ⟨[], _, by rw [List.append_nil]⟩
  | case5 before word c t letter starts ih => exact ⟨[], _, by rw [List.append_nil]⟩
  | case6 before word c t letter inside ih =>
    obtain ⟨more, rest, e⟩ := ih (by simp [ne])
    exact ⟨toLower c ++ more, rest, by rw [e, List.append_assoc]⟩

/-- A letter that does not start a word makes the one being read longer. -/
theorem go_ne_of_inside (h : isAlphanumeric c = true) (inside : startsWord p c t.head? = false)
    (word : Text) (ws : List Text) : go (some p) word (c :: t) ≠ word :: ws := by
  have longer : word ++ toLower c ≠ [] := by simp [toLower_ne_nil]
  obtain ⟨more, rest, e⟩ := exists_go_eq (some c) longer t
  rw [go_cons_of_inside h (by simpa using inside), e]
  intro same
  have := congrArg List.length (List.cons.inj same).1
  have := List.length_pos_iff.2 (toLower_ne_nil c)
  simp only [List.length_append] at *
  omega

/-! ## Small letters -/

/-- A letter from a to z goes on with the word behind anything but a digit. -/
theorem go_cons_small (h : c.isLower = true) (digitless : ∀ p ∈ before, p.isDigit = false) :
    go before word (c :: t) = go (some c) (word ++ [c]) t := by
  have letter := isAlpha_of_isLower h
  have inside : ∀ p ∈ before, startsWord p c t.head? = false := by
    intro p hp
    simp [startsWord, isUppercase_of_isAlpha letter, h, isDigit_of_isAlpha letter, digitless p hp]
  rw [go_cons_of_inside (isAlphanumeric_of_isAlphabetic (isAlphabetic_of_isAlpha letter)) inside,
    (toLower_of_isLower h).1]

theorem exists_go_append (ne : run ≠ []) (small : ∀ c ∈ run, c.isLower = true)
    (digitless : ∀ p ∈ before, p.isDigit = false) (word : Text) : ∃ p, p.isLower = true ∧
      ∀ t, go before word (run ++ t) = go (some p) (word ++ run) t := by
  induction run generalizing before word with
  | nil => exact absurd rfl ne
  | cons c run ih =>
    obtain ⟨h, small⟩ := List.forall_mem_cons.1 small
    cases run with
    | nil => exact ⟨c, h, fun t => go_cons_small h digitless⟩
    | cons d run =>
      have letter : ∀ p ∈ some c, p.isDigit = false := by
        rintro _ ⟨⟩
        exact isDigit_of_isAlpha (isAlpha_of_isLower h)
      obtain ⟨p, lower, read⟩ := ih (List.cons_ne_nil _ _) small letter (word ++ [c])
      refine ⟨p, lower, fun t => ?_⟩
      rw [List.cons_append, go_cons_small h digitless, read, List.append_assoc,
        List.singleton_append]

/-! ## Underscores -/

theorem go_join (words : ∀ w ∈ ws, IsSmallWord w) (digitless : ∀ p ∈ before, p.isDigit = false) :
    go before [] (join '_' ws) = ws := by
  induction ws generalizing before with
  | nil => simp [join, go]
  | cons w ws ih =>
    obtain ⟨first, words⟩ := List.forall_mem_cons.1 words
    obtain ⟨p, -, read⟩ := exists_go_append first.ne first.small digitless []
    cases ws with
    | nil =>
      have read := read []
      rw [List.append_nil, List.nil_append] at read
      rw [join, read]
      simp [go, first.ne]
    | cons next ws =>
      have underscore : ∀ p ∈ some '_', p.isDigit = false := by
        rintro _ ⟨⟩
        decide
      rw [join, read, List.nil_append, go_cons_of_not (by decide +kernel) first.ne,
        ih words underscore]

/-! ## Capitals -/

/-- What begins with a capital or is empty does not begin with a small letter. -/
theorem any_isLowercase_capitals (words : ∀ w ∈ ws, IsSmallWord w) :
    (ws.flatMap capitalize).head?.any isLowercase = false := by
  cases ws with
  | nil => rfl
  | cons w ws =>
    have first := words w List.mem_cons_self
    obtain ⟨c, w, rfl⟩ := List.exists_cons_of_ne_nil first.ne
    obtain ⟨letter, capital⟩ := isAlpha_toUpper (first.small c List.mem_cons_self)
    simp [capitalize, isLowercase_of_isAlpha letter, capital]

/-- The capital of a word starts it behind a small letter, and behind another capital if the word has
more letters. -/
theorem startsWord_toUpper_iff (hp : p.isAlpha = true) (first : IsSmallWord (c :: run))
    (others : ∀ w ∈ ws, IsSmallWord w) :
    startsWord p c.toUpper (run ++ ws.flatMap capitalize).head? = true ↔
      p.isLower = true ∨ (c :: run).length ≠ 1 := by
  obtain ⟨letter, capital⟩ := isAlpha_toUpper (first.small c List.mem_cons_self)
  have starts : ∀ after, startsWord p c.toUpper after = (p.isLower || after.any isLowercase) := by
    intro after
    cases lower : p.isLower <;>
      simp [startsWord, isUppercase_of_isAlpha letter, isUppercase_of_isAlpha hp,
        isLowercase_of_isAlpha hp, capital, lower]
  rw [starts, Bool.or_eq_true]
  refine or_congr_right ?_
  cases run with
  | nil => simp [any_isLowercase_capitals others]
  | cons d run =>
    have small := first.small d (List.mem_cons_of_mem _ List.mem_cons_self)
    simp [isLowercase_of_isAlpha (isAlpha_of_isLower small), small]

/-- Words with a capital are found behind the word being read if no two words of a single letter
follow each other. The last letter `p` of the word being read tells whether it is such a word itself:
it is a capital then. -/
theorem go_capitals_eq_iff (ne : word ≠ []) (hp : p.isAlpha = true)
    (words : ∀ w ∈ ws, IsSmallWord w) :
    go (some p) word (ws.flatMap capitalize) = word :: ws ↔
      (p.isLower = false → ∀ w ∈ ws.head?, w.length ≠ 1) ∧
      ws.IsChain fun a b => ¬(a.length = 1 ∧ b.length = 1) := by
  induction ws generalizing p word with
  | nil => simp [go, ne]
  | cons w ws ih =>
    obtain ⟨first, others⟩ := List.forall_mem_cons.1 words
    obtain ⟨c, run, rfl⟩ := List.exists_cons_of_ne_nil first.ne
    obtain ⟨h, small⟩ := List.forall_mem_cons.1 first.small
    obtain ⟨letter, capital⟩ := isAlpha_toUpper h
    have alnum := isAlphanumeric_of_isAlphabetic (isAlphabetic_of_isAlpha letter)
    -- once its capital has started the word, it ends with that capital or with a small letter
    have read : go (some c.toUpper) [c] (run ++ ws.flatMap capitalize) = (c :: run) :: ws ↔
        (∀ w ∈ ws.head?, ¬((c :: run).length = 1 ∧ w.length = 1)) ∧
          ws.IsChain fun a b => ¬(a.length = 1 ∧ b.length = 1) := by
      cases run with
      | nil => simpa [capital] using ih (List.cons_ne_nil c []) letter others
      | cons d run =>
        have digitless : ∀ p ∈ some c.toUpper, p.isDigit = false := by
          rintro _ ⟨⟩
          exact isDigit_of_isAlpha letter
        obtain ⟨q, lower, read⟩ := exists_go_append (List.cons_ne_nil d run) small digitless [c]
        rw [read]
        simpa [lower] using ih (List.cons_ne_nil c (d :: run)) (isAlpha_of_isLower lower) others
    have starts := startsWord_toUpper_iff hp first others
    rw [List.flatMap_cons, capitalize, List.cons_append, List.isChain_cons]
    by_cases parted : p.isLower = true ∨ (c :: run).length ≠ 1
    · rw [go_cons_of_startsWord alnum (starts.2 parted) ne, (toLower_of_isLower h).2,
        List.cons.injEq, eq_self, true_and, read]
      refine (and_iff_right ?_).symm
      rintro behindCapital _ ⟨⟩
      exact parted.resolve_left (by simp [behindCapital])
    · have inside := Bool.eq_false_iff.2 (mt starts.1 parted)
      refine iff_of_false (go_ne_of_inside alnum inside _ _) ?_
      rintro ⟨apart, -⟩
      rw [not_or, Bool.not_eq_true] at parted
      exact parted.2 (apart parted.1 _ rfl)

end identifierWords

/-! ## Identifiers and their words -/

theorem identifierWords_join (words : ∀ w ∈ ws, IsSmallWord w) :
    identifierWords (join '_' ws) = ws := identifierWords.go_join words nofun

theorem identifierWords_camelCase_iff (words : ∀ w ∈ ws, IsSmallWord w) :
    identifierWords (camelCase ws) = ws ↔
      ws.tail.IsChain fun a b => ¬(a.length = 1 ∧ b.length = 1) := by
  cases ws with
  | nil => simp [camelCase, identifierWords, identifierWords.go]
  | cons w ws =>
    obtain ⟨first, others⟩ := List.forall_mem_cons.1 words
    have digitless : ∀ p ∈ (none : Option Char), p.isDigit = false := nofun
    obtain ⟨p, lower, read⟩ :=
      identifierWords.exists_go_append first.ne first.small digitless []
    rw [camelCase, identifierWords, read, List.nil_append,
      identifierWords.go_capitals_eq_iff first.ne (isAlpha_of_isLower lower) others]
    simp [lower]

example : identifierWords (camelCase (["a", "b", "c", "do"].map String.toList)) =
    ["a", "bc", "do"].map String.toList := by decide +kernel

/-- The words of an identifier are not empty and hold the small forms of its letters and numerals, all
of them in their order. Words in the letters a to z that are written with underscores between them are
the words of what is written, and in camel case they are if and only if behind the first one no two of
a single letter follow each other. -/
theorem flatten_identifierWords_and_read_back :
    (∀ identifier, (∀ w ∈ identifierWords identifier, w ≠ []) ∧
      (identifierWords identifier).flatten = (identifier.filter isAlphanumeric).flatMap toLower) ∧
    ∀ ws : List Text, (∀ w ∈ ws, IsSmallWord w) →
      identifierWords (join '_' ws) = ws ∧
      (identifierWords (camelCase ws) = ws ↔
        ws.tail.IsChain fun a b => ¬(a.length = 1 ∧ b.length = 1)) :=
  ⟨fun identifier => ⟨fun _ h => identifierWords.ne_nil_of_mem_go h,
      identifierWords.flatten_go none [] identifier⟩,
    fun _ words => ⟨identifierWords_join words, identifierWords_camelCase_iff words⟩⟩

/-- Words of one letter behind the first word and between longer ones. -/
theorem identifierWords_oneLetterWords :
    (∀ w ∈ ["a", "b", "cd", "e"].map String.toList, IsSmallWord w) ∧
    camelCase (["a", "b", "cd", "e"].map String.toList) = "aBCdE".toList ∧
    identifierWords "a_b_cd_e".toList = ["a", "b", "cd", "e"].map String.toList ∧
    identifierWords "aBCdE".toList = ["a", "b", "cd", "e"].map String.toList := by
  have words : ∀ w ∈ ["a", "b", "cd", "e"].map String.toList, IsSmallWord w := by decide
  have written : camelCase (["a", "b", "cd", "e"].map String.toList) = "aBCdE".toList := rfl
  have ⟨underscores, capitals⟩ := flatten_identifierWords_and_read_back.2 _ words
  exact ⟨words, written, underscores, written ▸ capitals.2 (by decide)⟩

end DocHarvest.Doc
