import DocHarvest.Doc.Identifier
import DocHarvest.Proofs.Unicode.Letters

/-!
# What the words of an identifier are made of

`exists_of_mem_go` : what holds of the word being read from one character to the next holds of the
words that are found. A word is a number or has no digit (`isDigit_eq_of_mem_identifierWords`), and the
words of an ASCII identifier are of the letters A to Z and digits (`isAlphanum_of_mem_identifierWords`).
-/

namespace DocHarvest.Doc

open Text Unicode

variable {identifier t word : Text} {c : Char}

/-- What is kept from one character to the next holds of the words: `P` speaks of the character just
passed and of the word being read. -/
theorem exists_of_mem_go {P : Option Char → Text → Prop} {before : Option Char} {w : Text}
    (empty : ∀ before, P before [])
    (next : ∀ c ∈ t, isAlphanumeric c = true → ∀ before after word, P before word →
      (before.any (startsWord · c after) = true → word = []) → P (some c) (word ++ toLower c))
    (reading : P before word) (h : w ∈ identifierWords.go before word t) : ∃ before, P before w := by
  induction t generalizing before word with
  | nil =>
    unfold identifierWords.go at h
    split at h
    · exact absurd h List.not_mem_nil
    · exact ⟨before, List.mem_singleton.1 h ▸ reading⟩
  | cons c t ih =>
    have ih {before : Option Char} {word : Text} (reading : P before word)
        (h : w ∈ identifierWords.go before word t) :=
      ih (fun x hx => next x (List.mem_cons_of_mem _ hx)) reading h
    have next := next c List.mem_cons_self
    unfold identifierWords.go at h
    split at h
    · split at h
      · exact ih (empty _) h
      · rcases List.mem_cons.1 h with rfl | h
        · exact ⟨before, reading⟩
        · exact ih (empty _) h
    · next alphanumeric =>
      rw [Bool.not_eq_true, Bool.not_eq_false'] at alphanumeric
      split at h
      · rcases List.mem_cons.1 h with rfl | h
        · exact ⟨before, reading⟩
        · exact ih (next alphanumeric none none [] (empty none) nofun) h
      · next inside =>
        exact ih (next alphanumeric before t.head? word reading (by simpa using inside)) h

/-! ## Digits -/

/-- A word ends where digits begin or end. -/
theorem startsWord_of_isDigit_ne {before : Char} (ne : c.isDigit ≠ before.isDigit)
    (h : isAlphanumeric before = true) (after : Option Char) :
    startsWord before c after = true := by
  have caseless : (isUppercase c && isLowercase before) = false ∧
      (isUppercase c && isUppercase before) = false := by
    by_cases digit : c.isDigit = true
    · simp [(not_cased_of_isDigit digit).1]
    · have digit' : before.isDigit = true := by simp_all
      simp [not_cased_of_isDigit digit']
  simp [startsWord, caseless, ne, h]

/-- All characters of the word being read are digits, or none is, as the one just passed. -/
def IsReading (before : Option Char) (word : Text) : Prop :=
  ∀ x ∈ word, ∃ p, before = some p ∧ isAlphanumeric p = true ∧ x.isDigit = p.isDigit

theorem isReading_nil (before : Option Char) : IsReading before [] := nofun

/-- A character that does not start a word goes on with the one being read. -/
theorem IsReading.append_toLower {before after : Option Char} (h : IsReading before word)
    (hc : isAlphanumeric c = true) (inside : before.any (startsWord · c after) = true → word = []) :
    IsReading (some c) (word ++ toLower c) := by
  intro x hx
  refine ⟨c, rfl, hc, ?_⟩
  rcases List.mem_append.1 hx with hx | hx
  · obtain ⟨p, rfl, hp, same⟩ := h x hx
    rw [same]
    by_cases diff : p.isDigit = c.isDigit
    · exact diff
    · have none := inside (startsWord_of_isDigit_ne (Ne.symm diff) hp after)
      exact absurd none (List.ne_nil_of_mem hx)
  · exact isDigit_of_mem_toLower hx

/-- A word of an identifier is a number or has no digit. -/
theorem isDigit_eq_of_mem_identifierWords (h : word ∈ identifierWords identifier) :
    ∃ d, ∀ x ∈ word, x.isDigit = d := by
  obtain ⟨before, reading⟩ := exists_of_mem_go (P := IsReading) isReading_nil
    (fun _ _ hc _ _ _ reading inside => reading.append_toLower hc inside) (isReading_nil none) h
  refine ⟨before.any Char.isDigit, fun x hx => ?_⟩
  obtain ⟨p, rfl, -, same⟩ := reading x hx
  exact same

/-! ## ASCII identifiers -/

theorem isAlphanum_of_mem_identifierWords (ascii : ∀ c ∈ identifier, c.toNat < 128)
    (h : word ∈ identifierWords identifier) : ∀ c ∈ word, c.isAlphanum = true := by
  have letters : ∀ c ∈ identifier, isAlphanumeric c = true → ∀ x ∈ toLower c,
      x.isAlphanum = true := by
    intro c hc alphanumeric x hx
    have alnum := isAlphanum_of_isAlphanumeric (ascii c hc) alphanumeric
    rw [toLower_of_isAlphanum alnum, List.mem_singleton] at hx
    rwa [hx, isAlphanum_toLower]
  obtain ⟨-, all⟩ := exists_of_mem_go (P := fun _ word => ∀ x ∈ word, x.isAlphanum = true)
    (fun _ => List.forall_mem_nil _)
    (fun c hc alphanumeric _ _ _ reading _ =>
      List.forall_mem_append.2 ⟨reading, letters c hc alphanumeric⟩) (List.forall_mem_nil _) h
  exact all

end DocHarvest.Doc
