import DocHarvest.Proofs.Text.Trim

/-!
# Words

White space parts the words of a text (`words_append_cons`), and at the ends of a text it does not
count (`words_trim`).
-/

namespace DocHarvest.Text

variable {c : Char} {t : Text}

theorem words_go_append (hc : isBlank c = true) (word a b : Text) :
    words.go word (a ++ c :: b) = words.go word a ++ words b := by
  induction a generalizing word with
  | nil => cases word <;> simp [words, words.go, hc]
  | cons d a ih =>
    rw [List.cons_append, words.go, words.go, ih, ih]
    split
    · split <;> rfl
    · rfl

theorem words_append_cons (hc : isBlank c = true) (a b : Text) :
    words (a ++ c :: b) = words a ++ words b := words_go_append hc [] a b

theorem words_of_isBlank (h : IsBlank t) : words t = [] := by
  induction t with
  | nil => rfl
  | cons c t ih =>
    have parted := words_append_cons (h c List.mem_cons_self) [] t
    rw [List.nil_append] at parted
    rw [parted, ih fun x hx => h x (List.mem_cons_of_mem _ hx)]
    rfl

/-- A text without white space is one word. -/
theorem words_of_solid (ne : t ≠ []) (h : ∀ c ∈ t, isBlank c = false) : words t = [t] := by
  suffices read : ∀ t word : Text, word ++ t ≠ [] → (∀ c ∈ t, isBlank c = false) →
      words.go word t = [word.reverse ++ t] from read t [] ne h
  intro t
  induction t with
  | nil =>
    intro word ne _
    have full : word.isEmpty = false := by simpa using ne
    simp [words.go, full]
  | cons c t ih =>
    intro word _ h
    rw [words.go, if_neg (by simp [h c List.mem_cons_self]),
      ih (c :: word) (by simp) fun x hx => h x (List.mem_cons_of_mem _ hx)]
    simp

theorem words_append_left {lead : Text} (h : IsBlank lead) (t : Text) :
    words (lead ++ t) = words t := by
  rcases List.eq_nil_or_concat lead with rfl | ⟨lead, c, rfl⟩
  · rfl
  · rw [List.concat_eq_append] at h ⊢
    rw [List.append_assoc, List.singleton_append, words_append_cons (h c (by simp)),
      words_of_isBlank fun x hx => h x (by simp [hx]), List.nil_append]

theorem words_append_right (t : Text) {tail : Text} (h : IsBlank tail) :
    words (t ++ tail) = words t := by
  cases tail with
  | nil => rw [List.append_nil]
  | cons c tail =>
    rw [words_append_cons (h c List.mem_cons_self),
      words_of_isBlank fun x hx => h x (List.mem_cons_of_mem _ hx), List.append_nil]

theorem words_trim (t : Text) : words (trim t) = words t := by
  obtain ⟨lead, tail, e, blank, blank'⟩ := exists_eq_trim t
  conv => rhs; rw [e, words_append_right _ blank', words_append_left blank]

end DocHarvest.Text
