import DocHarvest.Proofs.Text.Runs
import Mathlib.Data.List.TakeDrop

/-!
# Trimmed texts

A text is its trimmed form with white space before and behind it (`exists_eq_trim`), and white space
there does not count (`trim_append_append`). `trim` leaves a text alone that neither begins nor ends
with white space (`IsTrimmed.trim_eq`).
-/

namespace DocHarvest.Text

/-- Nothing but white space. -/
def IsBlank (t : Text) : Prop := ∀ c ∈ t, isBlank c = true

instance (t : Text) : Decidable (IsBlank t) :=
  decidable_of_iff (t.all isBlank = true) (by simp only [List.all_eq_true, IsBlank])

theorem isBlankText_iff {t : Text} : isBlankText t = true ↔ IsBlank t := by
  simp [isBlankText, IsBlank]

theorem trimStart_append {lead : Text} (h : IsBlank lead) (t : Text) :
    trimStart (lead ++ t) = trimStart t := List.dropWhile_append_of_pos h

theorem trimEnd_append (t : Text) {tail : Text} (h : IsBlank tail) :
    trimEnd (t ++ tail) = trimEnd t := by
  rw [trimEnd, List.reverse_append,
    List.dropWhile_append_of_pos fun c hc => h c (List.mem_reverse.1 hc), trimEnd]

theorem exists_eq_trimStart (t : Text) : ∃ lead, t = lead ++ trimStart t ∧ IsBlank lead :=
  ⟨t.takeWhile isBlank, List.takeWhile_append_dropWhile.symm, fun _ hc => List.mem_takeWhile_imp hc⟩

theorem exists_eq_trimEnd (t : Text) : ∃ tail, t = trimEnd t ++ tail ∧ IsBlank tail := by
  obtain ⟨lead, e, blank⟩ := exists_eq_trimStart t.reverse
  refine ⟨lead.reverse, ?_, fun c hc => blank c (List.mem_reverse.1 hc)⟩
  rw [trimEnd, ← List.reverse_append, ← trimStart, ← e, List.reverse_reverse]

theorem exists_eq_trim (t : Text) :
    ∃ lead tail, t = lead ++ trim t ++ tail ∧ IsBlank lead ∧ IsBlank tail := by
  obtain ⟨lead, e, blank⟩ := exists_eq_trimStart t
  obtain ⟨tail, e', blank'⟩ := exists_eq_trimEnd (trimStart t)
  exact ⟨lead, tail, by rw [List.append_assoc, trim, ← e', ← e], blank, blank'⟩

theorem trim_isInfix (t : Text) : trim t <:+: t := by
  obtain ⟨lead, tail, e, -, -⟩ := exists_eq_trim t
  exact ⟨lead, tail, e.symm⟩

theorem mem_of_mem_trimEnd {t : Text} {c : Char} (h : c ∈ trimEnd t) : c ∈ t := by
  obtain ⟨tail, e, -⟩ := exists_eq_trimEnd t
  rw [e]
  exact List.mem_append_left _ h

theorem mem_of_mem_trimStart {t : Text} {c : Char} (h : c ∈ trimStart t) : c ∈ t :=
  (List.dropWhile_suffix _).subset h

theorem mem_of_mem_trim {t : Text} {c : Char} (h : c ∈ trim t) : c ∈ t := (trim_isInfix t).subset h

/-- White space at the ends of a text does not count. -/
theorem trim_append_append {lead tail : Text} (h : IsBlank lead) (h' : IsBlank tail) (t : Text) :
    trim (lead ++ t ++ tail) = trim t := by
  have start : trimStart (t ++ tail) = trimStart t ++ tail ∨
      trimStart (t ++ tail) = [] ∧ trimStart t = [] := by
    unfold trimStart
    rw [List.dropWhile_append]
    split
    · next blank =>
      exact .inr ⟨List.dropWhile_eq_nil_iff.2 h', List.isEmpty_iff.1 blank⟩
    · exact .inl rfl
  rw [List.append_assoc, trim, trimStart_append h]
  rcases start with e | ⟨e, e'⟩
  · rw [e, trimEnd_append _ h', trim]
  · rw [e, trim, e']

theorem trim_append (t : Text) {tail : Text} (h : IsBlank tail) : trim (t ++ tail) = trim t :=
  @trim_append_append [] tail nofun h t

theorem trim_append_left {lead : Text} (h : IsBlank lead) (t : Text) : trim (lead ++ t) = trim t :=
  congrArg trimEnd (trimStart_append h t)

theorem trim_trimStart (t : Text) : trim (trimStart t) = trim t := by
  obtain ⟨lead, e, blank⟩ := exists_eq_trimStart t
  conv => rhs; rw [e, trim_append_left blank]

theorem trim_trimEnd (t : Text) : trim (trimEnd t) = trim t := by
  obtain ⟨tail, e, blank⟩ := exists_eq_trimEnd t
  conv => rhs; rw [e, trim_append _ blank]

theorem trim_trim (t : Text) : trim (trim t) = trim t :=
  (trim_trimEnd (trimStart t)).trans (trim_trimStart t)

theorem trim_eq_nil_iff {t : Text} : trim t = [] ↔ IsBlank t := by
  obtain ⟨lead, tail, e, blank, blank'⟩ := exists_eq_trim t
  constructor
  · intro h c hc
    rw [e, h, List.append_nil] at hc
    exact (List.mem_append.1 hc).elim (blank c) (blank' c)
  · intro h
    simpa [trim, trimStart, trimEnd] using trim_append [] h

/-- A text is blank, or what stands behind its first character that is not ends with white space. -/
theorem trim_eq_nil_or (t : Text) : trimStart t = [] ∧ trim t = [] ∨
    ∃ c rest tail, trimStart t = c :: (rest ++ tail) ∧ trim t = c :: rest ∧ IsBlank tail := by
  obtain ⟨tail, e, blank⟩ := exists_eq_trimEnd (trimStart t)
  rw [← trim] at e
  cases h : trim t with
  | nil =>
    have start : trimStart t = [] := List.dropWhile_eq_nil_iff.2 (trim_eq_nil_iff.1 h)
    exact .inl ⟨start, rfl⟩
  | cons c rest => exact .inr ⟨c, rest, tail, by rw [e, h]; rfl, rfl, blank⟩

/-- Only white space is trimmed. -/
theorem countP_trim (t : Text) : (trim t).countP (!isBlank ·) = t.countP (!isBlank ·) := by
  obtain ⟨lead, tail, e, blank, blank'⟩ := exists_eq_trim t
  have none : ∀ {l : Text}, IsBlank l → l.countP (!isBlank ·) = 0 := fun {l} h =>
    List.countP_eq_zero.2 fun c hc => by simp [h c hc]
  conv_rhs => rw [e, List.countP_append, List.countP_append, none blank, none blank', Nat.zero_add]
  rfl

theorem length_trim_le (t : Text) : (trim t).length ≤ t.length := by
  obtain ⟨lead, tail, e, -, -⟩ := exists_eq_trim t
  have := congrArg List.length e
  simp only [List.length_append] at this
  omega

/-! ## Trimmed texts -/

/-- A text that neither begins nor ends with white space. -/
structure IsTrimmed (t : Text) : Prop where
  head : ∀ c ∈ t.head?, isBlank c = false
  last : ∀ c ∈ t.getLast?, isBlank c = false

instance (t : Text) : Decidable (IsTrimmed t) :=
  decidable_of_iff (t.head?.all (!isBlank ·) = true ∧ t.getLast?.all (!isBlank ·) = true) (by
    simp only [Option.all_eq_true, Bool.not_eq_true']
    exact ⟨fun h => ⟨h.1, h.2⟩, fun h => ⟨h.head, h.last⟩⟩)

theorem trimStart_eq_self {t : Text} (h : ∀ c ∈ t.head?, isBlank c = false) : trimStart t = t := by
  cases t with
  | nil => rfl
  | cons c t => rw [trimStart, List.dropWhile_cons_of_neg (by simp [h c rfl])]

theorem IsTrimmed.trim_eq {t : Text} (h : IsTrimmed t) : trim t = t := by
  rw [trim, trimStart_eq_self h.head, trimEnd, ← trimStart, trimStart_eq_self,
    List.reverse_reverse]
  simpa using h.last

theorem isTrimmed_trim (t : Text) : IsTrimmed (trim t) := by
  constructor
  · rcases trim_eq_nil_or t with ⟨-, e⟩ | ⟨c, rest, tail, e, e', -⟩
    · rw [e]
      exact nofun
    · intro d hd
      rw [e'] at hd
      obtain rfl := Option.some.inj hd
      have start := List.head?_dropWhile_not isBlank t
      rw [← trimStart, e] at start
      simpa using start
  · intro d hd
    rw [trim, trimEnd, List.getLast?_reverse] at hd
    have stop := List.head?_dropWhile_not isBlank (trimStart t).reverse
    rw [Option.mem_def.1 hd] at stop
    simpa using stop

theorem trim_eq_self_iff {t : Text} : trim t = t ↔ IsTrimmed t :=
  ⟨fun e => e ▸ isTrimmed_trim t, IsTrimmed.trim_eq⟩

theorem trimStart_trim (t : Text) : trimStart (trim t) = trim t :=
  trimStart_eq_self (isTrimmed_trim t).head

theorem IsTrimmed.isBlank_iff {t : Text} (h : IsTrimmed t) : IsBlank t ↔ t = [] := by
  rw [← trim_eq_nil_iff, h.trim_eq]

theorem trimStart_space {t : Text} (h : ∀ c ∈ t.head?, isBlank c = false) :
    trimStart (' ' :: t) = t := by
  have space : IsBlank [' '] := isBlankText_iff.1 rfl
  exact (trimStart_append space t).trans (trimStart_eq_self h)

theorem nonBlank?_eq_some {t : Text} (h : IsTrimmed t) (ne : t ≠ []) : nonBlank? t = some t := by
  simp [nonBlank?, h.trim_eq, ne]

theorem length_le_of_nonBlank? {t v : Text} (h : nonBlank? t = some v) : v.length ≤ t.length := by
  simp only [nonBlank?] at h
  split at h
  · cases h
  · exact Option.some.inj h ▸ length_trim_le t

/-- Text on one line, with something on it and without white space at its ends. -/
structure IsLine (t : Text) : Prop extends IsTrimmed t where
  ne : t ≠ []
  newline : '\n' ∉ t

instance (t : Text) : Decidable (IsLine t) :=
  decidable_of_iff (IsTrimmed t ∧ t ≠ [] ∧ '\n' ∉ t)
    ⟨fun h => ⟨h.1, h.2.1, h.2.2⟩, fun h => ⟨h.toIsTrimmed, h.ne, h.newline⟩⟩

theorem IsLine.nonBlank?_eq {t : Text} (h : IsLine t) : nonBlank? t = some t :=
  nonBlank?_eq_some h.toIsTrimmed h.ne

theorem isLine_of_solid {t : Text} (ne : t ≠ []) (h : ∀ c ∈ t, isBlank c = false) : IsLine t where
  head c hc := h c (List.mem_of_head? hc)
  last c hc := h c (List.mem_of_getLast? hc)
  ne := ne
  newline mem := absurd (h _ mem) (by decide)

/-- More text on a line, up to something that is not white space. -/
theorem IsLine.append {a b : Text} (h : IsLine a) (ended : ∀ c ∈ b.getLast?, isBlank c = false)
    (newline : '\n' ∉ b) : IsLine (a ++ b) where
  head c hc := by
    obtain ⟨d, a, rfl⟩ := List.exists_cons_of_ne_nil h.ne
    exact h.head c hc
  last c hc := by
    rw [List.getLast?_append] at hc
    cases last : b.getLast? with
    | none =>
      rw [last] at hc
      exact h.last c hc
    | some d =>
      rw [last] at hc
      exact ended c (last.trans hc)
  ne := List.append_ne_nil_of_left_ne_nil h.ne b
  newline mem := (List.mem_append.1 mem).elim h.newline newline

/-! ## First words -/

/-- A word with white space behind it is the first word. -/
theorem splitFirstWord_append {word rest : Text} (ne : word ≠ []) (h : ∀ c ∈ word, isBlank c = false)
    (behind : ∀ c ∈ rest.head?, isBlank c = true) : splitFirstWord (word ++ rest) = (word, rest) := by
  have start : trimStart (word ++ rest) = word ++ rest := by
    refine trimStart_eq_self fun c hc => ?_
    obtain ⟨d, word, rfl⟩ := List.exists_cons_of_ne_nil ne
    exact h c (by simp_all)
  have all : ∀ c ∈ word, (!isBlank c) = true := fun c hc => by simp [h c hc]
  have stop : ∀ c ∈ rest.head?, (!isBlank c) = false := fun c hc => by simp [behind c hc]
  have ⟨taken, dropped⟩ := takeWhile_append_of_stop all stop
  rw [splitFirstWord, start, List.span_eq_takeWhile_dropWhile, taken, dropped]

end DocHarvest.Text
