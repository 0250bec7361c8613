import DocHarvest.Unicode.LetterCase
import DocHarvest.Unicode.Numeric
import DocHarvest.Text.Basic

/-!
# The English alphabet, digits and white space among all characters

The tables of the Unicode properties agree with the classes of the first 128 characters: the letters
A to Z are letters with the small forms one expects (`isAlphabetic_of_isAlpha`,
`toLower_of_isAlphanum`), no other of these characters but a digit is a letter or a numeral
(`isAlphanum_of_isAlphanumeric`), digits have no case, and only a digit has a digit for its small form
(`isDigit_of_mem_toLower`). White space holds no letter (`isAlphabetic_of_isBlank`).
-/

namespace DocHarvest.Unicode

open Text

variable {c : Char}

/-! ## Letters A to Z and digits -/

theorem toNat_lt_of_isAlphanum (h : c.isAlphanum = true) : c.toNat < 128 := by
  have classes : ((decide ('A'.val ≤ c.val ∧ c.val ≤ 'Z'.val) ||
      ('a'.val ≤ c.val && c.val ≤ 'z'.val)) || ('0'.val ≤ c.val && c.val ≤ '9'.val)) = true := h
  simp only [Bool.or_eq_true, Bool.and_eq_true, decide_eq_true_eq, UInt32.le_iff_toNat_le] at classes
  have : c.toNat = c.val.toNat := rfl
  have : 'Z'.val.toNat = 90 := rfl
  have : 'z'.val.toNat = 122 := rfl
  have : '9'.val.toNat = 57 := rfl
  omega

/-- What holds of the letters and digits among the first 128 characters, one by one, holds of all. -/
theorem forall_of_isAlphanum {P : Char → Prop}
    (h : ∀ n < 128, (Char.ofNat n).isAlphanum → P (Char.ofNat n)) (hc : c.isAlphanum = true) :
    P c := by
  have := h c.toNat (toNat_lt_of_isAlphanum hc)
  rw [Char.ofNat_toNat] at this
  exact this hc

theorem isAlphanum_of_isAlpha (h : c.isAlpha = true) : c.isAlphanum = true := by
  simp [Char.isAlphanum, h]

theorem isAlphanum_of_isDigit (h : c.isDigit = true) : c.isAlphanum = true := by
  simp [Char.isAlphanum, h]

theorem isDigit_of_isAlpha (h : c.isAlpha = true) : c.isDigit = false :=
  forall_of_isAlphanum (P := fun c => c.isAlpha → c.isDigit = false) (by decide)
    (isAlphanum_of_isAlpha h) h

theorem isAlphabetic_of_toNat_lt (ascii : c.toNat < 128) : isAlphabetic c = c.isAlpha := by
  have all : ∀ n < 128, isAlphabetic (Char.ofNat n) = (Char.ofNat n).isAlpha := by decide +kernel
  simpa using all c.toNat ascii

theorem isAlphabetic_of_isAlpha (h : c.isAlpha = true) : isAlphabetic c = true :=
  (isAlphabetic_of_toNat_lt (toNat_lt_of_isAlphanum (isAlphanum_of_isAlpha h))).trans h

/-- Among the first 128 characters, the letters and numerals are the letters A to Z and digits. -/
theorem isAlphanum_of_isAlphanumeric (ascii : c.toNat < 128) (h : isAlphanumeric c = true) :
    c.isAlphanum = true := by
  have all : ∀ n < 128, isAlphanumeric (Char.ofNat n) = true → (Char.ofNat n).isAlphanum = true := by
    decide +kernel
  simpa [h] using all c.toNat ascii

theorem toLower_of_isAlphanum (h : c.isAlphanum = true) : toLower c = [c.toLower] :=
  forall_of_isAlphanum (P := fun c => toLower c = [c.toLower]) (by decide +kernel) h

theorem toLower_eq_self (h : c.isAlphanum = false) : c.toLower = c := by
  unfold Char.toLower
  split
  · next capital =>
    have upper : c.isUpper = true := decide_eq_true capital
    have letter : c.isAlpha = true := Bool.or_eq_true_iff.2 (.inl upper)
    rw [isAlphanum_of_isAlpha letter] at h
    cases h
  · rfl

theorem isDigit_toLower (c : Char) : c.toLower.isDigit = c.isDigit := by
  by_cases h : c.isAlphanum = true
  · exact forall_of_isAlphanum (P := fun c => c.toLower.isDigit = c.isDigit) (by decide) h
  · rw [toLower_eq_self (by simpa using h)]

theorem isAlphanum_toLower (c : Char) : c.toLower.isAlphanum = c.isAlphanum := by
  by_cases h : c.isAlphanum = true
  · exact forall_of_isAlphanum (P := fun c => c.toLower.isAlphanum = c.isAlphanum) (by decide) h
  · rw [toLower_eq_self (by simpa using h)]

/-- A digit is neither a capital nor a small letter. -/
theorem not_cased_of_isDigit (h : c.isDigit = true) :
    isUppercase c = false ∧ isLowercase c = false :=
  forall_of_isAlphanum
    (P := fun c => c.isDigit → isUppercase c = false ∧ isLowercase c = false) (by decide +kernel)
    (isAlphanum_of_isDigit h) h

/-- Of the letters A to Z and a to z, the latter have the Lowercase property and the others the
Uppercase property. -/
theorem isLowercase_of_isAlpha (h : c.isAlpha = true) : isLowercase c = c.isLower :=
  forall_of_isAlphanum (P := fun c => isLowercase c = c.isLower) (by decide +kernel)
    (isAlphanum_of_isAlpha h)

theorem isUppercase_of_isAlpha (h : c.isAlpha = true) : isUppercase c = !c.isLower :=
  forall_of_isAlphanum (P := fun c => c.isAlpha → isUppercase c = !c.isLower) (by decide +kernel)
    (isAlphanum_of_isAlpha h) h

theorem isAlpha_of_isLower (h : c.isLower = true) : c.isAlpha = true :=
  Bool.or_eq_true_iff.2 (.inr h)

theorem isAlpha_toUpper (h : c.isLower = true) :
    c.toUpper.isAlpha = true ∧ c.toUpper.isLower = false :=
  forall_of_isAlphanum
    (P := fun c => c.isLower → c.toUpper.isAlpha = true ∧ c.toUpper.isLower = false) (by decide)
    (isAlphanum_of_isAlpha (isAlpha_of_isLower h)) h

/-! ## Small forms -/

theorem isDigit_ofNat {n : Nat} (h : 0x3A ≤ n) : (Char.ofNat n).isDigit = false := by
  by_cases valid : n.isValidChar
  · have value : (Char.ofNat n).val.toNat = n := by
      rw [show Char.ofNat n = Char.ofNatAux n valid from dif_pos valid]
      rfl
    have nine : '9'.val.toNat = 57 := rfl
    simp only [Char.isDigit, Bool.and_eq_false_iff, decide_eq_false_iff_not, UInt32.le_iff_toNat_le]
    omega
  · rw [show Char.ofNat n = '\u0000' from dif_neg valid]
    rfl

theorem SmallFormTable.find_eq_or {table : SmallFormTable}
    (high : ∀ row ∈ table, 0x3A ≤ row.1 ∧ 0x3A ≤ row.2.2.2) (n : Nat) :
    table.find n = n ∨ 0x3A ≤ n ∧ 0x3A ≤ table.find n := by
  induction table with
  | nil => exact .inl rfl
  | cons row table ih =>
    obtain ⟨first, last, step, small⟩ := row
    have bounds := high _ List.mem_cons_self
    simp only at bounds
    unfold SmallFormTable.find
    split
    · next inside =>
      simp only [Bool.and_eq_true, decide_eq_true_eq] at inside
      omega
    · exact ih fun row hr => high row (List.mem_cons_of_mem _ hr)

/-- A small form is a digit only as the small form of that digit. -/
theorem isDigit_of_mem_toLower {x : Char} (h : x ∈ toLower c) : x.isDigit = c.isDigit := by
  unfold toLower at h
  split at h
  · next e =>
    subst e
    simp only [List.mem_cons, List.not_mem_nil, or_false] at h
    rcases h with rfl | rfl <;> rfl
  · obtain rfl := List.mem_singleton.1 h
    have high : ∀ row ∈ smallFormTable, 0x3A ≤ row.1 ∧ 0x3A ≤ row.2.2.2 := by decide +kernel
    rcases SmallFormTable.find_eq_or high c.toNat with e | ⟨le, le'⟩
    · rw [e, Char.ofNat_toNat]
    · rw [isDigit_ofNat le', ← Char.ofNat_toNat c, isDigit_ofNat le]

/-- The small form of a small letter and of its capital. -/
theorem toLower_of_isLower (h : c.isLower = true) : toLower c = [c] ∧ toLower c.toUpper = [c] :=
  forall_of_isAlphanum (P := fun c => c.isLower → toLower c = [c] ∧ toLower c.toUpper = [c])
    (by decide +kernel) (isAlphanum_of_isAlpha (isAlpha_of_isLower h)) h

theorem flatMap_toLower {run : Text} (h : ∀ c ∈ run, c.isAlpha = true) :
    run.flatMap toLower = lowerAscii run := by
  induction run with
  | nil => rfl
  | cons c run ih =>
    rw [List.flatMap_cons, toLower_of_isAlphanum (isAlphanum_of_isAlpha (h c List.mem_cons_self)),
      ih fun x hx => h x (List.mem_cons_of_mem _ hx)]
    rfl

/-! ## White space -/

/-- The numbers of the white space characters. -/
def blankCodes : List Nat :=
  List.range' 0x9 5 ++ [0x20, 0x85, 0xA0, 0x1680] ++ List.range' 0x2000 11 ++
    [0x2028, 0x2029, 0x202F, 0x205F, 0x3000]

theorem mem_blankCodes (h : isBlank c = true) : c.toNat ∈ blankCodes := by
  simp only [isBlank, Bool.or_eq_true, Bool.and_eq_true, decide_eq_true_eq, Char.le_def,
    UInt32.le_iff_toNat_le] at h
  have number : c.val.toNat = c.toNat := rfl
  have tab : '\t'.val.toNat = 0x9 := rfl
  have carriageReturn : '\r'.val.toNat = 0xD := rfl
  have quad : '\u2000'.val.toNat = 0x2000 := rfl
  have hair : '\u200a'.val.toNat = 0x200A := rfl
  rw [number, tab, carriageReturn, quad, hair] at h
  simp only [blankCodes, List.mem_append, List.mem_range'_1]
  rcases h with (((((((((rfl | h) | rfl) | rfl) | rfl) | h) | rfl) | rfl) | rfl) | rfl) | rfl
  all_goals first | omega | simp

/-- White space holds no letter. -/
theorem isAlphabetic_of_isBlank (h : isBlank c = true) : isAlphabetic c = false := by
  have all : ∀ n ∈ blankCodes, alphabeticTable.holds n = false := by decide +kernel
  exact all c.toNat (mem_blankCodes h)

theorem isBlank_of_isAlphabetic (h : isAlphabetic c = true) : isBlank c = false := by
  rw [Bool.eq_false_iff]
  intro blank
  rw [isAlphabetic_of_isBlank blank] at h
  cases h

theorem isAlphanum_of_isBlank (h : isBlank c = true) : c.isAlphanum = false := by
  rw [Bool.eq_false_iff]
  intro alnum
  have := forall_of_isAlphanum (P := fun c => isBlank c = false) (by decide) alnum
  rw [h] at this
  exact absurd this nofun

end DocHarvest.Unicode
